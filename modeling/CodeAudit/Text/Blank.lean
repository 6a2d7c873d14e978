/-!
# Blanks

The characters that count as white space when text is trimmed, split into words or matched by the
shorthand class for blanks.
-/

namespace CodeAudit.Text

/-- White space: the ASCII blanks and separators, the next-line control, and the spaces and line
separators of Unicode. The zero-width space and the byte-order mark are not blank. -/
def isBlank (c : Char) : Bool :=
  let n := c.toNat
  (9 ≤ n && n ≤ 13) || (28 ≤ n && n ≤ 32) || n == 0x85 || n == 0xA0 || n == 0x1680 ||
    (0x2000 ≤ n && n ≤ 0x200A) || n == 0x2028 || n == 0x2029 || n == 0x202F || n == 0x205F ||
    n == 0x3000

def dropBlanksRight (cs : List Char) : List Char :=
  (cs.reverse.dropWhile isBlank).reverse

def stripChars (cs : List Char) : List Char :=
  dropBlanksRight (cs.dropWhile isBlank)

def strip (s : String) : String :=
  String.ofList (stripChars s.toList)

def isBlankText (s : String) : Bool :=
  s.toList.all isBlank

end CodeAudit.Text
