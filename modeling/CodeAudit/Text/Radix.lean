/-!
# Numbers in other bases

Digits of the bases two, eight, ten and sixteen, and the numbers that they write. Only ASCII
characters are digits here.
-/

namespace CodeAudit.Text

def isHexDigit (c : Char) : Bool :=
  c.isDigit || ('a' ≤ c && c ≤ 'f') || ('A' ≤ c && c ≤ 'F')

def isOctDigit (c : Char) : Bool :=
  '0' ≤ c && c ≤ '7'

def isBinDigit (c : Char) : Bool :=
  c == '0' || c == '1'

def digitOf (c : Char) : Nat :=
  if c.isDigit then c.toNat - 48
  else if 'a' ≤ c && c ≤ 'f' then c.toNat - 87
  else c.toNat - 55

def ofDigits (base : Nat) (ds : List Char) : Nat :=
  ds.foldl (fun n d => base * n + digitOf d) 0

end CodeAudit.Text
