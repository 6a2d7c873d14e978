/-!
# Literal texts in patterns

How a text is written so that a pattern matches exactly that text.
-/

namespace CodeAudit.Regex

/-- The characters that are written with a backslash: everything with a meaning in patterns, in
sets or in verbose patterns. -/
def specialChars : List Char :=
  ['(', ')', '[', ']', '{', '}', '?', '*', '+', '-', '|', '^', '$', '\\', '.', '&', '~', '#', ' ',
    '\t', '\n', '\r', Char.ofNat 11, Char.ofNat 12]

def escapeChar (c : Char) : List Char :=
  if specialChars.contains c then ['\\', c] else [c]

def escape (s : String) : String :=
  String.ofList (s.toList.flatMap escapeChar)

end CodeAudit.Regex
