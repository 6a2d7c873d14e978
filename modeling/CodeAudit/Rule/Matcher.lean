import CodeAudit.Regex.Search

/-!
# Matchers

A pattern together with its repeat policy: a matcher that does not repeat stops after its first
match. Matching keeps no state, so a matcher can be shared by any number of scans.
-/

namespace CodeAudit.Rule

open CodeAudit.Regex (Flags Pattern Match)

/-- A pattern and whether it is matched repeatedly. -/
structure Matcher where
  pattern : Pattern
  repeats : Bool := true
  deriving Repr, Inhabited

namespace Matcher

def search (m : Matcher) (text : Array Char) : Option Match :=
  m.pattern.search text

def findAll (m : Matcher) (text : Array Char) : List Match :=
  if m.repeats then m.pattern.findAll text else (m.search text).toList

def count (m : Matcher) (text : Array Char) : Nat :=
  (m.findAll text).length

end Matcher

/-- What a flag letter adds to the switches and to whether to repeat. Gives a letter without a meaning
as an error. -/
def addLetter (read : Flags × Bool) (c : Char) : Except Char (Flags × Bool) :=
  match c with
  | 'g' => .ok (read.1, true)
  | 'i' => .ok ({ read.1 with ignoreCase := true }, read.2)
  | 'm' => .ok ({ read.1 with multiLine := true }, read.2)
  | 's' => .ok ({ read.1 with dotAll := true }, read.2)
  | 'u' => .ok read
  | c => .error c

def parseFlags (letters : String) : Except Char (Flags × Bool) :=
  letters.toList.foldlM addLetter ({}, false)

end CodeAudit.Rule
