import CodeAudit.Rule.Matcher
import CodeAudit.Source.Lines

/-!
# Locations

Where something was seen: a line number and the line without blanks around it. Several matches on
one line are one location.
-/

namespace CodeAudit.Advice

open CodeAudit.Regex (Match)
open CodeAudit.Source (Buffer LineIndex)

structure Location where
  line : Int
  code : String
  deriving DecidableEq, Repr, Inhabited

namespace Location

def ofMatch (index : LineIndex) (m : Match) : Location :=
  let (line, code) := index.snippetAt m.start
  { line, code }

def distinctFrom (seen : List Int) : List Location → List Location
  | [] => []
  | loc :: rest =>
    if seen.contains loc.line then distinctFrom seen rest
    else loc :: distinctFrom (loc.line :: seen) rest

def distinct (locations : List Location) : List Location :=
  distinctFrom [] locations

end Location

def levels : List String := ["architectural", "design", "implementation"]

def levelFilters : List String := ["architectural", "design", "implementation", "all"]

end CodeAudit.Advice
