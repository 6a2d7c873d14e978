import CodeAudit.Advice.Location

/-!
# Idioms

Idioms are recognised by the lines on which their matchers match. The confidence says how many
different lines there are; only the first few are listed.
-/

namespace CodeAudit.Advice

open CodeAudit.Rule (Matcher)
open CodeAudit.Source (Buffer)

structure IdiomRule where
  id : String
  name : String
  level : String
  matchers : List Matcher
  description : String := ""
  deriving Repr, Inhabited

structure DetectedIdiom where
  id : String
  name : String
  level : String
  confidence : String
  description : String
  locations : List Location
  deriving DecidableEq, Repr, Inhabited

def maxIdiomLocations : Nat := 5

def confidenceFor (distinctLines : Nat) : String :=
  if 3 ≤ distinctLines then "high" else if distinctLines == 2 then "medium" else "low"

namespace IdiomRule

/-- The different lines on which an idiom shows, by matcher and then by place. -/
def locations (rule : IdiomRule) (buffer : Buffer) : List Location :=
  Location.distinct (rule.matchers.flatMap fun m =>
    (m.findAll buffer.text).map (Location.ofMatch buffer.index))

def detect? (buffer : Buffer) (rule : IdiomRule) : Option DetectedIdiom :=
  match rule.locations buffer with
  | [] => none
  | found =>
    some {
      id := rule.id, name := rule.name, level := rule.level
      confidence := confidenceFor found.length, description := rule.description
      locations := found.take maxIdiomLocations }

end IdiomRule

def detectIdioms (rules : List IdiomRule) (buffer : Buffer) : List DetectedIdiom :=
  rules.filterMap (IdiomRule.detect? buffer)

end CodeAudit.Advice
