import CodeAudit.Advice.Location

/-!
# Suggestions

A suggestion is made when its occasion shows at least as often as its threshold, and at least once,
unless the better way is already used somewhere in the file.
-/

namespace CodeAudit.Advice

open CodeAudit.Rule (Matcher)
open CodeAudit.Source (Buffer)

structure Approach where
  name : String
  description : String := ""
  why : String := ""
  benefits : List String := []
  tradeoffs : List String := []
  codeSample : String := ""
  deriving DecidableEq, Repr, Inhabited

structure CodeChange where
  before : String
  after : String
  deriving DecidableEq, Repr, Inhabited

structure Plan where
  kind : String
  description : String := ""
  steps : List String := []
  change : Option CodeChange := none
  deriving DecidableEq, Repr, Inhabited

/-- A suggestion and its occasion. -/
structure SuggestionRule where
  id : String
  title : String
  level : String
  detector : Matcher
  approach : Approach
  plan : Plan
  threshold : Int := 1
  /-- What shows that the suggestion is already followed. -/
  adopted : Option Matcher := none
  deriving Repr, Inhabited

structure CurrentApproach where
  name : String
  description : String
  codeSample : String
  line : Option Int := none
  deriving DecidableEq, Repr, Inhabited

structure Suggestion where
  id : String
  title : String
  level : String
  priority : String
  occurrences : Int
  current : CurrentApproach
  suggested : Approach
  plan : Plan
  deriving DecidableEq, Repr, Inhabited

def priorityFor (count : Nat) : String :=
  if 5 ≤ count then "high" else if 3 ≤ count then "medium" else "low"

def showsIn (buffer : Buffer) (m : Matcher) : Bool :=
  (m.search buffer.text).isSome

def SuggestionRule.due? (buffer : Buffer) (rule : SuggestionRule) : Option Suggestion :=
  match rule.detector.findAll buffer.text with
  | [] => none
  | first :: rest =>
    let count := (first :: rest).length
    if count < rule.threshold || rule.adopted.any (showsIn buffer) then none
    else
      some {
        id := rule.id, title := rule.title, level := rule.level
        priority := priorityFor count, occurrences := count
        current := {
          name := "Current Implementation"
          description := "Found " ++ toString count ++ " instance(s) of this pattern"
          codeSample := first.text buffer.text
          line := some (buffer.index.lineOf first.start) }
        suggested := rule.approach, plan := rule.plan }

def suggest (rules : List SuggestionRule) (buffer : Buffer) : List Suggestion :=
  rules.filterMap (SuggestionRule.due? buffer)

end CodeAudit.Advice
