import CodeAudit.Advice.Action
import CodeAudit.Advice.Builtin.Concerns
import CodeAudit.Advice.Builtin.Idioms
import CodeAudit.Advice.Builtin.Suggestions

/-!
# Advisory reports

The report on all idioms, inconsistencies and suggestions of a file, possibly of one level only,
and the report on its design idioms.
-/

namespace CodeAudit.Advice

open CodeAudit.Source (Buffer TooLarge)

structure AdviceSummary where
  idioms : Int
  inconsistencies : Int
  suggestions : Int
  consistency : String
  deriving DecidableEq, Repr, Inhabited

structure IdiomAnalysis where
  filename : String
  level : String
  summary : AdviceSummary
  detected : List DetectedIdiom
  inconsistencies : List Inconsistency
  suggestions : List Suggestion
  actions : List ActionItem
  deriving DecidableEq, Repr, Inhabited

structure DesignIdiom where
  idiom : DetectedIdiom
  related : List String := []
  deriving DecidableEq, Repr, Inhabited

structure DesignReport where
  filename : String
  idioms : List DesignIdiom
  suggestions : List Suggestion
  actions : List ActionItem
  dominant : List String
  missing : List String
  deriving DecidableEq, Repr, Inhabited

inductive AdviceError where
  | tooLarge (error : TooLarge)
  | action (error : ActionError)
  deriving DecidableEq, Repr, Inhabited

def AdviceError.message : AdviceError → String
  | .tooLarge e => e.message
  | .action e => e.message

def wanted (filter level : String) : Bool :=
  filter == "all" || level == filter

def analyzeIdioms (buffer : Buffer) (filename level : String) (limit : Option Int) :
    Except AdviceError IdiomAnalysis := do
  (buffer.check limit).mapError .tooLarge
  let detected := (detectIdioms Builtin.idioms buffer).filter (wanted level ·.level)
  let inconsistencies :=
    (detectInconsistencies Builtin.concerns buffer).filter (wanted level ·.level)
  let suggestions := (suggest Builtin.suggestions buffer).filter (wanted level ·.level)
  let actions ← (actionItems inconsistencies suggestions).mapError .action
  return {
    filename, level
    summary := {
      idioms := detected.length, inconsistencies := inconsistencies.length
      suggestions := suggestions.length, consistency := overallConsistency inconsistencies }
    detected, inconsistencies, suggestions, actions }

def DetectedIdiom.isDominant (d : DetectedIdiom) : Bool :=
  d.confidence == "high" || 3 ≤ d.locations.length

/-- The report on the design idioms of a buffer. Plans that are only to be considered stay so. -/
def analyzeDesign (rules : List IdiomRule) (suggestionRules : List SuggestionRule)
    (buffer : Buffer) (filename : String) (limit : Option Int) :
    Except AdviceError DesignReport := do
  (buffer.check limit).mapError .tooLarge
  let detected := (detectIdioms rules buffer).filter (·.level == "design")
  let suggestions := (suggest suggestionRules buffer).filter (·.level == "design")
  let names := detected.map (·.name)
  let actions ← (suggestions.mapM (Suggestion.action · true)).mapError .action
  return {
    filename
    idioms := detected.map fun d => ⟨d, (Builtin.relatedIdioms.lookup d.name).getD []⟩
    suggestions
    actions := sortActions actions
    dominant := (detected.filter (·.isDominant)).map (·.name)
    missing := (rules.filter fun r => r.level == "design" && !names.contains r.name).map (·.name) }

end CodeAudit.Advice
