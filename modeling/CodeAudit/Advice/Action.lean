import CodeAudit.Advice.Concern
import CodeAudit.Advice.Suggestion

/-!
# Action items

What to do about inconsistencies and suggestions, as numbered steps. Items are ordered by priority;
of equal priority, inconsistencies come before suggestions and each kind keeps its order.
-/

namespace CodeAudit.Advice

structure CodeEdit where
  action : String
  target : String
  content : String
  deriving DecidableEq, Repr, Inhabited

structure ActionStep where
  order : Int
  instruction : String
  edit : Option CodeEdit := none
  deriving DecidableEq, Repr, Inhabited

/-- Something to do. Priority one is the highest. -/
structure ActionItem where
  id : String
  priority : Int
  kind : String
  title : String
  reason : String
  effort : String
  steps : List ActionStep
  acceptPrompt : String
  deriving DecidableEq, Repr, Inhabited

inductive ActionError where
  | noVariants
  | unknownPriority (name : String)
  deriving DecidableEq, Repr, Inhabited

def ActionError.message : ActionError → String
  | .noVariants => "max() arg is an empty sequence"
  | .unknownPriority name => Text.quoted name

def priorityRanks : List (String × Int) := [("high", 1), ("medium", 2), ("low", 3)]

def effortFor (steps : Nat) : String :=
  if 4 < steps then "high" else if 2 < steps then "medium" else "low"

/-- The kind of action for a kind of plan. Advice to consider something stays that only if asked. -/
def actionKind (planKind : String) (keepConsider : Bool) : String :=
  if planKind == "refactor" then "refactor"
  else if keepConsider && planKind == "consider" then "consider"
  else "implement_pattern"

/-- The steps of a plan, numbered from `order` on. A change belongs to the first step. -/
def planSteps (change : Option CodeChange) (order : Int) : List String → List ActionStep
  | [] => []
  | step :: rest =>
    { order, instruction := step
      edit := change.map fun c => ⟨"replace", c.before, c.after⟩ } ::
      planSteps none (order + 1) rest

def Suggestion.action (s : Suggestion) (keepConsider : Bool) : Except ActionError ActionItem :=
  match priorityRanks.lookup s.priority with
  | none => .error (.unknownPriority s.priority)
  | some priority =>
    .ok {
      id := "ACT-" ++ s.id, priority, kind := actionKind s.plan.kind keepConsider
      title := s.title, reason := s.suggested.why, effort := effortFor s.plan.steps.length
      steps := planSteps s.plan.change 1 s.plan.steps
      acceptPrompt := "Would you like me to implement the " ++ s.suggested.name ++ "?" }

def convertSteps (dominant : String) (order : Int) : List VariantUsage → List ActionStep
  | [] => []
  | v :: rest =>
    if v.name == dominant then convertSteps dominant order rest
    else
      { order
        instruction :=
          "Convert " ++ toString v.count ++ " instance(s) of " ++ inQuotes v.name ++ " to " ++
            inQuotes dominant } :: convertSteps dominant (order + 1) rest

def Inconsistency.action (f : Inconsistency) : Except ActionError ActionItem :=
  match mostUsed? f.variants with
  | none => .error .noVariants
  | some dominant =>
    .ok {
      id := "ACT-" ++ f.id, priority := (priorityRanks.lookup f.severity).getD 3
      kind := "fix_inconsistency", title := "Standardize: " ++ f.title, reason := f.description
      effort := if 10 < f.occurrences then "high" else "medium"
      steps :=
        { order := 1
          instruction :=
            "Adopt " ++ inQuotes dominant.name ++ " as the standard (most commonly used: " ++
              toString dominant.count ++ " instances)" } ::
          convertSteps dominant.name 2 f.variants
      acceptPrompt := "Shall I refactor to use " ++ inQuotes dominant.name ++ " consistently?" }

/-- Items by priority; items of equal priority keep their order. -/
def sortActions (items : List ActionItem) : List ActionItem :=
  items.mergeSort fun a b => decide (a.priority ≤ b.priority)

def actionItems (found : List Inconsistency) (suggestions : List Suggestion) :
    Except ActionError (List ActionItem) := do
  let first ← found.mapM (·.action)
  let second ← suggestions.mapM (·.action false)
  return sortActions (first ++ second)

end CodeAudit.Advice
