import CodeAudit.Rule.Definition
import CodeAudit.Rule.SpecReader
import CodeAudit.Text.Case

/-!
# Reading rules

Rules are written as tables. Each reader refuses the first fault it meets, in a fixed order, with
the place of the fault.
-/

namespace CodeAudit.Rule

open CodeAudit.Text

inductive ReadError where
  | refused (problem : Problem)
  /-- The status of a verification is a list or a table, which cannot be compared with a label. -/
  | statusContainer (isTable : Bool)
  deriving Repr, Inhabited

def ReadError.message : ReadError → String
  | .refused problem => problem.message
  | .statusContainer isTable =>
    "unhashable type: " ++ quoted (if isTable then "dict" else "list")

def definitionKeys : List String :=
  ["id", "title", "description", "severity", "category", "match", "suggestion", "verification"]

/-- The keys that hold a text of a verification, in the order in which they are checked. -/
def verificationTexts : List String :=
  ["assumption", "instruction", "confirm_if", "false_positive_if"]

def optionalText (place : String) : Option Value → Except ReadError (Option String)
  | none | some .null => .ok none
  | some (.str s) => .ok (some s)
  | some _ => .error (.refused (.notText place))

def readStatus (place : String) : Value → Except ReadError String
  | .str s =>
    if verificationStatuses.contains s then .ok s else .error (.refused (.badStatus place))
  | .list _ => .error (.statusContainer false)
  | .table _ => .error (.statusContainer true)
  | _ => .error (.refused (.badStatus place))

def Verification.ofValue (place : String) (data : Value) : Except ReadError Verification := do
  let .table entries := data | throw (.refused (.notTable place))
  let entries := Entries.mapKeys Spec.normalKey entries
  let status ← readStatus place ((entries.get? "status").getD (.str "needs_verification"))
  let some commands := ((entries.get? "commands").getD (.list [])).texts?
    | throw (.refused (.notTexts (place ++ ".commands")))
  let text (key : String) := optionalText (place ++ "." ++ key) (entries.get? key)
  let assumption ← text "assumption"
  let instruction ← text "instruction"
  let confirmIf ← text "confirm_if"
  let falsePositiveIf ← text "false_positive_if"
  let known := "status" :: "commands" :: verificationTexts
  let unknown := entries.keys.filter (!known.contains ·)
  if !unknown.isEmpty then throw (.refused (.unknownKeys place (Spec.sortedNames unknown)))
  return { status, commands, assumption, instruction, confirmIf, falsePositiveIf }

def nonBlank (place key : String) (entries : Entries) : Except ReadError String :=
  match entries.get? key with
  | some (.str s) =>
    if isBlankText s then .error (.refused (.blankText (place ++ "." ++ key))) else .ok s
  | _ => .error (.refused (.blankText (place ++ "." ++ key)))

/-- A label of a closed vocabulary, in any letter case and with blanks around it. -/
def readLabel (place : String) (allowed : List String) (s : String) : Except ReadError String :=
  let label := lower (strip s)
  if allowed.contains label then .ok label else .error (.refused (.notOneOf place allowed))

def Definition.ofValue (place : String) (data : Value) : Except ReadError Definition := do
  let .table entries := data | throw (.refused (.notTable place))
  let entries : Entries := entries
  let unknown := entries.keys.filter (!definitionKeys.contains ·)
  if !unknown.isEmpty then throw (.refused (.unknownKeys place (Spec.sortedNames unknown)))
  let id ← nonBlank place "id" entries
  let title ← nonBlank place "title" entries
  let description ← nonBlank place "description" entries
  let severity ← nonBlank place "severity" entries
  let category ← nonBlank place "category" entries
  let id := strip id
  let place := place ++ " " ++ id
  let severity ← readLabel (place ++ ".severity") severities severity
  let category ← readLabel (place ++ ".category") categories category
  let suggestion ← optionalText (place ++ ".suggestion") (entries.get? "suggestion")
  let some description? := entries.get? "match" | throw (.refused (.noMatch place))
  let spec ← (Spec.ofValue (place ++ ".match") description?).mapError .refused
  let verification ←
    match entries.get? "verification" with
    | none | some .null => pure none
    | some v => some <$> Verification.ofValue (place ++ ".verification") v
  return { id, title, description, severity, category, spec, suggestion, verification }

def readDefinitionsFrom (source : String) :
    (index : Nat) → List Value → Except ReadError (List Definition)
  | _, [] => .ok []
  | index, item :: rest => do
    let first ← Definition.ofValue (source ++ ": rules[" ++ toString index ++ "]") item
    return first :: (← readDefinitionsFrom source (index + 1) rest)

def readDefinitions (source : String) (items : List Value) : Except ReadError (List Definition) :=
  readDefinitionsFrom source 0 items

end CodeAudit.Rule
