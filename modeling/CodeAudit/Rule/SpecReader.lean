import CodeAudit.Rule.Problem
import CodeAudit.Rule.Spec
import CodeAudit.Text.Blank

/-!
# Reading match descriptions

A match description is written as a table: its kind under `type`, and one entry per field. Each
kind has a list of fields with the kind of value they take and whether they may be left out.
-/

namespace CodeAudit.Rule

inductive FieldKind where
  | texts
  | flag
  | integer
  | text
  deriving DecidableEq, Repr, Inhabited

structure Field where
  name : String
  kind : FieldKind
  required : Bool := false
  deriving DecidableEq, Repr, Inhabited

namespace Spec

/-- The kinds of description and their fields, both in the order in which they are listed. -/
def shapes : List (String × List Field) :=
  [("empty_block", [⟨"constructs", .texts, true⟩, ⟨"allow_comments", .flag, false⟩]),
    ("function_call",
      [⟨"names", .texts, true⟩, ⟨"match_method_form", .flag, false⟩,
        ⟨"match_constructor_form", .flag, false⟩, ⟨"case_insensitive", .flag, false⟩]),
    ("returns_only",
      [⟨"literal_values", .texts, true⟩, ⟨"required_trailing_comment_words", .texts, false⟩]),
    ("contains_text",
      [⟨"terms", .texts, true⟩, ⟨"context", .text, false⟩, ⟨"case_insensitive", .flag, false⟩]),
    ("fallback_value", [⟨"operators", .texts, true⟩, ⟨"fallback_literals", .texts, true⟩]),
    ("assignment_pattern",
      [⟨"keys", .texts, true⟩, ⟨"values", .texts, false⟩, ⟨"operators", .texts, false⟩]),
    ("chained_access", [⟨"min_depth", .integer, true⟩, ⟨"operator", .text, false⟩]),
    ("catch_handler", [⟨"behavior", .text, true⟩]),
    ("promise_catch", [⟨"behavior", .text, true⟩, ⟨"silent_values", .texts, false⟩]),
    ("comment_marker", [⟨"markers", .texts, true⟩, ⟨"style", .text, false⟩]),
    ("string_literal", [⟨"literals", .texts, true⟩, ⟨"case_insensitive", .flag, false⟩]),
    ("secret_pattern", [⟨"kind", .text, true⟩, ⟨"custom_regex", .text, false⟩]),
    ("url_pattern", [⟨"protocol", .text, false⟩, ⟨"exclude_localhost", .flag, false⟩]),
    ("suppression_comment", [⟨"tool_names", .texts, true⟩]),
    ("type_cast", [⟨"target_type_names", .texts, true⟩]),
    ("comparison", [⟨"operators", .texts, true⟩]),
    ("loop_pattern", [⟨"kind", .text, true⟩]),
    ("raw_regex", [⟨"regex_source", .text, true⟩, ⟨"flags", .text, false⟩])]

def tags : List String := shapes.map (·.1)

def sortedNames (names : List String) : List String :=
  names.mergeSort fun a b => !decide (b < a)

end Spec

inductive FieldValue where
  | texts (texts : List String)
  | flag (on : Bool)
  | integer (n : Int)
  | text (text : String)
  deriving DecidableEq, Repr, Inhabited

def FieldKind.check (kind : FieldKind) (place : String) (value : Value) :
    Except Problem FieldValue :=
  match kind, value with
  | .texts, value =>
    match value.texts? with
    | some list => .ok (.texts list)
    | none => .error (.notTexts place)
  | .flag, .bool b => .ok (.flag b)
  | .flag, _ => .error (.notBoolean place)
  | .integer, .int n => .ok (.integer n)
  | .integer, _ => .error (.notInteger place)
  | .text, .str s => .ok (.text s)
  | .text, _ => .error (.notText place)

abbrev Given := List (String × FieldValue)

namespace Given

def texts? (given : Given) (name : String) : Option (List String) :=
  match given.lookup name with
  | some (.texts texts) => some texts
  | _ => none

def flag? (given : Given) (name : String) : Option Bool :=
  match given.lookup name with
  | some (.flag on) => some on
  | _ => none

def integer? (given : Given) (name : String) : Option Int :=
  match given.lookup name with
  | some (.integer n) => some n
  | _ => none

def text? (given : Given) (name : String) : Option String :=
  match given.lookup name with
  | some (.text text) => some text
  | _ => none

end Given

namespace Spec

/-- The description of a kind with the given fields, and its defaults for the others. There is
none if the kind is unknown or a required field is not given. -/
def ofGiven? (tag : String) (given : Given) : Option Spec :=
  match tag with
  | "empty_block" => do
    return .emptyBlock (← given.texts? "constructs") ((given.flag? "allow_comments").getD false)
  | "function_call" => do
    return .functionCall (← given.texts? "names") ((given.flag? "match_method_form").getD false)
      ((given.flag? "match_constructor_form").getD false)
      ((given.flag? "case_insensitive").getD true)
  | "returns_only" => do
    return .returnsOnly (← given.texts? "literal_values")
      ((given.texts? "required_trailing_comment_words").getD [])
  | "contains_text" => do
    return .containsText (← given.texts? "terms") ((given.text? "context").getD "any")
      ((given.flag? "case_insensitive").getD true)
  | "fallback_value" => do
    return .fallbackValue (← given.texts? "operators") (← given.texts? "fallback_literals")
  | "assignment_pattern" => do
    return .assignment (← given.texts? "keys") ((given.texts? "values").getD [])
      ((given.texts? "operators").getD ["=", ":"])
  | "chained_access" => do
    return .chainedAccess (← given.integer? "min_depth") ((given.text? "operator").getD "?.")
  | "catch_handler" => do
    return .catchHandler (← given.text? "behavior")
  | "promise_catch" => do
    return .promiseCatch (← given.text? "behavior")
      ((given.texts? "silent_values").getD defaultSilentValues)
  | "comment_marker" => do
    return .commentMarker (← given.texts? "markers") ((given.text? "style").getD "any")
  | "string_literal" => do
    return .stringLiteral (← given.texts? "literals")
      ((given.flag? "case_insensitive").getD false)
  | "secret_pattern" => do
    return .secret (← given.text? "kind") (given.text? "custom_regex")
  | "url_pattern" => do
    return .url ((given.text? "protocol").getD "any")
      ((given.flag? "exclude_localhost").getD false)
  | "suppression_comment" => do
    return .suppression (← given.texts? "tool_names")
  | "type_cast" => do
    return .typeCast (← given.texts? "target_type_names")
  | "comparison" => do
    return .comparison (← given.texts? "operators")
  | "loop_pattern" => do
    return .loop (← given.text? "kind")
  | "raw_regex" => do
    return .raw (← given.text? "regex_source") ((given.text? "flags").getD "g")
  | _ => none

/-- A key as it is looked up: blanks around it do not count, and a dash is an underscore. -/
def normalKey (key : String) : String :=
  String.ofList ((Text.strip key).toList.map fun c => if c == '-' then '_' else c)

def checkFields (place tag : String) (fields : List Field) : Entries → Except Problem Given
  | [] => .ok []
  | (key, value) :: rest =>
    match fields.find? (·.name == key) with
    | none => .error (.notField place key tag)
    | some field => do
      let checked ← field.kind.check (place ++ "." ++ key) value
      return (key, checked) :: (← checkFields place tag fields rest)

def ofValue (place : String) (data : Value) : Except Problem Spec := do
  let .table entries := data | throw (.notTable place)
  let entries := Entries.mapKeys normalKey entries
  let kind := (entries.get? "type").getD .null
  let unknown := Problem.unknownMatchType place kind (sortedNames tags)
  let .str tag := kind | throw unknown
  let some fields := shapes.lookup tag | throw unknown
  let given ← checkFields place tag fields (entries.erase "type")
  let missing := fields.filter fun f => f.required && (given.lookup f.name).isNone
  if !missing.isEmpty then throw (.missingFields place (missing.map (·.name)))
  match ofGiven? tag given with
  | some spec => return spec
  | none => throw unknown

end Spec

end CodeAudit.Rule
