import CodeAudit.Advice.Location
import CodeAudit.Rule.Problem
import CodeAudit.Source.Lines
import CodeAudit.Text.Case

/-!
# Settings

What a project can set: the categories that are scanned, the size limit, the score below which a
scan fails, the rules that are left out, added or given another severity, and the level of advice.
Keys may be written with dashes or underscores. The first fault is reported, in the order in which
the settings are listed here.
-/

namespace CodeAudit

open CodeAudit.Rule (commaList ticked)
open CodeAudit.Text (strip lower upper)

structure RuleSettings where
  disabled : List String := []
  files : List String := []
  severities : List (String × String) := []
  deriving DecidableEq, Repr, Inhabited

/-- The settings of a project. Without a limit, texts of any size are scanned. -/
structure Settings where
  categories : List String := Rule.categories
  limit : Option Int := some Source.defaultLimit
  failUnder : Int := 0
  rules : RuleSettings := {}
  level : String := "all"
  deriving DecidableEq, Repr, Inhabited

namespace Settings

def tableName : String := "tool.codesentinel"

def fieldName (key : String) : String := tableName ++ "." ++ key

/-- A reason to refuse settings. `field` is the full name of a setting. -/
inductive Error where
  | notTexts (field : String)
  | badCategory
  | notInteger (field : String)
  | negativeLimit
  | failUnderRange
  | notTable (field : String)
  | badRuleId (field : String)
  | notText (field : String)
  | badSeverity (field : String)
  | badLevel
  | badToml (path reason : String)
  deriving DecidableEq, Repr, Inhabited

def Error.message : Error → String
  | .notTexts field => ticked field ++ " must be a list of strings."
  | .badCategory =>
    ticked (fieldName "categories") ++ " must only contain: " ++ commaList Rule.categories ++ "."
  | .notInteger field => ticked field ++ " must be an integer."
  | .negativeLimit =>
    ticked (fieldName "max-buffer-chars") ++ " must be >= 0 (0 disables the limit)."
  | .failUnderRange => ticked (fieldName "fail-under") ++ " must be between 0 and 100."
  | .notTable field => ticked field ++ " must be a table."
  | .badRuleId field => ticked field ++ " is invalid; expected a rule id like CS-SEC001."
  | .notText field => ticked field ++ " must be a string."
  | .badSeverity field =>
    ticked field ++ " must be one of: " ++ commaList Rule.severities ++ "."
  | .badLevel =>
    ticked (fieldName "advisory.level") ++ " must be one of: " ++
      commaList Advice.levelFilters ++ "."
  | .badToml path reason => "Invalid TOML in " ++ path ++ ": " ++ reason

/-- The value of a key that may be written with underscores in place of dashes. -/
def find? (entries : Entries) (key : String) : Option Value :=
  match entries.get? key with
  | some value => some value
  | none => entries.get? (key.map fun c => if c == '-' then '_' else c)

def readTexts (field : String) : Value → Except Error (List String)
  | .null => .ok []
  | value =>
    match value.texts? with
    | some texts => .ok (texts.map strip)
    | none => .error (.notTexts field)

def readCategory (text : String) : Except Error String :=
  let name := lower text
  if Rule.categories.contains name then .ok name else .error .badCategory

/-- The categories that are scanned, in scanning order whatever the order of the list. -/
def readCategories : Option Value → Except Error (List String)
  | none | some .null => .ok Rule.categories
  | some value => do
    let texts ← readTexts (fieldName "categories") value
    let named ← texts.mapM readCategory
    return Rule.categories.filter (named.contains ·)

def readInteger (key : String) (default : Int) : Option Value → Except Error Int
  | none => .ok default
  | some (.int n) => .ok n
  | some _ => .error (.notInteger (fieldName key))

def readLimit (value : Option Value) : Except Error (Option Int) := do
  let n ← readInteger "max-buffer-chars" Source.defaultLimit value
  if n < 0 then throw .negativeLimit
  return if n == 0 then none else some n

def readFailUnder (value : Option Value) : Except Error Int := do
  let n ← readInteger "fail-under" 0 value
  if n < 0 || 100 < n then throw .failUnderRange
  return n

def isIdChar (c : Char) : Bool := c.isUpper || c.isDigit

/-- Whether a text is a rule id: parts of capital letters and digits with dashes between them, the
first part starting with a letter. -/
def isRuleId (id : String) : Bool :=
  match id.toList.splitOn '-' with
  | [] => false
  | first :: rest =>
    (first.head?.map Char.isUpper).getD false && first.all isIdChar &&
      rest.all fun part => !part.isEmpty && part.all isIdChar

def readRuleId (field text : String) : Except Error String :=
  let id := upper (strip text)
  if isRuleId id then .ok id else .error (.badRuleId field)

def readSeverity (field : String) : Value → Except Error String
  | .str s =>
    let severity := lower (strip s)
    if Rule.severities.contains severity then .ok severity else .error (.badSeverity field)
  | _ => .error (.notText field)

def setSeverity (id severity : String) : List (String × String) → List (String × String)
  | [] => [(id, severity)]
  | (k, v) :: rest =>
    if k == id then (k, severity) :: rest else (k, v) :: setSeverity id severity rest

/-- Reads severities of rules. Of several for one rule the last stays. -/
def readSeverities (read : List (String × String)) :
    Entries → Except Error (List (String × String))
  | [] => .ok read
  | (key, value) :: rest => do
    let field := fieldName ("rules.severity-overrides." ++ key)
    let id ← readRuleId field key
    let severity ← readSeverity field value
    readSeverities (setSeverity id severity read) rest

def readRules : Value → Except Error RuleSettings
  | .null => .ok {}
  | .table entries => do
    let field := fieldName "rules.disable"
    let texts ← readTexts field ((Entries.get? entries "disable").getD (.list []))
    let disabled ← texts.mapM fun text => readRuleId (field ++ "." ++ text) text
    let files ← readTexts (fieldName "rules.files")
      ((Entries.get? entries "files").getD (.list []))
    let severities ←
      match find? entries "severity-overrides" with
      | none | some .null => pure []
      | some (.table given) => readSeverities [] given
      | some _ => throw (.notTable (fieldName "rules.severity-overrides"))
    return { disabled, files, severities }
  | _ => .error (.notTable (fieldName "rules"))

def readLevel : Value → Except Error String
  | .null => .ok "all"
  | .table entries =>
    match (Entries.get? entries "level").getD (.str "all") with
    | .str s =>
      let level := lower (strip s)
      if Advice.levelFilters.contains level then .ok level else .error .badLevel
    | _ => .error .badLevel
  | _ => .error (.notTable (fieldName "advisory"))

def ofEntries (entries : Entries) : Except Error Settings := do
  let categories ← readCategories (find? entries "categories")
  let limit ← readLimit (find? entries "max-buffer-chars")
  let failUnder ← readFailUnder (find? entries "fail-under")
  let rules ← readRules ((entries.get? "rules").getD (.table []))
  let level ← readLevel ((entries.get? "advisory").getD (.table []))
  return { categories, limit, failUnder, rules, level }

end Settings

end CodeAudit
