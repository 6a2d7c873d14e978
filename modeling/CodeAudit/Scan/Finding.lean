import CodeAudit.Rule.Catalog
import CodeAudit.Source.Lines
import CodeAudit.Text.Replace

/-!
# Findings

Running compiled rules over a buffer gives findings, one for every match of every matcher. Rules do
not influence each other, and nothing is removed when several of them fire at one place.
-/

namespace CodeAudit.Scan

open CodeAudit.Rule (Catalog Compiled Verification TableError)
open CodeAudit.Source (Buffer TooLarge)
open CodeAudit.Regex (Match)

/-- A place where a rule fired: the number of the line and the line without blanks around it. -/
structure Finding where
  ruleId : String
  category : String
  severity : String
  title : String
  description : String
  line : Int
  code : String
  suggestion : Option String := none
  verification : Option Verification := none
  deriving DecidableEq, Repr, Inhabited

def matchedPlaceholder : String := "<matched_value>"

def filenamePlaceholder : String := "<filename>"

def previewLength : Nat := 20

def preview (matched : String) : String :=
  String.ofList (matched.toList.take previewLength) ++ "..."

/-- Fills in a command: first the matched text, then the name of the file. -/
def fillCommand (matched filename command : String) : String :=
  Text.replaceAll filenamePlaceholder filename
    (Text.replaceAll matchedPlaceholder (preview matched) command)

def fillVerification (matched filename : String) (v : Verification) : Verification :=
  { v with commands := v.commands.map (fillCommand matched filename) }

def findingAt (rule : Compiled) (buffer : Buffer) (filename : String) (m : Match) : Finding :=
  let (line, code) := buffer.index.snippetAt m.start
  { ruleId := rule.id, category := rule.category, severity := rule.severity, title := rule.title
    description := rule.description, line, code, suggestion := rule.suggestion
    verification := rule.verification.map (fillVerification (m.text buffer.text) filename) }

def scanRule (rule : Compiled) (buffer : Buffer) (filename : String) : List Finding :=
  rule.matchers.flatMap fun matcher =>
    (matcher.findAll buffer.text).map (findingAt rule buffer filename)

def scanRules (rules : List Compiled) (buffer : Buffer) (filename : String) : List Finding :=
  rules.flatMap fun rule => scanRule rule buffer filename

inductive ScanError where
  | tooLarge (error : TooLarge)
  | table (error : TableError)
  deriving Repr, Inhabited

/-- Scans a buffer with the rules of a category, or with all. The size is checked before the rules
are compiled. -/
def scan (catalog : Catalog) (buffer : Buffer) (filename : String) (category : Option String)
    (limit : Option Int) : Except ScanError (List Finding × Catalog) := do
  (buffer.check limit).mapError .tooLarge
  let (rules, catalog) ← (catalog.compiled category).mapError .table
  return (scanRules rules buffer filename, catalog)

def overrideSeverities (overrides : List (String × String)) (findings : List Finding) :
    List Finding :=
  findings.map fun f =>
    match overrides.lookup f.ruleId with
    | some severity => { f with severity }
    | none => f

end CodeAudit.Scan
