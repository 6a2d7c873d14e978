import CodeAudit.Report.Document
import CodeAudit.Terminal.Console

/-!
# Reports on a terminal

Every report on a file starts with a panel that names the file, followed by lines of styled text.
The name of the file is handed over as markup, and so are the cells of the table of rules.
-/

namespace CodeAudit.Report

open CodeAudit.Advice CodeAudit.Rule CodeAudit.Scan CodeAudit.Terminal

def severityIcons : List (String × String) :=
  [("critical", "✖"), ("high", "✖"), ("medium", "⚠"), ("low", "•"), ("info", "ℹ")]

def severityStyles : List (String × String) :=
  [("critical", "bold red"), ("high", "red"), ("medium", "yellow"), ("low", "cyan"),
    ("info", "dim")]

def confidenceStyles : List (String × String) :=
  [("high", "bold green"), ("medium", "green"), ("low", "dim")]

def severityIcon (severity : String) : String := (severityIcons.lookup severity).getD "•"

def severityStyle (severity : String) : String := (severityStyles.lookup severity).getD ""

def confidenceStyle (confidence : String) : String := (confidenceStyles.lookup confidence).getD ""

def dim (text : String) : Item := .styled [⟨text, "dim"⟩]

def bold (text : String) : Item := .styled [⟨text, "bold"⟩]

def title (about : String) : StyledText :=
  [⟨toolName ++ " ", "bold"⟩, ⟨"v" ++ toolVersion, "dim"⟩, ⟨" — " ++ about, "dim"⟩]

/-- The panel at the top of a report. -/
def header (about subtitle : String) : Item := .panel (title about) subtitle "cyan"

def divider : Item := dim (String.ofList (List.replicate 60 '─'))

/-- A line of code with its number, which is aligned to the right in four columns. -/
def numbered (line : Int) (code : String) : Item :=
  let number := toString line
  dim ("     " ++ String.ofList (List.replicate (4 - number.length) ' ') ++ number ++ " │ " ++ code)

def remark (text : String) : Item := dim ("     " ++ text)

/-- Items under a heading, with a blank line behind them; nothing if there are none. -/
def headed (heading : String) (items : List Item) : List Item :=
  if items.isEmpty then [] else bold heading :: items ++ [.blank]

def findingItems (f : Finding) : List Item :=
  let commands := (f.verification.map (·.commands)).getD []
  let suggestion := f.suggestion.getD ""
  .styled [⟨"  " ++ severityIcon f.severity ++ " ", severityStyle f.severity⟩, ⟨f.ruleId, "bold"⟩,
      ⟨"  (" ++ toString f.line ++ ")", "dim"⟩, ⟨"  " ++ f.title, ""⟩] ::
    (if f.code.isEmpty then [] else [numbered f.line f.code]) ++
    (if suggestion.isEmpty then [] else [remark ("→ " ++ suggestion)]) ++
    commands.map fun command => remark ("$ " ++ command)

def strengthItem (s : Strength) : Item :=
  .styled [⟨"  ✔ ", "green"⟩, ⟨s.id, "bold"⟩, ⟨"  " ++ s.title, ""⟩]

def summaryItems (s : Summary) : List Item :=
  [divider, bold ("Score: " ++ toString s.score ++ "/100"),
    dim ("Findings: " ++ toString s.total ++ " (critical=" ++ toString s.critical ++ " high=" ++
      toString s.high ++ " medium=" ++ toString s.medium ++ " low=" ++ toString s.low ++
      " info=" ++ toString s.info ++ ")"),
    dim ("Strengths: " ++ toString s.strengths), divider]

def detailItems (a : Analysis) : List Item :=
  (if a.findings.isEmpty then [] else a.findings.flatMap findingItems ++ [.blank]) ++
    headed "Strengths" (a.strengths.map strengthItem)

def analysisItems (details : Bool) (a : Analysis) : List Item :=
  header "code quality scan" (a.filename ++ " (" ++ a.language ++ ")") ::
    (if details then detailItems a else []) ++ summaryItems a.summary

def idiomItem (d : DetectedIdiom) : Item :=
  .styled [⟨"  " ++ d.id, "bold"⟩, ⟨"  " ++ d.name, ""⟩,
    ⟨"  [" ++ d.confidence ++ "]", confidenceStyle d.confidence⟩]

def inconsistencyItems (f : Inconsistency) : List Item :=
  .styled [⟨"  " ++ severityIcon f.severity ++ " ", severityStyle f.severity⟩, ⟨f.id, "bold"⟩,
      ⟨"  " ++ f.title ++ ": " ++ f.description, ""⟩] ::
    f.variants.map (fun v => remark (v.name ++ ": " ++ toString v.count)) ++
    [remark ("→ " ++ f.recommendation)]

def suggestionItems (s : Suggestion) : List Item :=
  .styled [⟨"  " ++ s.id, "bold"⟩, ⟨"  " ++ s.title, ""⟩, ⟨"  [" ++ s.priority ++ "]", "dim"⟩] ::
    (match s.current.line with
    | none => []
    | some line => [numbered line (Text.strip s.current.codeSample)]) ++
    [remark ("→ " ++ s.suggested.name ++ ": " ++ s.suggested.description)]

def actionItems (item : ActionItem) : List Item :=
  .styled [⟨"  " ++ toString item.priority ++ ". ", "bold"⟩, ⟨item.title, ""⟩,
      ⟨"  (effort: " ++ item.effort ++ ")", "dim"⟩] ::
    item.steps.map (fun step => remark (toString step.order ++ ") " ++ step.instruction)) ++
    [remark ("? " ++ item.acceptPrompt)]

def planItems (items : List ActionItem) : List Item :=
  headed "Action items" (items.flatMap actionItems)

def idiomsItems (a : IdiomAnalysis) : List Item :=
  header "idiom analysis" (a.filename ++ " (level: " ++ a.level ++ ")") ::
    (headed "Detected idioms" (a.detected.flatMap fun d =>
        idiomItem d :: d.locations.map fun l => numbered l.line l.code) ++
      headed "Inconsistencies" (a.inconsistencies.flatMap inconsistencyItems) ++
      headed "Suggestions" (a.suggestions.flatMap suggestionItems) ++
      planItems a.actions ++
      [divider, bold ("Consistency: " ++ Text.upper a.summary.consistency),
        dim ("Idioms: " ++ toString a.summary.idioms ++ "  Inconsistencies: " ++
          toString a.summary.inconsistencies ++ "  Suggestions: " ++
          toString a.summary.suggestions),
        divider])

def namesOrDash (names : List String) : String :=
  let text := commaList names
  if text.isEmpty then "-" else text

def designIdiomItems (entry : DesignIdiom) : List Item :=
  idiomItem entry.idiom ::
    (if entry.related.isEmpty then [] else [remark ("related: " ++ commaList entry.related)])

def designItems (r : DesignReport) : List Item :=
  header "design idioms" r.filename ::
    ((if r.idioms.isEmpty then [dim "No design idioms detected."]
        else r.idioms.flatMap designIdiomItems) ++
      .blank :: planItems r.actions ++
      [divider, bold ("Dominant: " ++ namesOrDash r.dominant),
        dim ("Missing: " ++ namesOrDash r.missing), divider])

def ruleColumns : List Column :=
  [⟨"ID", "bold"⟩, ⟨"Category", ""⟩, ⟨"Severity", ""⟩, ⟨"Match", ""⟩, ⟨"Title", ""⟩]

/-- The cells of a rule. Only the severity is not read as markup. -/
def ruleCells (d : Definition) : List Cell :=
  [.markup d.id, .markup d.category, .styled [⟨d.severity, severityStyle d.severity⟩],
    .markup d.spec.tag, .markup d.title]

def rulesItems (definitions : List Definition) (s : Stats) : List Item :=
  let counts := s.byCategory.map fun (category, n) => category ++ "=" ++ toString n
  [.table (toolName ++ " Rules") ruleColumns (definitions.map ruleCells),
    dim (toString s.total ++ " rule(s): " ++ String.intercalate " " counts)]

end CodeAudit.Report
