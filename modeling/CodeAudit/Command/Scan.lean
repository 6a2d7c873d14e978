import CodeAudit.Command.Project
import CodeAudit.Report.Screen

/-!
# Scanning a file

The exit code is one if the score is too low, and two if there is no report.
-/

namespace CodeAudit.Command

open CodeAudit.Rule (Catalog)
open CodeAudit.Scan (Analysis ScanError)
open CodeAudit.Source (Buffer)

variable {m : Type → Type} [Monad m]

inductive AnalysisError where
  | scan (error : ScanError)
  | limit (limit : Limit)
  deriving Repr, Inhabited

/-- The analysis of a text, and the catalog with its rules compiled. They are compiled once the size
of the text has been checked, unless no category is asked for. -/
def analysisOf (ctx : Context m) (catalog : Catalog) (settings : Settings) (text : SourceText) :
    Except AnalysisError (Analysis × Catalog) :=
  let result := Scan.analyze catalog settings (Buffer.ofString text.code) text.name ctx.timestamp
  match result with
  | .error (.tooLarge e) => .error (.scan (.tooLarge e))
  | _ =>
    if catalog.isCached || settings.categories.isEmpty || ctx.stack.compiles catalog.definitions
    then result.mapError .scan
    else .error (.limit .stack)

def runAnalysis (ctx : Context m) (catalog : Catalog) (settings : Settings) (text : SourceText) :
    Step m (Analysis × Catalog) := do
  match analysisOf ctx catalog settings text with
  | .error (.scan (.tooLarge e)) => do
    complain ctx e.message
    giveUp
  | .error (.scan (.table (.refused problems))) => refuseRules ctx problems
  | .error (.scan (.table (.countTooLarge e))) => throw (.failure (.pattern e))
  | .error (.limit reached) => throw (.failure (.limit reached))
  | .ok (analysis, built) => do
    if built.isCached && !catalog.isCached then
      log ctx .debug "codesentinel.patterns.compiler"
        ("Compiled " ++ toString catalog.definitions.length ++ " rule(s) into " ++
          toString Rule.categories.length ++ " categories.")
    let s := analysis.summary
    log ctx .debug "codesentinel.analysis"
      (text.name ++ ": " ++ toString s.total ++ " finding(s), " ++ toString s.strengths ++
        " strength(s), score " ++ toString s.score)
    return (analysis, built)

def scan (ctx : Context m) (request : ScanRequest) : Step m Unit := do
  let format ← orUsage (Format.ofText request.format)
  let categories ← orUsage (chooseCategories request.categories)
  let text ← readSource ctx request.source request.filename
  let (settings, root) ← loadProject ctx text.directory
  let settings := { settings with categories := categories.getD settings.categories }
  let own ← loadRules ctx settings root
  let (analysis, catalog) ← runAnalysis ctx (← currentCatalog own) settings text
  keepCatalog own catalog
  match format with
  | .json => emitJson (Report.analysisJson analysis)
  | .terminal => emitScreen ctx (Report.analysisItems (!ctx.quiet) analysis)
  let threshold := request.failUnder.getD settings.failUnder
  if analysis.summary.score < threshold then
    log ctx .info "codesentinel.cli"
      ("Score " ++ toString analysis.summary.score ++ " is below the required " ++
        toString threshold ++ ".")
    throw (.exit 1)

end CodeAudit.Command
