import CodeAudit.Command.Project
import CodeAudit.Report.Screen

/-!
# Advice on a file

The report on idioms, inconsistencies and suggestions, or the one on design idioms.
-/

namespace CodeAudit.Command

open CodeAudit.Advice (AdviceError)
open CodeAudit.Source (Buffer)

variable {m : Type → Type} [Monad m]

/-- The level of the report: the one that is named, the one that a question is about, or the one
that is set. -/
def chooseLevel (ctx : Context m) (request : AdviceRequest) (settings : Settings) :
    Step m String := do
  match request.level, nonEmpty? request.query with
  | some level, _ => orUsage (levelOfText level)
  | none, none => return settings.level
  | none, some query =>
    match Advice.levelOfQuery? query with
    | none => return settings.level
    | some level =>
      log ctx .debug "codesentinel.cli"
        ("Query " ++ Text.quoted query ++ " maps to level " ++ level ++ ".")
      return level

/-- The result of an analysis. A text that is too large is reported and stops the command. -/
def orGiveUp {α : Type} (ctx : Context m) (result : Except AdviceError α) : Step m α :=
  match result with
  | .ok a => return a
  | .error (.tooLarge e) => do
    complain ctx e.message
    giveUp
  | .error (.action e) => throw (.failure (.action e))

def adviseDesign (ctx : Context m) (format : Format) (text : SourceText) (settings : Settings) :
    Step m Unit := do
  let report ← orGiveUp ctx (Advice.analyzeDesign Advice.Builtin.idioms Advice.Builtin.suggestions
    (Buffer.ofString text.code) text.name settings.limit)
  match format with
  | .json => emitJson (Report.designJson report)
  | .terminal => emitScreen ctx (Report.designItems report)

def adviseIdioms (ctx : Context m) (format : Format) (text : SourceText) (settings : Settings)
    (level : String) : Step m Unit := do
  let report ← orGiveUp ctx (Advice.analyzeIdioms (Buffer.ofString text.code) text.name level
    settings.limit)
  let s := report.summary
  log ctx .debug "codesentinel.advisory.engine"
    (text.name ++ ": " ++ toString s.idioms ++ " idiom(s), " ++ toString s.inconsistencies ++
      " inconsistency(ies), " ++ toString s.suggestions ++ " suggestion(s)")
  match format with
  | .json => emitJson (Report.idiomsJson report)
  | .terminal => emitScreen ctx (Report.idiomsItems report)

def advise (ctx : Context m) (request : AdviceRequest) : Step m Unit := do
  let format ← orUsage (Format.ofText request.format)
  let text ← readSource ctx request.source request.filename
  let (settings, _) ← loadProject ctx text.directory
  if request.design then adviseDesign ctx format text settings
  else adviseIdioms ctx format text settings (← chooseLevel ctx request settings)

end CodeAudit.Command
