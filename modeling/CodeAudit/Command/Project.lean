import CodeAudit.Command.Choice
import CodeAudit.Command.Session
import CodeAudit.Settings.Project
import CodeAudit.Settings.Rules

/-!
# Files of a command

How commands get at the text that they work on, at the settings of its project, and at the rules
that these select.
-/

namespace CodeAudit.Command

open CodeAudit.Files (Path)
open CodeAudit.Rule (Catalog FileError)

variable {m : Type → Type} [Monad m]

/-- A text to work on, the name that reports give it, and where to look for its project. -/
structure SourceText where
  code : String
  name : String
  directory : Path
  deriving DecidableEq, Repr, Inhabited

/-- Reads a file, or the standard input if its name is a dash. -/
def readSource (ctx : Context m) (source : String) (name : Option String) :
    Step m SourceText := do
  let name := nonEmpty? name
  if Text.strip source == "-" then
    let input : List UInt8 ← liftM ctx.stdin
    match Files.textOf input with
    | .error e => throw (.failure (.encoding e))
    | .ok code => return { code, name := name.getD "<stdin>", directory := ctx.files.current }
  else
    let path := Path.ofText source
    let text : Except Files.AccessError String ← liftM (ctx.files.readLossy path)
    match text with
    | .error e =>
      if e.fault.isSystem then do
        complain ctx ("Could not read " ++ source ++ ": " ++ e.message)
        giveUp
      else throw (.failure (.access e))
    | .ok code =>
      return {
        code, name := name.getD path.name
        directory := (ctx.files.current.resolve path).parent }

def loadProject (ctx : Context m) (start : Path) : Step m (Settings × Path) := do
  let found : Except Files.AccessError Path ← liftM (Settings.findRoot ctx.files start)
  let root ← match found with
    | .error e => throw (.failure (.access e))
    | .ok root => pure root
  let loaded : Except Settings.LoadError Settings ←
    liftM (Settings.load ctx.files root ctx.stack.decode)
  match loaded with
  | .error (.refused e) => do
    complain ctx ("Invalid configuration: " ++ e.message)
    giveUp
  | .error (.text (.access e)) => throw (.failure (.access e))
  | .error (.text (.encoding e)) => throw (.failure (.encoding e))
  | .error (.limit reached) => throw (.failure (.limit reached))
  | .ok settings => do
    log ctx .debug "codesentinel.cli" ("Project root: " ++ root.text)
    return (settings, root)

def loadRules (ctx : Context m) (settings : Settings) (root : Path) :
    Step m (Option Settings.OwnRules) := do
  let loaded : Except FileError (Option Settings.OwnRules) ←
    liftM (settings.ownRules ctx.files root ctx.stack.decode)
  match loaded with
  | .error (.rule (.refused problem)) => refuseRules ctx [problem]
  | .error (.rule e) => throw (.failure (.rule e))
  | .error (.access e) => throw (.failure (.access e))
  | .error (.limit reached) => throw (.failure (.limit reached))
  | .error (.encoding e) => throw (.failure (.encoding e))
  | .ok none => return none
  | .ok (some own) => do
    log ctx .debug "codesentinel.analysis"
      ("Using " ++ toString own.definitions.length ++ " rule(s) (" ++ toString own.added ++
        " from rule files, " ++ toString own.disabled ++ " disabled).")
    return some own

def currentCatalog (own : Option Settings.OwnRules) : Step m Catalog :=
  return Settings.catalogOf (← get).catalog own

def keepCatalog (own : Option Settings.OwnRules) (catalog : Catalog) : Step m Unit :=
  match own with
  | none => modify fun s => { s with catalog }
  | some _ => pure ()

end CodeAudit.Command
