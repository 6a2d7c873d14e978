import CodeAudit.Command.Advise
import CodeAudit.Command.Inspect
import CodeAudit.Command.Scan

/-!
# Running a command line

The options for all commands are dealt with before the words of the command are read.
-/

namespace CodeAudit.Command

open CodeAudit.Files (Path)

section

variable {m : Type → Type} [Monad m]

def runCommand (ctx : Context m) (name : Name) (words : List String) : Step m Unit := do
  match name with
  | .scan =>
    let read : Except Ended ScanRequest ← liftM (ctx.reader.scan words)
    scan ctx (← orEnd read)
  | .patterns =>
    let read : Except Ended AdviceRequest ← liftM (ctx.reader.advice words)
    advise ctx (← orEnd read)
  | .rules =>
    let read : Except Ended ListRequest ← liftM (ctx.reader.listing words)
    listRules ctx (← orEnd read)
  | .validate =>
    let read : Except Ended Path ← liftM (ctx.reader.project words)
    validateRules ctx (← orEnd read)

def follow (ctx : Context m) (args : List String) : Step m Unit := do
  let read : Except Ended Invocation ← liftM (ctx.reader.invocation args)
  match ← orEnd read with
  | .version => emit (Report.toolVersion ++ "\n")
  | .command options name words =>
    if options.verbose && options.quiet then throw (.usage .verboseAndQuiet)
    runCommand { ctx with verbose := options.verbose, quiet := options.quiet } name words

structure Outcome where
  exitCode : Nat
  stdout : String
  stderr : String
  usage : Option UsageError := none
  failure : Option Failure := none
  deriving Repr, Inhabited

/-- The outcome of a command that left a session behind. Wrong usage has exit code two, and a
failure that was not handled has exit code one. -/
def Outcome.of (result : Except Stop Unit) (session : Session) : Outcome :=
  let base : Outcome := { exitCode := 0, stdout := session.stdout, stderr := session.stderr }
  match result with
  | .ok () => base
  | .error (.exit code) => { base with exitCode := code }
  | .error (.usage e) => { base with exitCode := 2, usage := some e }
  | .error (.failure e) => { base with exitCode := 1, failure := some e }

/-- Runs a command line. The catalog of built-in rules comes back with what it keeps. -/
def run (ctx : Context m) (catalog : Rule.Catalog) (args : List String) :
    m (Outcome × Rule.Catalog) := do
  let (result, session) ← ((follow ctx args).run).run { catalog }
  return (.of result session, session.catalog)

end

end CodeAudit.Command
