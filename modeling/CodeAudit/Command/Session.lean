import CodeAudit.Command.Log
import CodeAudit.Command.Reader
import CodeAudit.Command.Usage
import CodeAudit.Files.Access
import CodeAudit.Rule.Catalog
import CodeAudit.Rule.DefinitionReader
import CodeAudit.Terminal.Console
import CodeAudit.Toml.Reader

/-!
# Sessions

What commands share: the catalog of built-in rules, which keeps its cache from one command to the
next, and what has been printed. A command ends normally, or stops early with an exit code, with a
report of wrong usage, or with a failure that it does not handle.
-/

namespace CodeAudit.Command

open CodeAudit.Files (FileSystem)
open CodeAudit.Terminal (Console Item)

/-- Where the stack of calls is deep enough: for reading a document, and for compiling the rules of
a table. -/
structure Stack where
  reads : String → Bool := fun _ => true
  compiles : List Rule.Definition → Bool := fun _ => true

def Stack.decode (stack : Stack) : Toml.Decoder := fun text =>
  if stack.reads text then Toml.parse text else .error (.limit .stack)

/-- What a command works with. -/
structure Context (m : Type → Type) where
  files : FileSystem m
  stdin : m (List UInt8)
  reader : Reader m
  screen : Console
  errors : Console
  timestamp : String
  stack : Stack := {}
  verbose : Bool := false
  quiet : Bool := false

inductive Failure where
  | access (error : Files.AccessError)
  | encoding (error : Files.DecodeError)
  | limit (limit : Limit)
  | rule (error : Rule.ReadError)
  | pattern (error : Regex.Error)
  | action (error : Advice.ActionError)
  | console (fault : Terminal.Fault)
  deriving Repr, Inhabited

def Failure.message : Failure → String
  | .access e => e.message
  | .encoding e => e.message
  | .limit reached => reached.message
  | .rule e => e.message
  | .pattern e => e.message
  | .action e => e.message
  | .console fault => fault.message

inductive Stop where
  | exit (code : Nat)
  | usage (error : UsageError)
  | failure (error : Failure)
  deriving Repr, Inhabited

structure Session where
  catalog : Rule.Catalog
  stdout : String := ""
  stderr : String := ""
  deriving Repr, Inhabited

/-- A step of a command. What was printed before it stops stays printed. -/
abbrev Step (m : Type → Type) := ExceptT Stop (StateT Session m)

section

variable {m : Type → Type} [Monad m]

def orUsage {α : Type} (result : Except UsageError α) : Step m α :=
  match result with
  | .ok a => return a
  | .error e => throw (.usage e)

def emit (text : String) : Step m Unit :=
  modify fun s => { s with stdout := s.stdout ++ text }

def orEnd {α : Type} (result : Except Ended α) : Step m α :=
  match result with
  | .ok a => return a
  | .error (.help text) => do
    emit text
    throw (.exit 0)
  | .error (.refused message) => throw (.usage (.refused message))

/-- Prints a message, which is read as markup, to the standard error output. -/
def complain (ctx : Context m) (message : String) : Step m Unit :=
  match ctx.errors.print (.markup message) with
  | .error fault => throw (.failure (.console fault))
  | .ok text => modify fun s => { s with stderr := s.stderr ++ text }

def log (ctx : Context m) (level : LogLevel) (source text : String) : Step m Unit :=
  let shown := LogEntry.shown ctx.verbose ctx.quiet ⟨level, source, text⟩
  modify fun s => { s with stderr := s.stderr ++ shown }

def emitItem (ctx : Context m) (item : Item) : Step m Unit :=
  match ctx.screen.print item with
  | .error fault => throw (.failure (.console fault))
  | .ok text => emit text

def emitScreen (ctx : Context m) : List Item → Step m Unit
  | [] => pure ()
  | item :: rest => do
    emitItem ctx item
    emitScreen ctx rest

def emitJson (json : Json) : Step m Unit := emit (json.render ++ "\n")

def giveUp {α : Type} : Step m α := throw (.exit 2)

def refuseRules {α : Type} (ctx : Context m) (problems : List Rule.Problem) : Step m α := do
  complain ctx "Invalid rule definitions:"
  problems.forM fun problem => complain ctx ("  - " ++ problem.message)
  giveUp

end

end CodeAudit.Command
