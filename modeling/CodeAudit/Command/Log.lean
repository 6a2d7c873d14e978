import CodeAudit.Report.Document

/-!
# Log lines

Messages about the progress of a command. Each has a level, and those below the chosen level are
not shown.
-/

namespace CodeAudit.Command

inductive LogLevel where
  | debug
  | info
  | warning
  deriving DecidableEq, Repr, Inhabited

namespace LogLevel

def rank : LogLevel → Nat
  | .debug => 10
  | .info => 20
  | .warning => 30

def label : LogLevel → String
  | .debug => "DEBUG"
  | .info => "INFO"
  | .warning => "WARNING"

/-- The lowest level that is shown. Being verbose wins over being quiet. -/
def chosen (verbose quiet : Bool) : LogLevel :=
  if verbose then .debug else if quiet then .warning else .info

end LogLevel

structure LogEntry where
  level : LogLevel
  source : String
  text : String
  deriving DecidableEq, Repr, Inhabited

def LogEntry.line (verbose : Bool) (e : LogEntry) : String :=
  if verbose then
    Report.toolName ++ " [" ++ e.level.label ++ "] " ++ e.source ++ ": " ++ e.text ++ "\n"
  else Report.toolName ++ ": " ++ e.text ++ "\n"

def LogEntry.shown (verbose quiet : Bool) (e : LogEntry) : String :=
  if (LogLevel.chosen verbose quiet).rank ≤ e.level.rank then e.line verbose else ""

end CodeAudit.Command
