import CodeAudit.Advice.Location
import CodeAudit.Rule.Labels
import CodeAudit.Text.Quoted

/-!
# Wrong usage

What can be wrong with a command line: its words were refused when they were read, or a value was
refused by the command itself.
-/

namespace CodeAudit.Command

open CodeAudit.Rule (commaList)
open CodeAudit.Text (quoted)

inductive UsageError where
  | refused (message : String)
  | verboseAndQuiet
  | unknownFormat
  | unknownCategory (name : String)
  | unknownLevel (name : String)
  deriving DecidableEq, Repr, Inhabited

def UsageError.message : UsageError → String
  | .refused message => message
  | .verboseAndQuiet => "Choose at most one: --verbose or --quiet."
  | .unknownFormat => "Unsupported format. Use: terminal, json."
  | .unknownCategory name =>
    "Unknown category: " ++ quoted name ++ ". Use: " ++ commaList Rule.categories ++ "."
  | .unknownLevel name =>
    "Unsupported level: " ++ quoted name ++ ". Use: " ++ commaList Advice.levelFilters ++ "."

end CodeAudit.Command
