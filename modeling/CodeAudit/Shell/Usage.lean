import CodeAudit.Command.Usage

/-!
# Words that are refused

What can be wrong with the words of a command line before the command gets to see their values, and
how wrong usage is worded.
-/

namespace CodeAudit.Shell

open CodeAudit.Command (UsageError)
open CodeAudit.Rule (commaList)
open CodeAudit.Text (quoted)

inductive WordsError where
  | noSuchOption (name : String) (similar : List String)
  | valueMissing (option : String)
  | valueUnexpected (option : String)
  | noCommand
  | noSuchCommand (name : String)
  | argumentMissing (argument : String)
  | extraArguments (words : List String)
  | notInteger (option value : String)
  | outOfRange (option : String) (value low high : Int)
  | noDirectory (argument path : String)
  | directoryIsFile (argument path : String)
  deriving DecidableEq, Repr, Inhabited

def suggestedOptions : List String → String
  | [] => ""
  | [name] => " Did you mean " ++ name ++ "?"
  | names =>
    " (Possible options: " ++ commaList (names.mergeSort fun a b => decide (a ≤ b)) ++ ")"

def invalidFor (name reason : String) : String :=
  "Invalid value for '" ++ name ++ "': " ++ reason

def WordsError.message : WordsError → String
  | .noSuchOption name similar => "No such option: " ++ name ++ suggestedOptions similar
  | .valueMissing option => "Option " ++ quoted option ++ " requires an argument."
  | .valueUnexpected option => "Option " ++ quoted option ++ " does not take a value."
  | .noCommand => "Missing command."
  | .noSuchCommand name => "No such command " ++ quoted name ++ "."
  | .argumentMissing argument => "Missing argument '" ++ argument ++ "'."
  | .extraArguments words =>
    "Got unexpected extra argument" ++ (if words.length == 1 then "" else "s") ++ " (" ++
      String.intercalate " " words ++ ")"
  | .notInteger option value =>
    invalidFor option (quoted value ++ " is not a valid integer range.")
  | .outOfRange option value low high =>
    invalidFor option (toString value ++ " is not in the range " ++ toString low ++ "<=x<=" ++
      toString high ++ ".")
  | .noDirectory argument path =>
    invalidFor argument ("Directory " ++ quoted path ++ " does not exist.")
  | .directoryIsFile argument path =>
    invalidFor argument ("Directory " ++ quoted path ++ " is a file.")

def usageReport (e : UsageError) : String :=
  match e with
  | .refused message => message
  | _ => "Invalid value: " ++ e.message

end CodeAudit.Shell
