import CodeAudit.Command.Reader
import CodeAudit.Files.Access
import CodeAudit.Shell.Words
import CodeAudit.Text.Digit

/-!
# The reader of command lines

A command line has options for all commands, the name of a command, and the words of the command.
Options are read before the arguments they stand between, and the first fault is reported. It stands
in for the library that the program is written with, as far as the program uses it.
-/

namespace CodeAudit.Shell

open CodeAudit.Command (AdviceRequest Ended GlobalOptions Invocation ListRequest Name Reader
  ScanRequest)
open CodeAudit.Files (FileSystem Path)

def nameOf? : String → Option Name
  | "scan" => some .scan
  | "patterns" => some .patterns
  | "rules" => some .rules
  | "validate" => some .validate
  | _ => none

def wordOf : Name → String
  | .scan => "scan"
  | .patterns => "patterns"
  | .rules => "rules"
  | .validate => "validate"

def argumentOf : Name → String
  | .scan => "SOURCE"
  | .patterns => "SOURCE"
  | .rules => "[PROJECT]"
  | .validate => "[PROJECT]"

def helpOption : OptionSpec := ⟨["--help"], false⟩

def globalOptions : List OptionSpec :=
  [⟨["--version"], false⟩, ⟨["--verbose", "-v"], false⟩, ⟨["--quiet", "-q"], false⟩, helpOption]

def optionsOf : Name → List OptionSpec
  | .scan => [⟨["--filename"], true⟩, ⟨["--format"], true⟩, ⟨["--category", "-c"], true⟩,
      ⟨["--fail-under"], true⟩, helpOption]
  | .patterns => [⟨["--filename"], true⟩, ⟨["--level"], true⟩, ⟨["--query"], true⟩,
      ⟨["--design"], false⟩, ⟨["--format"], true⟩, helpOption]
  | .rules => [⟨["--category", "-c"], true⟩, ⟨["--format"], true⟩, helpOption]
  | .validate => [helpOption]

def help : Option Name → String
  | none => "Usage: codesentinel [OPTIONS] COMMAND [ARGS]...\n"
  | some name =>
    "Usage: codesentinel " ++ wordOf name ++ " [OPTIONS] " ++ argumentOf name ++ "\n"

def refuse {α : Type} (e : WordsError) : Except Ended α := .error (.refused e.message)

def orRefuse {α : Type} (result : Except WordsError α) : Except Ended α :=
  result.mapError fun e => .refused e.message

def readInvocation (args : List String) : Except Ended Invocation := do
  let words ← orRefuse (readWords globalOptions false args)
  if args.isEmpty || words.has "--help" then throw (.help (help none))
  if words.has "--version" then return .version
  match words.arguments with
  | [] => refuse .noCommand
  | word :: rest =>
    let some name := nameOf? word | refuse (.noSuchCommand word)
    return .command ⟨words.has "--verbose", words.has "--quiet"⟩ name rest

def readCommand (name : Name) (args : List String) : Except Ended Words := do
  let words ← orRefuse (readWords (optionsOf name) true args)
  if words.has "--help" then throw (.help (help (some name)))
  return words

def sourceArgument (name : Name) (words : Words) : Except Ended String :=
  match words.arguments with
  | [] => refuse (.argumentMissing (argumentOf name))
  | [source] => .ok source
  | _ :: extra => refuse (.extraArguments extra)

def scoreOfText (option text : String) : Except WordsError Int :=
  match Text.readInt? text with
  | none => .error (.notInteger option text)
  | some n => if n < 0 || 100 < n then .error (.outOfRange option n 0 100) else .ok n

def scoreOption (words : Words) : Except WordsError (Option Int) :=
  match words.value? "--fail-under" with
  | none => .ok none
  | some text => some <$> scoreOfText "--fail-under" text

def formatOption (words : Words) : String := (words.value? "--format").getD "terminal"

def readScan (args : List String) : Except Ended ScanRequest := do
  let words ← readCommand .scan args
  let failUnder ← orRefuse (scoreOption words)
  let source ← sourceArgument .scan words
  return {
    source, failUnder, filename := words.value? "--filename", format := formatOption words
    categories := words.values "--category" }

def readAdvice (args : List String) : Except Ended AdviceRequest := do
  let words ← readCommand .patterns args
  let source ← sourceArgument .patterns words
  return {
    source, filename := words.value? "--filename", format := formatOption words
    design := words.has "--design", level := words.value? "--level"
    query := words.value? "--query" }

section

variable {m : Type → Type} [Monad m]

def projectArgument (fs : FileSystem m) (name : Name) (words : Words) : m (Except Ended Path) := do
  let word := words.arguments.headD "."
  let path := fs.current.resolve (.ofText word)
  match ← fs.kind path with
  | .error _ => return refuse (.noDirectory (argumentOf name) word)
  | .ok .file => return refuse (.directoryIsFile (argumentOf name) word)
  | .ok .directory =>
    match words.arguments.drop 1 with
    | [] => return .ok path
    | extra => return refuse (.extraArguments extra)

def readListing (fs : FileSystem m) (args : List String) : m (Except Ended ListRequest) := do
  match readCommand .rules args with
  | .error e => return .error e
  | .ok words =>
    let project ← projectArgument fs .rules words
    return project.map fun project =>
      { project, category := words.value? "--category", format := formatOption words }

def readProject (fs : FileSystem m) (args : List String) : m (Except Ended Path) := do
  match readCommand .validate args with
  | .error e => return .error e
  | .ok words => projectArgument fs .validate words

def reader (fs : FileSystem m) : Reader m where
  invocation args := pure (readInvocation args)
  scan args := pure (readScan args)
  advice args := pure (readAdvice args)
  listing := readListing fs
  project := readProject fs

end

end CodeAudit.Shell
