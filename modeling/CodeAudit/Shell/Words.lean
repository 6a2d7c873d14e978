import CodeAudit.Shell.Similar
import CodeAudit.Shell.Usage

/-!
# The words of a command line

Words are options, values of options and arguments. A long option may carry its value after an
equals sign; short options may share one dash, and the last of them may carry its value directly.
After two dashes everything is an argument.
-/

namespace CodeAudit.Shell

/-- An option. It is known by the first of its names. -/
structure OptionSpec where
  names : List String
  takesValue : Bool := false
  deriving DecidableEq, Repr, Inhabited

def OptionSpec.key (spec : OptionSpec) : String := spec.names.headD ""

def isShortName (name : String) : Bool := name.length == 2

structure Given where
  key : String
  value : String := ""
  deriving DecidableEq, Repr, Inhabited

/-- The words of a command line: options in order, and arguments in order. -/
structure Words where
  options : List Given := []
  arguments : List String := []
  deriving DecidableEq, Repr, Inhabited

namespace Words

def has (words : Words) (key : String) : Bool :=
  words.options.any (·.key == key)

def values (words : Words) (key : String) : List String :=
  (words.options.filter (·.key == key)).map (·.value)

def value? (words : Words) (key : String) : Option String :=
  (words.values key).getLast?

end Words

def takeValue (name : String) : List String → Except WordsError (String × List String)
  | [] => .error (.valueMissing name)
  | value :: rest => .ok (value, rest)

def readShort (specs : List OptionSpec) (rest : List String) :
    List Char → Except WordsError (List Given × List String)
  | [] => .ok ([], rest)
  | c :: more => do
    let name := String.ofList ['-', c]
    let some spec := specs.find? (·.names.contains name) | throw (.noSuchOption name [])
    if !spec.takesValue then
      let (given, rest) ← readShort specs rest more
      return (⟨spec.key, ""⟩ :: given, rest)
    else if more.isEmpty then
      let (value, rest) ← takeValue name rest
      return ([⟨spec.key, value⟩], rest)
    else return ([⟨spec.key, String.ofList more⟩], rest)

def splitEquals (word : String) : String × Option String :=
  match word.toList.span (· != '=') with
  | (name, '=' :: value) => (String.ofList name, some (String.ofList value))
  | _ => (word, none)

def readOption (specs : List OptionSpec) (word : String) (rest : List String) :
    Except WordsError (List Given × List String) := do
  let (name, attached) := splitEquals word
  let longNames := (specs.flatMap (·.names)).filter (!isShortName ·)
  if !longNames.contains name then
    if "--".isPrefixOf word then throw (.noSuchOption name (similar name longNames))
    else readShort specs rest (word.toList.drop 1)
  else
    let spec := (specs.find? (·.names.contains name)).getD default
    match spec.takesValue, attached with
    | true, some value => return ([⟨spec.key, value⟩], rest)
    | true, none =>
      let (value, rest) ← takeValue name rest
      return ([⟨spec.key, value⟩], rest)
    | false, some _ => throw (.valueUnexpected name)
    | false, none => return ([⟨spec.key, ""⟩], rest)

def isOption (word : String) : Bool := "-".isPrefixOf word && 1 < word.length

/-- Reads the words of a command line. Unless options may stand between arguments, the first
argument ends the options. -/
def readWordsFrom (specs : List OptionSpec) (mixed : Bool) :
    (fuel : Nat) → List String → Except WordsError Words
  | 0, words => .ok { arguments := words }
  | _ + 1, [] => .ok {}
  | fuel + 1, word :: rest =>
    if word == "--" then .ok { arguments := rest }
    else if isOption word then do
      let (given, rest) ← readOption specs word rest
      let more ← readWordsFrom specs mixed fuel rest
      return { more with options := given ++ more.options }
    else if mixed then do
      let more ← readWordsFrom specs mixed fuel rest
      return { more with arguments := word :: more.arguments }
    else .ok { arguments := word :: rest }

def readWords (specs : List OptionSpec) (mixed : Bool) (words : List String) :
    Except WordsError Words :=
  readWordsFrom specs mixed words.length words

end CodeAudit.Shell
