import CodeAudit.Files.Access
import CodeAudit.Rule.DefinitionReader
import CodeAudit.Toml.Reader

/-!
# Rule files

A rule file is a TOML document with an array of tables `rules`, one for every rule.
-/

namespace CodeAudit.Rule

open CodeAudit.Files (FileSystem Path)

/-- Why the rules of a file cannot be had. Only what concerns a rule may be reported as a problem
of the rules. -/
inductive FileError where
  | rule (error : ReadError)
  | access (error : Files.AccessError)
  | encoding (error : Files.DecodeError)
  | limit (limit : Limit)
  deriving Repr, Inhabited

def FileError.refused (problem : Problem) : FileError := .rule (.refused problem)

/-- The error of a rule that cannot be read. A message cannot show an integer that is too long. -/
def FileError.ofRead : ReadError → FileError
  | .refused (.unknownMatchType place tag known) =>
    if tag.hasLongInteger then .limit .digitsWritten
    else .refused (.unknownMatchType place tag known)
  | e => .rule e

def FileError.ofToml (source : String) : Toml.Error → FileError
  | .refused reason => .refused (.badToml source reason)
  | .limit reached => .limit reached

def FileError.ofText (path : Path) : Files.TextError → FileError
  | .access e =>
    if e.fault.isSystem then .refused (.unreadable path.text e.message) else .access e
  | .encoding e => .encoding e

def definitionsOfText (source text : String) (decode : Toml.Decoder := Toml.parse) :
    Except FileError (List Definition) := do
  let document ← (decode text).mapError (.ofToml source)
  match (document.get? "rules").getD (.list []) with
  | .list items => (readDefinitions source items).mapError .ofRead
  | _ => throw (.refused (.rulesNotArray source))

variable {m : Type → Type} [Monad m]

def loadFile (fs : FileSystem m) (path : Path) (decode : Toml.Decoder := Toml.parse) :
    m (Except FileError (List Definition)) := do
  match ← fs.readText path with
  | .error e => return .error (.ofText path e)
  | .ok text => return definitionsOfText path.text text decode

def loadFiles (fs : FileSystem m) (paths : List Path) (decode : Toml.Decoder := Toml.parse) :
    m (Except FileError (List Definition)) :=
  match paths with
  | [] => return .ok []
  | path :: paths => do
    match ← loadFile fs path decode with
    | .error e => return .error e
    | .ok definitions =>
      match ← loadFiles fs paths decode with
      | .error e => return .error e
      | .ok more => return .ok (definitions ++ more)

end CodeAudit.Rule
