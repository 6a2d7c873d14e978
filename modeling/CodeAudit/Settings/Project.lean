import CodeAudit.Files.Access
import CodeAudit.Settings
import CodeAudit.Toml.Reader

/-!
# The settings of a project

A project is the nearest directory with a settings file, at or above the place where the search
starts.
-/

namespace CodeAudit.Settings

open CodeAudit.Files (AccessError FileSystem Path TextError)

def fileName : Path := ⟨"", ["pyproject.toml"]⟩

/-- Why the settings of a project cannot be had. Only settings that are refused are reported as
such. -/
inductive LoadError where
  | refused (error : Settings.Error)
  | text (error : TextError)
  | limit (limit : Limit)
  deriving DecidableEq, Repr, Inhabited

def LoadError.ofToml (source : String) : Toml.Error → LoadError
  | .refused reason => .refused (.badToml source reason)
  | .limit reached => .limit reached

/-- The settings in the document of a settings file. A file without the table leaves everything at
its default. -/
def ofDocument (document : Entries) : Except Settings.Error Settings := do
  let .table tools := (document.get? "tool").getD (.table []) | return {}
  let tools : Entries := tools
  match (tools.get? "codesentinel").getD (.table []) with
  | .table [] => return {}
  | .table entries => ofEntries entries
  | _ => throw (.notTable tableName)

def ofText (source text : String) (decode : Toml.Decoder := Toml.parse) :
    Except LoadError Settings := do
  let document ← (decode text).mapError (.ofToml source)
  (ofDocument document).mapError .refused

variable {m : Type → Type} [Monad m]

def firstWithFile? (fs : FileSystem m) : List Path → m (Except AccessError (Option Path))
  | [] => return .ok none
  | directory :: rest => do
    match ← fs.kind? (directory.join fileName) with
    | .error e => return .error e
    | .ok (some _) => return .ok (some directory)
    | .ok none => firstWithFile? fs rest

/-- The directory of the project that a path belongs to. If no directory has a settings file, it is
the path itself, or the directory of a file. -/
def findRoot (fs : FileSystem m) (start : Path) : m (Except AccessError Path) := do
  let start := fs.current.resolve start
  match ← fs.kind? start with
  | .error e => return .error e
  | .ok kind =>
    let base := if kind == some .directory then start else start.parent
    return (← firstWithFile? fs base.upwards).map (·.getD base)

def load (fs : FileSystem m) (directory : Path) (decode : Toml.Decoder := Toml.parse) :
    m (Except LoadError Settings) := do
  let path := directory.join fileName
  match ← fs.kind? path with
  | .error e => return .error (.text (.access e))
  | .ok none => return .ok {}
  | .ok (some _) =>
    match ← fs.readText path with
    | .error e => return .error (.text e)
    | .ok text => return ofText path.text text decode

end CodeAudit.Settings
