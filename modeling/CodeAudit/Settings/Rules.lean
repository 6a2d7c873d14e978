import CodeAudit.Rule.Builtin
import CodeAudit.Rule.File
import CodeAudit.Settings

/-!
# The rules that settings select

Settings can add the rules of files to the built-in ones and leave rules out. A project that does
neither shares the built-in catalog with all others.
-/

namespace CodeAudit.Settings

open CodeAudit.Files (FileSystem Path)
open CodeAudit.Rule (Catalog Definition FileError)

/-- The rules of a project that has its own: the table, how many rules came from files, and how
many ids are left out. -/
structure OwnRules where
  definitions : List Definition
  added : Nat
  disabled : Nat
  deriving Repr, Inhabited

def sharesRules (settings : Settings) : Bool :=
  settings.rules.files.isEmpty && settings.rules.disabled.isEmpty

def OwnRules.select (disabled : List String) (added : List Definition) : OwnRules where
  definitions := (Rule.builtinDefinitions ++ added).filter (!disabled.contains ·.id)
  added := added.length
  disabled := disabled.eraseDups.length

variable {m : Type → Type} [Monad m]

def ownRules (fs : FileSystem m) (settings : Settings) (root : Path)
    (decode : Toml.Decoder := Toml.parse) : m (Except FileError (Option OwnRules)) := do
  if settings.sharesRules then return .ok none
  else
    let paths := settings.rules.files.map fun file => root.join (.ofText file)
    match ← Rule.loadFiles fs paths decode with
    | .error e => return .error e
    | .ok added => return .ok (some (.select settings.rules.disabled added))

def catalogOf (shared : Catalog) : Option OwnRules → Catalog
  | none => shared
  | some own => { definitions := own.definitions }

end CodeAudit.Settings
