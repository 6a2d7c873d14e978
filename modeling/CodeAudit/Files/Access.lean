import CodeAudit.Files.Path
import CodeAudit.Files.Utf8

/-!
# Access to files

What the program needs from the files around it: what is at a path, and the bytes of a file. The
operations run in any monad, so that they can be those of the operating system or of a tree in
memory.
-/

namespace CodeAudit.Files

/-- Why a path cannot be used: a fault of the operating system, by its number, or a null character
in the path, with which the system is not even asked. -/
inductive AccessFault where
  | notFound
  | notDirectory
  | isDirectory
  | system (number : Nat) (reason : String)
  | nullCharacter
  deriving DecidableEq, Repr, Inhabited

namespace AccessFault

def isSystem : AccessFault → Bool
  | .nullCharacter => false
  | _ => true

/-- Whether a fault only means that nothing is at the path. Numbers 9 and 40 are those of a bad
descriptor and of a cycle of links. -/
def meansAbsent : AccessFault → Bool
  | .notFound | .notDirectory | .nullCharacter => true
  | .system number _ => number == 9 || number == 40
  | .isDirectory => false

end AccessFault

structure AccessError where
  fault : AccessFault
  path : Path
  deriving DecidableEq, Repr, Inhabited

def AccessError.message (e : AccessError) : String :=
  let numbered (number : Nat) (reason : String) : String :=
    "[Errno " ++ toString number ++ "] " ++ reason ++ ": " ++ Text.quoted e.path.text
  match e.fault with
  | .notFound => numbered 2 "No such file or directory"
  | .notDirectory => numbered 20 "Not a directory"
  | .isDirectory => numbered 21 "Is a directory"
  | .system number reason => numbered number reason
  | .nullCharacter => "embedded null byte"

inductive Kind where
  | file
  | directory
  deriving DecidableEq, Repr, Inhabited

/-- Files as a monad gives access to them, with the directory that relative paths start from. -/
structure FileSystem (m : Type → Type) where
  current : Path
  kind : Path → m (Except AccessFault Kind)
  read : Path → m (Except AccessFault (List UInt8))

inductive TextError where
  | access (error : AccessError)
  | encoding (error : DecodeError)
  deriving DecidableEq, Repr, Inhabited

def textOf (bytes : List UInt8) : Except DecodeError String :=
  (decodeStrict bytes).map fun text => String.ofList (plainNewlines text)

namespace FileSystem

variable {m : Type → Type} [Monad m]

def kind? (fs : FileSystem m) (path : Path) : m (Except AccessError (Option Kind)) := do
  match ← fs.kind path with
  | .ok kind => return .ok (some kind)
  | .error fault => return if fault.meansAbsent then .ok none else .error ⟨fault, path⟩

def readText (fs : FileSystem m) (path : Path) : m (Except TextError String) := do
  match ← fs.read path with
  | .error fault => return .error (.access ⟨fault, path⟩)
  | .ok bytes => return (textOf bytes).mapError .encoding

def readLossy (fs : FileSystem m) (path : Path) : m (Except AccessError String) := do
  match ← fs.read path with
  | .error fault => return .error ⟨fault, path⟩
  | .ok bytes => return .ok (String.ofList (plainNewlines (decodeLossy bytes)))

end FileSystem

end CodeAudit.Files
