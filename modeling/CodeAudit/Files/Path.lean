/-!
# Paths

A path is a root and parts. Empty parts and single dots are dropped when a path is read; double
dots stay, because what they lead to depends on the files.
-/

namespace CodeAudit.Files

/-- A path. The root is empty for a relative path, and otherwise one slash or exactly two. -/
structure Path where
  root : String := ""
  parts : List String := []
  deriving DecidableEq, Repr, Inhabited

namespace Path

def partsOf (text : List Char) : List String :=
  ((text.splitOn '/').filter fun part => !part.isEmpty && part != ['.']).map String.ofList

/-- The root of a path: three slashes or more are one. -/
def rootOf : List Char → String
  | ['/', '/'] => "//"
  | '/' :: '/' :: c :: _ => if c == '/' then "/" else "//"
  | '/' :: _ => "/"
  | _ => ""

def ofText (text : String) : Path :=
  ⟨rootOf text.toList, partsOf text.toList⟩

def text (p : Path) : String :=
  if p.root.isEmpty && p.parts.isEmpty then "." else p.root ++ String.intercalate "/" p.parts

def isAbsolute (p : Path) : Bool := !p.root.isEmpty

/-- A path below another one. An absolute path stays as it is. -/
def join (base p : Path) : Path :=
  if p.isAbsolute then p else { base with parts := base.parts ++ p.parts }

def name (p : Path) : String := p.parts.getLastD ""

def parent (p : Path) : Path := { p with parts := p.parts.dropLast }

def follow (parts : List String) (part : String) : List String :=
  if part == ".." then parts.dropLast else parts ++ [part]

/-- The absolute path without double dots that a path stands for, seen from a directory. -/
def resolve (directory p : Path) : Path :=
  ⟨"/", (directory.join p).parts.foldl follow []⟩

def upwards (p : Path) : List Path :=
  (List.range (p.parts.length + 1)).map fun i =>
    { p with parts := p.parts.take (p.parts.length - i) }

end Path

end CodeAudit.Files
