import CodeAudit.Files.Access

/-!
# File trees in memory

A tree holds directories and files by the parts of their absolute paths. Every directory on the way
to an entry is an entry too. A path is followed part by part, so double dots behind something that
is not there, or is a file, lead nowhere.
-/

namespace CodeAudit.Files

inductive Node where
  | directory
  | file (bytes : List UInt8)
  deriving DecidableEq, Repr, Inhabited

structure Tree where
  current : Path
  nodes : List (List String × Node) := []
  deriving Repr, Inhabited

namespace Tree

/-- The node at the parts of an absolute path. The root is always there. -/
def nodeAt? (tree : Tree) (parts : List String) : Option Node :=
  if parts.isEmpty then some .directory else tree.nodes.lookup parts

def set (tree : Tree) (parts : List String) (node : Node) : Tree :=
  { tree with nodes := (parts, node) :: tree.nodes.filter (·.1 != parts) }

def put (tree : Tree) (path : Path) (node : Node) : Tree :=
  let path := tree.current.resolve path
  let above := path.parent.upwards.filter fun p => (tree.nodeAt? p.parts).isNone
  (above.foldl (fun tree p => tree.set p.parts .directory) tree).set path.parts node

def remove (tree : Tree) (path : Path) : Tree :=
  let path := tree.current.resolve path
  { tree with nodes := tree.nodes.filter fun (parts, _) => !path.parts.isPrefixOf parts }

def empty (current : Path) : Tree :=
  let tree : Tree := { current }
  tree.put current .directory

def walk (tree : Tree) (seen : List String) : List String → Except AccessFault Node
  | [] =>
    match tree.nodeAt? seen with
    | some node => .ok node
    | none => .error .notFound
  | part :: rest =>
    match tree.nodeAt? seen with
    | some .directory => walk tree (Path.follow seen part) rest
    | some (.file _) => .error .notDirectory
    | none => .error .notFound

def find (tree : Tree) (path : Path) : Except AccessFault Node :=
  let parts := (tree.current.join path).parts
  if parts.any (·.toList.contains '\x00') then .error .nullCharacter else tree.walk [] parts

def fileSystem (tree : Tree) : FileSystem Id where
  current := tree.current
  kind path := (tree.find path).map fun
    | .directory => .directory
    | .file _ => .file
  read path :=
    match tree.find path with
    | .ok (.file bytes) => .ok bytes
    | .ok .directory => .error .isDirectory
    | .error fault => .error fault

end Tree

end CodeAudit.Files
