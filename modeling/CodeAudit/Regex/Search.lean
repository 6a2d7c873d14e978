import CodeAudit.Regex.Matching
import CodeAudit.Regex.Pattern

/-!
# Searching

The leftmost match of a pattern, and all matches from left to right. Matches never overlap. An
empty match may directly follow a non-empty one, and after an empty match the next one must either
consume something at the same place or start further right.
-/

namespace CodeAudit.Regex

structure Match where
  start : Nat
  stop : Nat
  marks : Marks
  deriving DecidableEq, Repr, Inhabited

namespace Pattern

/-- The preferred match that starts at a position. If `nonEmpty`, empty ones are passed over. -/
def matchAt (p : Pattern) (text : Array Char) (i : Nat) (nonEmpty : Bool) : Option Match :=
  let accept : Next := fun j marks => if nonEmpty && j == i then none else some (j, marks)
  (run text p.root i (.blank p.groups) accept).map fun (j, marks) => ⟨i, j, marks⟩

/-- The first match that starts at `i` or one of the `room` positions after it. Only at `i` can a
non-empty match be required. -/
def searchFrom (p : Pattern) (text : Array Char) (nonEmpty : Bool) :
    (room i : Nat) → Option Match
  | 0, i => p.matchAt text i nonEmpty
  | room + 1, i =>
    match p.matchAt text i nonEmpty with
    | some m => some m
    | none => searchFrom p text false room (i + 1)

def search (p : Pattern) (text : Array Char) : Option Match :=
  p.searchFrom text false text.size 0

/-- The matches from `i` on. Between two matches the position grows or an empty match is ruled out,
so twice the length of the text bounds their number. -/
def findFrom (p : Pattern) (text : Array Char) :
    (fuel i : Nat) → (nonEmpty : Bool) → List Match
  | 0, _, _ => []
  | fuel + 1, i, nonEmpty =>
    if text.size < i then []
    else
      match p.searchFrom text nonEmpty (text.size - i) i with
      | none => []
      | some m => m :: findFrom p text fuel m.stop (m.stop == m.start)

def findAll (p : Pattern) (text : Array Char) : List Match :=
  p.findFrom text (2 * text.size + 2) 0 false

end Pattern

def slice (text : Array Char) (start stop : Nat) : String :=
  String.ofList (text.extract start stop).toList

namespace Match

def text (m : Match) (source : Array Char) : String :=
  slice source m.start m.stop

def group? (m : Match) (source : Array Char) (group : Nat) : Option String :=
  (m.marks.span? group).map fun (start, stop) => slice source start stop

end Match

end CodeAudit.Regex
