import CodeAudit.Regex.Charset

/-!
# Pattern trees

The tree of a pattern, with all switches already resolved: a literal knows whether it ignores case
and an anchor whether it looks at lines. Sequences and alternatives are binary, so that every
function on trees is plain structural recursion.
-/

namespace CodeAudit.Regex

/-- The least and greatest number of characters that a tree can consume. -/
structure Width where
  lo : Nat
  hi : Nat
  deriving DecidableEq, Repr, Inhabited

namespace Width

/-- Widths saturate here, so that nested repetition keeps them small. -/
def limit : Nat := 18446744073709551616

def capped (lo hi : Nat) : Width := ⟨min lo limit, min hi limit⟩

def add (a b : Width) : Width := capped (a.lo + b.lo) (a.hi + b.hi)

def join (a b : Width) : Width := ⟨min a.lo b.lo, max a.hi b.hi⟩

def times (w : Width) (min : Nat) (max : Option Nat) : Width :=
  capped (w.lo * min) (match max with
    | some n => w.hi * n
    | none => if w.hi == 0 then 0 else limit)

end Width

inductive Anchor where
  | textStart
  | lineStart
  | textEnd
  /-- The end of the text or the place before its final newline. -/
  | lastLineEnd
  | lineEnd
  | wordEdge (ascii : Bool)
  | notWordEdge (ascii : Bool)
  deriving DecidableEq, Repr, Inhabited

/-- Which of the possible repetition counts is tried first, and whether others are tried at all. -/
inductive Greed where
  | greedy
  | reluctant
  | possessive
  deriving DecidableEq, Repr, Inhabited

inductive Node where
  | empty
  | char (set : Charset)
  | seq (first second : Node)
  | alt (first second : Node)
  /-- The body at least `min` and at most `max` times, without `max` any number of times. -/
  | repeated (greed : Greed) (min : Nat) (max : Option Nat) (body : Node)
  | group (index : Nat) (body : Node)
  /-- The text that a group recorded. Its possible widths are those of the group. -/
  | backref (index : Nat) (fold : Fold) (width : Width)
  | ahead (negated : Bool) (body : Node)
  /-- The body must end here; `width` are its possible widths. -/
  | behind (negated : Bool) (width : Width) (body : Node)
  /-- The body is matched once, with no second try. -/
  | atomic (body : Node)
  | ifGroup (index : Nat) (yes no : Node)
  | anchor (place : Anchor)
  deriving DecidableEq, Repr, Inhabited

namespace Node

def ofList : List Node → Node
  | [] => .empty
  | [a] => a
  | a :: rest => .seq a (ofList rest)

def oneOf : List Node → Node
  | [] => .empty
  | [a] => a
  | a :: rest => .alt a (oneOf rest)

def width : Node → Width
  | .empty => ⟨0, 0⟩
  | .char _ => ⟨1, 1⟩
  | .seq a b => a.width.add b.width
  | .alt a b => a.width.join b.width
  | .repeated _ min max body => body.width.times min max
  | .group _ body => body.width
  | .backref _ _ width => width
  | .ahead _ _ => ⟨0, 0⟩
  | .behind _ _ _ => ⟨0, 0⟩
  | .atomic body => body.width
  | .ifGroup _ yes no => yes.width.join no.width
  | .anchor _ => ⟨0, 0⟩

end Node

end CodeAudit.Regex
