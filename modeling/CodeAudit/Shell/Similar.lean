/-!
# Similar texts

How alike two texts are: take the longest stretch that both share, then what they share before it
and behind it, and so on. Twice the length of all shared stretches, divided by the length of both
texts, is their similarity.
-/

namespace CodeAudit.Shell

def sharedPrefix : List Char → List Char → Nat
  | a :: as, b :: bs => if a == b then sharedPrefix as bs + 1 else 0
  | _, _ => 0

/-- A stretch that two texts share: where it starts in each, and its length. -/
structure Stretch where
  first : Nat
  second : Nat
  size : Nat
  deriving DecidableEq, Repr, Inhabited

def stretches (a b : List Char) : List Stretch :=
  (List.range a.length).flatMap fun i =>
    (List.range b.length).map fun j => ⟨i, j, sharedPrefix (a.drop i) (b.drop j)⟩

def longestStretch (a b : List Char) : Stretch :=
  (stretches a b).foldl (fun best s => if best.size < s.size then s else best) ⟨0, 0, 0⟩

def sharedSize : (fuel : Nat) → List Char → List Char → Nat
  | 0, _, _ => 0
  | fuel + 1, a, b =>
    let s := longestStretch a b
    if s.size == 0 then 0
    else
      sharedSize fuel (a.take s.first) (b.take s.second) + s.size +
        sharedSize fuel (a.drop (s.first + s.size)) (b.drop (s.second + s.size))

/-- A text and its similarity to another one, as a fraction. -/
structure Likeness where
  text : String
  shared : Nat
  total : Nat
  deriving DecidableEq, Repr, Inhabited

def likeness (text candidate : String) : Likeness :=
  let a := candidate.toList
  let b := text.toList
  ⟨candidate, 2 * sharedSize (a.length + 1) a b, a.length + b.length⟩

/-- Whether a candidate is at least six tenths alike. -/
def Likeness.isClose (l : Likeness) : Bool := 6 * l.total ≤ 10 * l.shared

/-- Whether one candidate comes before another: the more alike, then the later in the alphabet. -/
def Likeness.before (l r : Likeness) : Bool :=
  let left := l.shared * r.total
  let right := r.shared * l.total
  right < left || (left == right && decide (r.text ≤ l.text))

def maxSimilar : Nat := 3

def similar (text : String) (candidates : List String) : List String :=
  let close := (candidates.map (likeness text)).filter (·.isClose)
  ((close.mergeSort Likeness.before).take maxSimilar).map (·.text)

end CodeAudit.Shell
