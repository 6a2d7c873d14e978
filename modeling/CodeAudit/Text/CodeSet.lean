/-!
# Sets of code points

A set of code points is stored as the sorted array of the points where membership changes, so
that a point belongs to the set exactly when an odd number of bounds are at most it. The count is
found by bisection; the same bisection serves every sorted table of the library.
-/

namespace CodeAudit.Text

/-- Bisects between `lo` and `hi` for the first entry greater than `x`. Each round halves the
interval, so `a.size` rounds are more than enough. -/
def bisectBetween (a : Array Nat) (x : Nat) : (rounds lo hi : Nat) → Nat
  | 0, lo, _ => lo
  | rounds + 1, lo, hi =>
    if lo < hi then
      let mid := (lo + hi) / 2
      if x < a.getD mid 0 then bisectBetween a x rounds lo mid
      else bisectBetween a x rounds (mid + 1) hi
    else lo

def bisectRight (a : Array Nat) (x : Nat) : Nat :=
  bisectBetween a x a.size 0 a.size

/-- A set of code points, given by the points where membership changes. -/
structure CodeSet where
  bounds : Array Nat
  deriving Inhabited

namespace CodeSet

def contains (s : CodeSet) (code : Nat) : Bool :=
  bisectRight s.bounds code % 2 == 1

def meets (s : CodeSet) (lo hi : Nat) : Bool :=
  s.contains lo || bisectRight s.bounds lo < bisectRight s.bounds hi

end CodeSet

end CodeAudit.Text
