import CodeAudit.Regex.Matching
import Mathlib.Data.List.Basic

/-!
# Backtracking

Matching a tree and going on with something else is trying everything that the tree can lead to,
one after the other (`run_eq`). So a match can be discussed as a list of `outcomes`, without what
comes after it: which positions are reached, in which order they are tried, and what the groups have
recorded.
-/

namespace CodeAudit.Regex

variable {text : Array Char}

-- ---------------------------------------------------------------------------
-- Runs of characters
-- ---------------------------------------------------------------------------

theorem runLength_count (text : Array Char) (set : Charset) (limit i count : Nat) :
    runLength text set limit i count = runLength text set limit i 0 + count := by
  induction limit generalizing i count with
  | zero => simp [runLength]
  | succ limit ih =>
    simp only [runLength]
    split
    · rw [ih, ih (i + 1) (0 + 1)]
      omega
    · omega

theorem runLength_succ (text : Array Char) (set : Charset) (limit i : Nat) :
    runLength text set (limit + 1) i 0 =
      if acceptsAt text set i then runLength text set limit (i + 1) 0 + 1 else 0 := by
  simp only [runLength]
  split
  · exact runLength_count text set limit (i + 1) 1
  · rfl

theorem le_runLength {set : Charset} {limit i k : Nat} : k ≤ runLength text set limit i 0 ↔
    k ≤ limit ∧ ∀ t < k, acceptsAt text set (i + t) = true := by
  induction limit generalizing i k with
  | zero => cases k <;> simp [runLength]
  | succ limit ih =>
    rw [runLength_succ]
    cases k with
    | zero => simp
    | succ k =>
      have hshift : (∀ t < k + 1, acceptsAt text set (i + t) = true) ↔
          acceptsAt text set i = true ∧ ∀ t < k, acceptsAt text set (i + 1 + t) = true := by
        constructor
        · intro h
          refine ⟨h 0 (by omega), fun t ht => ?_⟩
          have := h (t + 1) (by omega)
          rwa [show i + (t + 1) = i + 1 + t by omega] at this
        · rintro ⟨hzero, hsucc⟩ t ht
          cases t with
          | zero => exact hzero
          | succ t =>
            rw [show i + (t + 1) = i + 1 + t by omega]
            exact hsucc t (by omega)
      rw [hshift]
      split
      · rename_i haccepts
        simp only [Nat.add_le_add_iff_right, ih, haccepts, true_and]
      · rename_i haccepts
        simp [haccepts]

theorem acceptsAt_iff {set : Charset} :
    acceptsAt text set i = true ↔ ∃ c, text[i]? = some c ∧ set.accepts c = true := by
  unfold acceptsAt
  cases text[i]? <;> simp

theorem acceptsAt_lt {set : Charset} (h : acceptsAt text set i = true) : i < text.size := by
  by_contra hi
  simp [acceptsAt, Array.getElem?_eq_none (Nat.not_lt.mp hi)] at h

/-- Where a repeated set can end, in order of preference. -/
def setEnds (text : Array Char) (greed : Greed) (min : Nat) (max : Option Nat) (set : Charset)
    (i : Nat) : List Nat :=
  let room := text.size - i
  match greed with
  | .greedy =>
    let count := runLength text set (capAt max room) i 0
    if count < min then [] else (List.range (count - min + 1)).reverse.map (i + min + ·)
  | .possessive =>
    let count := runLength text set (capAt max room) i 0
    if count < min then [] else [i + count]
  | .reluctant =>
    if room < min || runLength text set min i 0 < min then []
    else
      let extra := capAt (max.map (· - min)) (room - min)
      (List.range (runLength text set extra (i + min) 0 + 1)).map (i + min + ·)

theorem tryDown_eq (i : Nat) (marks : Marks) (next : Next) (min extra : Nat) :
    tryDown i marks next min extra =
      ((List.range (extra + 1)).reverse.map (i + min + ·)).findSome? fun j => next j marks := by
  induction extra with
  | zero => simp [tryDown]
  | succ extra ih =>
    rw [List.range_succ, List.reverse_append, List.reverse_singleton, List.singleton_append,
      List.map_cons, List.findSome?_cons, ← ih, tryDown, ← Nat.add_assoc]
    cases next (i + min + extra + 1) marks <;> rfl

theorem tryUp_eq (set : Charset) (marks : Marks) (next : Next) (extra i : Nat) :
    tryUp text set marks next extra i =
      ((List.range (runLength text set extra i 0 + 1)).map (i + ·)).findSome?
        fun j => next j marks := by
  induction extra generalizing i with
  | zero => simp [tryUp, runLength]
  | succ extra ih =>
    rw [tryUp, runLength_succ, List.range_succ_eq_map, List.map_cons, List.findSome?_cons]
    simp only [Nat.add_zero]
    cases next i marks with
    | some r => rfl
    | none =>
      dsimp only
      split
      · rw [ih, List.map_map]
        refine congrArg _ (List.map_congr_left fun k _ => ?_)
        simp only [Function.comp_apply]
        omega
      · simp

theorem runSet_eq (greed : Greed) (min : Nat) (max : Option Nat) (set : Charset) (i : Nat)
    (marks : Marks) (next : Next) :
    runSet text greed min max set i marks next =
      (setEnds text greed min max set i).findSome? fun j => next j marks := by
  cases greed with
  | greedy =>
    simp only [runSet, setEnds]
    split
    · rfl
    · exact tryDown_eq i marks next min _
  | possessive =>
    simp only [runSet, setEnds]
    split <;> simp
  | reluctant =>
    simp only [runSet, setEnds]
    split
    · rfl
    · exact tryUp_eq set marks next _ (i + min)

-- ---------------------------------------------------------------------------
-- Loops
-- ---------------------------------------------------------------------------

def greedyEnds (step : Nat → Marks → List Outcome) (min : Nat) (max : Option Nat) :
    (fuel count : Nat) → (last : Option Nat) → Nat → Marks → List Outcome
  | 0, _, _, _, _ => []
  | fuel + 1, count, last, i, marks =>
    if count < min then
      (step i marks).flatMap fun o => greedyEnds step min max fuel (count + 1) last o.1 o.2
    else if max.all (count < ·) && last != some i then
      ((step i marks).flatMap fun o =>
        greedyEnds step min max fuel (count + 1) (some i) o.1 o.2) ++ [(i, marks)]
    else [(i, marks)]

def reluctantEnds (step : Nat → Marks → List Outcome) (min : Nat) (max : Option Nat) :
    (fuel count : Nat) → (last : Option Nat) → Nat → Marks → List Outcome
  | 0, _, _, _, _ => []
  | fuel + 1, count, last, i, marks =>
    if count < min then
      (step i marks).flatMap fun o => reluctantEnds step min max fuel (count + 1) last o.1 o.2
    else if max.all (count < ·) && last != some i then
      (i, marks) :: (step i marks).flatMap fun o =>
        reluctantEnds step min max fuel (count + 1) (some i) o.1 o.2
    else [(i, marks)]

theorem findSome?_flatMap (f : α → List β) (g : β → Option γ) (l : List α) :
    (l.flatMap f).findSome? g = l.findSome? fun a => (f a).findSome? g := by
  induction l with
  | nil => rfl
  | cons a l ih => rw [List.flatMap_cons, List.findSome?_append, ih, List.findSome?_cons]; grind

section Loops

variable {run : Nat → Marks → Next → Option Outcome} {step : Nat → Marks → List Outcome}
  (hstep : ∀ i marks next, run i marks next = (step i marks).findSome? fun o => next o.1 o.2)

include hstep

theorem loopGreedy_eq (min : Nat) (max : Option Nat) (next : Next) (fuel count : Nat)
    (last : Option Nat) (i : Nat) (marks : Marks) :
    loopGreedy run min max next fuel count last i marks =
      (greedyEnds step min max fuel count last i marks).findSome? fun o => next o.1 o.2 := by
  induction fuel generalizing count last i marks with
  | zero => rfl
  | succ fuel ih =>
    simp only [loopGreedy, greedyEnds, hstep, ih]
    split
    · rw [findSome?_flatMap]
    · split
      · rw [List.findSome?_append, findSome?_flatMap, List.findSome?_singleton]
        split <;> rename_i hround <;> simp [hround]
      · simp

theorem loopReluctant_eq (min : Nat) (max : Option Nat) (next : Next) (fuel count : Nat)
    (last : Option Nat) (i : Nat) (marks : Marks) :
    loopReluctant run min max next fuel count last i marks =
      (reluctantEnds step min max fuel count last i marks).findSome? fun o => next o.1 o.2 := by
  induction fuel generalizing count last i marks with
  | zero => rfl
  | succ fuel ih =>
    simp only [loopReluctant, reluctantEnds, hstep, ih]
    split
    · rw [findSome?_flatMap]
    · split
      · rename_i hstop
        split <;> simp [hstop]
      · rename_i hstop
        split
        · simp [hstop, findSome?_flatMap]
        · simp [hstop]

end Loops

-- ---------------------------------------------------------------------------
-- Trees
-- ---------------------------------------------------------------------------

/-- What matching a tree can lead to, in order of preference. -/
def outcomes (text : Array Char) : Node → Nat → Marks → List Outcome
  | .empty, i, marks => [(i, marks)]
  | .char set, i, marks => if acceptsAt text set i then [(i + 1, marks)] else []
  | .seq a b, i, marks => (outcomes text a i marks).flatMap fun o => outcomes text b o.1 o.2
  | .alt a b, i, marks => outcomes text a i marks ++ outcomes text b i marks
  | .repeated greed min max (.char set), i, marks =>
    (setEnds text greed min max set i).map fun j => (j, marks)
  | .repeated .greedy min max body, i, marks =>
    greedyEnds (outcomes text body) min max (min + (text.size - i) + 2) 0 none i marks
  | .repeated .reluctant min max body, i, marks =>
    reluctantEnds (outcomes text body) min max (min + (text.size - i) + 2) 0 none i marks
  | .repeated .possessive min max body, i, marks =>
    (loopPossessive (fun j later => (outcomes text body j later).head?) min max
      (min + (text.size - i) + 2) 0 none i marks).toList
  | .group index body, i, marks =>
    (outcomes text body i (marks.start index i)).map fun o => (o.1, o.2.stop index o.1)
  | .backref index fold _, i, marks =>
    match marks.span? index with
    | some (start, stop) =>
      if sameText text fold start (stop - start) i then [(i + (stop - start), marks)] else []
    | none => []
  | .ahead negated body, i, marks =>
    match (outcomes text body i marks).head?, negated with
    | some (_, later), false => [(i, later)]
    | none, true => [(i, marks)]
    | _, _ => []
  | .behind negated width body, i, marks =>
    match if width.lo ≤ i then (outcomes text body (i - width.lo) marks).head? else none,
        negated with
    | some (_, later), false => [(i, later)]
    | none, true => [(i, marks)]
    | _, _ => []
  | .atomic body, i, marks => (outcomes text body i marks).head?.toList
  | .ifGroup index yes no, i, marks =>
    if (marks.span? index).isSome then outcomes text yes i marks else outcomes text no i marks
  | .anchor place, i, marks => if place.holds text i then [(i, marks)] else []

theorem findSome?_some (l : List Outcome) : (l.findSome? fun o => stopHere o.1 o.2) = l.head? := by
  cases l <;> rfl

/-- Matching a tree and going on is trying what the tree can lead to, in order. -/
theorem run_eq (node : Node) (i : Nat) (marks : Marks) (next : Next) :
    run text node i marks next = (outcomes text node i marks).findSome? fun o => next o.1 o.2 := by
  induction node generalizing i marks next with
  | empty => simp [run, outcomes]
  | char set =>
    simp only [run, outcomes]
    split <;> simp
  | seq a b iha ihb =>
    simp only [run, outcomes, iha, ihb, findSome?_flatMap]
  | alt a b iha ihb =>
    simp only [run, outcomes, iha, ihb, List.findSome?_append]
    split <;> rename_i h <;> simp [h]
  | repeated greed min max body ih =>
    -- A repeated set is counted, everything else is looped over.
    by_cases hset : ∃ set, body = .char set
    · obtain ⟨set, rfl⟩ := hset
      simp only [run, outcomes, runSet_eq, List.findSome?_map]
      rfl
    · have hbody : ∀ set, body = .char set → False := fun set h => hset ⟨set, h⟩
      cases greed with
      | greedy =>
        rw [run, outcomes, loopGreedy_eq ih] <;> exact hbody
      | reluctant =>
        rw [run, outcomes, loopReluctant_eq ih] <;> exact hbody
      | possessive =>
        have hstop : (fun j later => run text body j later stopHere) =
            fun j later => (outcomes text body j later).head? := by
          funext j later
          rw [ih, findSome?_some]
        rw [run, outcomes, hstop]
        · cases loopPossessive _ _ _ _ _ _ _ _ <;> simp
        · exact hbody
        · exact hbody
  | group index body ih =>
    simp only [run, outcomes, ih, List.findSome?_map]
    rfl
  | backref index fold width =>
    simp only [run, outcomes]
    cases marks.span? index with
    | none => rfl
    | some span =>
      dsimp only
      split <;> simp
  | ahead negated body ih =>
    simp only [run, outcomes, ih, findSome?_some]
    cases (outcomes text body i marks).head? <;> cases negated <;> simp
  | behind negated width body ih =>
    simp only [run, outcomes, ih, findSome?_some]
    cases (if width.lo ≤ i then (outcomes text body (i - width.lo) marks).head? else none) <;>
      cases negated <;> simp
  | atomic body ih =>
    simp only [run, outcomes, ih, findSome?_some]
    split <;> rename_i h <;> simp [h]
  | ifGroup index yes no ihyes ihno =>
    simp only [run, outcomes, ihyes, ihno]
    split <;> rfl
  | anchor place =>
    simp only [run, outcomes]
    split <;> simp

-- ---------------------------------------------------------------------------
-- Rounds of a loop
-- ---------------------------------------------------------------------------

/-- A number of rounds, each of which goes on where the one before it ended. -/
inductive Rounds (step : Nat → Marks → List Outcome) : Nat → Outcome → Outcome → Prop where
  | none (o : Outcome) : Rounds step 0 o o
  | more {n : Nat} {o o' o'' : Outcome} (hround : o' ∈ step o.1 o.2)
      (hrest : Rounds step n o' o'') : Rounds step (n + 1) o o''

section Rounds

variable {step : Nat → Marks → List Outcome} {min : Nat} {max : Option Nat}

theorem rounds_greedyEnds (h : o ∈ greedyEnds step min max fuel count last i marks) :
    ∃ n, min ≤ count + n ∧ Rounds step n (i, marks) o := by
  induction fuel generalizing count last i marks with
  | zero => cases h
  | succ fuel ih =>
    -- One more round leads to what the rest of the loop leads to.
    have hmore {last} (hmem : o ∈ (step i marks).flatMap fun o =>
        greedyEnds step min max fuel (count + 1) last o.1 o.2) :
        ∃ n, min ≤ count + n ∧ Rounds step n (i, marks) o := by
      obtain ⟨o', ho', hrest⟩ := List.mem_flatMap.mp hmem
      obtain ⟨n, hn, hrounds⟩ := ih hrest
      exact ⟨n + 1, by omega, .more ho' hrounds⟩
    simp only [greedyEnds] at h
    split at h
    · exact hmore h
    · split at h
      · rcases List.mem_append.mp h with hmem | hmem
        · exact hmore hmem
        · obtain rfl := List.mem_singleton.mp hmem
          exact ⟨0, by omega, .none _⟩
      · obtain rfl := List.mem_singleton.mp h
        exact ⟨0, by omega, .none _⟩

theorem rounds_reluctantEnds (h : o ∈ reluctantEnds step min max fuel count last i marks) :
    ∃ n, min ≤ count + n ∧ Rounds step n (i, marks) o := by
  induction fuel generalizing count last i marks with
  | zero => cases h
  | succ fuel ih =>
    have hmore {last} (hmem : o ∈ (step i marks).flatMap fun o =>
        reluctantEnds step min max fuel (count + 1) last o.1 o.2) :
        ∃ n, min ≤ count + n ∧ Rounds step n (i, marks) o := by
      obtain ⟨o', ho', hrest⟩ := List.mem_flatMap.mp hmem
      obtain ⟨n, hn, hrounds⟩ := ih hrest
      exact ⟨n + 1, by omega, .more ho' hrounds⟩
    simp only [reluctantEnds] at h
    split at h
    · exact hmore h
    · split at h
      · rcases List.mem_cons.mp h with rfl | hmem
        · exact ⟨0, by omega, .none _⟩
        · exact hmore hmem
      · obtain rfl := List.mem_singleton.mp h
        exact ⟨0, by omega, .none _⟩

theorem rounds_loopPossessive {once : Nat → Marks → Option Outcome}
    (honce : ∀ i marks o, once i marks = some o → o ∈ step i marks)
    (h : loopPossessive once min max fuel count last i marks = some o) :
    ∃ n, min ≤ count + n ∧ Rounds step n (i, marks) o := by
  induction fuel generalizing count last i marks with
  | zero => cases h
  | succ fuel ih =>
    simp only [loopPossessive] at h
    cases hround : once i marks with
    | some o' =>
      have hmore {last} (hrest : loopPossessive once min max fuel (count + 1) last o'.1 o'.2 =
          some o) : ∃ n, min ≤ count + n ∧ Rounds step n (i, marks) o := by
        obtain ⟨n, hn, hrounds⟩ := ih hrest
        exact ⟨n + 1, by omega, .more (honce i marks o' hround) hrounds⟩
      rw [hround] at h
      split at h
      · exact hmore h
      · split at h
        · exact hmore h
        · cases h
          exact ⟨0, by omega, .none _⟩
    | none =>
      rw [hround] at h
      split at h
      · cases h
      · split at h
        all_goals
          cases h
          exact ⟨0, by omega, .none _⟩

theorem mem_setEnds {set : Charset} (h : j ∈ setEnds text greed min max set i) :
    ∃ k, j = i + k ∧ min ≤ k ∧ ∀ t < k, acceptsAt text set (i + t) = true := by
  cases greed with
  | greedy =>
    simp only [setEnds] at h
    split at h
    · cases h
    · obtain ⟨x, hx, rfl⟩ := List.mem_map.mp h
      rw [List.mem_reverse, List.mem_range] at hx
      have hle : min + x ≤ runLength text set (capAt max (text.size - i)) i 0 := by omega
      exact ⟨min + x, by omega, by omega, (le_runLength.mp hle).2⟩
  | possessive =>
    simp only [setEnds] at h
    split at h
    · cases h
    · obtain rfl := List.mem_singleton.mp h
      exact ⟨_, rfl, by omega, (le_runLength.mp (Nat.le_refl _)).2⟩
  | reluctant =>
    simp only [setEnds, Bool.or_eq_true, decide_eq_true_eq] at h
    split at h
    · cases h
    · next hmin =>
      obtain ⟨x, hx, rfl⟩ := List.mem_map.mp h
      rw [List.mem_range] at hx
      obtain ⟨-, hfirst⟩ := le_runLength.mp (Nat.not_lt.mp (not_or.mp hmin).2)
      obtain ⟨-, hrest⟩ := le_runLength.mp (Nat.le_of_lt_succ hx)
      refine ⟨min + x, by omega, by omega, fun t ht => ?_⟩
      by_cases hlt : t < min
      · exact hfirst t hlt
      · rw [show i + t = i + min + (t - min) by omega]
        exact hrest (t - min) (by omega)

theorem rounds_char {set : Charset} (h : ∀ t < k, acceptsAt text set (i + t) = true) :
    Rounds (outcomes text (.char set)) k (i, marks) (i + k, marks) := by
  induction k generalizing i with
  | zero => exact .none _
  | succ k ih =>
    have hfirst : acceptsAt text set i = true := h 0 (by omega)
    have hrest : ∀ t < k, acceptsAt text set (i + 1 + t) = true := by
      intro t ht
      rw [show i + 1 + t = i + (t + 1) by omega]
      exact h (t + 1) (by omega)
    have hround : (i + 1, marks) ∈ outcomes text (.char set) i marks := by
      simp [outcomes, hfirst]
    refine .more hround ?_
    rw [show i + (k + 1) = i + 1 + k by omega]
    exact ih hrest

/-- What a repetition leads to is what rounds of its body lead to. -/
theorem rounds_of_mem (h : o ∈ outcomes text (.repeated greed min max body) i marks) :
    ∃ n, min ≤ n ∧ Rounds (outcomes text body) n (i, marks) o := by
  by_cases hset : ∃ set, body = .char set
  · obtain ⟨set, rfl⟩ := hset
    simp only [outcomes, List.mem_map] at h
    obtain ⟨j, hj, rfl⟩ := h
    obtain ⟨k, rfl, hk, haccepts⟩ := mem_setEnds hj
    exact ⟨k, hk, rounds_char haccepts⟩
  · have hbody : ∀ set, body = .char set → False := fun set h => hset ⟨set, h⟩
    cases greed with
    | greedy =>
      rw [outcomes] at h
      · simpa using rounds_greedyEnds h
      · exact hbody
    | reluctant =>
      rw [outcomes] at h
      · simpa using rounds_reluctantEnds h
      · exact hbody
    | possessive =>
      rw [outcomes] at h
      · rw [Option.mem_toList] at h
        simpa using rounds_loopPossessive (fun i marks o => List.mem_of_mem_head?) h
      · exact hbody

end Rounds

end CodeAudit.Regex
