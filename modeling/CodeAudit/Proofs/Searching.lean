import CodeAudit.Proofs.Backtracking
import CodeAudit.Rule.Matcher

/-!
# Searching

A match is one of the outcomes of the tree of a pattern at the place where it starts
(`mem_findAll`), and a search fails only if there is no outcome at any place
(`isSome_search`). Searching for one match and for all of them agree on whether there is any.
-/

namespace CodeAudit.Regex

namespace Pattern

variable {p : Pattern} {text : Array Char}

def outcomesAt (p : Pattern) (text : Array Char) (i : Nat) : List Outcome :=
  outcomes text p.root i (.blank p.groups)

theorem matchAt_eq (i : Nat) (nonEmpty : Bool) :
    p.matchAt text i nonEmpty = ((p.outcomesAt text i).find? fun o =>
      !(nonEmpty && o.1 == i)).map fun o => ⟨i, o.1, o.2⟩ := by
  simp only [matchAt, run_eq, outcomesAt]
  induction outcomes text p.root i (.blank p.groups) with
  | nil => rfl
  | cons o rest ih =>
    rw [List.findSome?_cons, List.find?_cons]
    cases nonEmpty && o.1 == i with
    | true => simpa using ih
    | false => rfl

theorem matchAt_mem (h : p.matchAt text i nonEmpty = some m) :
    m.start = i ∧ (m.stop, m.marks) ∈ p.outcomesAt text i := by
  rw [matchAt_eq, Option.map_eq_some_iff] at h
  obtain ⟨o, ho, rfl⟩ := h
  exact ⟨rfl, List.mem_of_find?_eq_some ho⟩

theorem isSome_matchAt : (p.matchAt text i false).isSome ↔ p.outcomesAt text i ≠ [] := by
  rw [matchAt_eq]
  cases p.outcomesAt text i <;> simp

theorem searchFrom_mem (h : p.searchFrom text nonEmpty room i = some m) :
    i ≤ m.start ∧ m.start ≤ i + room ∧ (m.stop, m.marks) ∈ p.outcomesAt text m.start := by
  induction room generalizing i nonEmpty with
  | zero =>
    obtain ⟨rfl, hmem⟩ := matchAt_mem h
    exact ⟨Nat.le_refl _, Nat.le_refl _, hmem⟩
  | succ room ih =>
    simp only [searchFrom] at h
    cases hat : p.matchAt text i nonEmpty with
    | some found =>
      rw [hat] at h
      obtain rfl := Option.some.inj h
      obtain ⟨rfl, hmem⟩ := matchAt_mem hat
      exact ⟨Nat.le_refl _, Nat.le_add_right _ _, hmem⟩
    | none =>
      rw [hat] at h
      obtain ⟨hfrom, hto, hmem⟩ := ih h
      exact ⟨by omega, by omega, hmem⟩

theorem isSome_searchFrom (room i : Nat) : (p.searchFrom text false room i).isSome ↔
    ∃ k ≤ room, p.outcomesAt text (i + k) ≠ [] := by
  induction room generalizing i with
  | zero => simpa [searchFrom] using isSome_matchAt
  | succ room ih =>
    have hat : (p.matchAt text i false).isSome ↔ p.outcomesAt text i ≠ [] := isSome_matchAt
    simp only [searchFrom]
    cases hfirst : p.matchAt text i false with
    | some found =>
      rw [hfirst] at hat
      exact iff_of_true rfl ⟨0, Nat.zero_le _, by simpa using hat⟩
    | none =>
      rw [hfirst] at hat
      simp only [ih]
      constructor
      · rintro ⟨k, hk, hsome⟩
        exact ⟨k + 1, by omega, by rwa [← Nat.add_assoc, Nat.add_right_comm]⟩
      · rintro ⟨k, hk, hsome⟩
        cases k with
        | zero => simp_all
        | succ k => exact ⟨k, by omega, by rwa [Nat.add_right_comm, Nat.add_assoc]⟩

/-- There is a first match exactly if there is an outcome anywhere. -/
theorem isSome_search : (p.search text).isSome ↔ ∃ i ≤ text.size, p.outcomesAt text i ≠ [] := by
  rw [search, isSome_searchFrom]
  simp only [Nat.zero_add]

theorem search_mem (h : p.search text = some m) :
    m.start ≤ text.size ∧ (m.stop, m.marks) ∈ p.outcomesAt text m.start := by
  obtain ⟨-, hto, hmem⟩ := searchFrom_mem h
  exact ⟨by omega, hmem⟩

theorem findFrom_mem (h : m ∈ p.findFrom text fuel i nonEmpty) :
    m.start ≤ text.size ∧ (m.stop, m.marks) ∈ p.outcomesAt text m.start := by
  induction fuel generalizing i nonEmpty with
  | zero => simp [findFrom] at h
  | succ fuel ih =>
    simp only [findFrom] at h
    split at h
    · simp at h
    · rename_i hi
      cases hfirst : p.searchFrom text nonEmpty (text.size - i) i with
      | none => simp [hfirst] at h
      | some found =>
        rw [hfirst] at h
        rcases List.mem_cons.mp h with rfl | hrest
        · obtain ⟨-, hto, hmem⟩ := searchFrom_mem hfirst
          exact ⟨by omega, hmem⟩
        · exact ih hrest

theorem findAll_eq_nil_iff : p.findAll text = [] ↔ p.search text = none := by
  simp only [findAll, findFrom, Nat.not_lt_zero, ↓reduceIte, Nat.sub_zero, search]
  cases p.searchFrom text false text.size 0 <;> simp

end Pattern

end CodeAudit.Regex

namespace CodeAudit.Rule.Matcher

open CodeAudit.Regex

variable {m : Matcher} {text : Array Char}

theorem mem_findAll (h : found ∈ m.findAll text) :
    found.start ≤ text.size ∧
      (found.stop, found.marks) ∈ m.pattern.outcomesAt text found.start := by
  unfold findAll at h
  split at h
  · exact Pattern.findFrom_mem h
  · exact Pattern.search_mem (Option.mem_toList.mp h)

theorem findAll_ne_nil_iff : m.findAll text ≠ [] ↔ (m.search text).isSome := by
  unfold findAll
  split
  · rw [ne_eq, Pattern.findAll_eq_nil_iff, ← ne_eq, Option.isSome_iff_ne_none]
    rfl
  · cases m.search text <;> simp

/-- A matcher misses a text if its pattern leads nowhere from any place in it. -/
def Misses (m : Matcher) (text : Array Char) : Prop :=
  ∀ i ≤ text.size, m.pattern.outcomesAt text i = []

theorem misses_iff : m.Misses text ↔ (m.search text).isSome = false := by
  rw [Misses, ← Bool.not_eq_true, search, Pattern.isSome_search]
  simp only [not_exists, not_and, ne_eq, not_not]

end CodeAudit.Rule.Matcher
