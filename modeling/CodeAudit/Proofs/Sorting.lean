import Mathlib.Data.List.Basic
import Mathlib.Order.Lattice

/-!
# Stable sorting

Sorting by keys and leaving entries out can be done in either order (`filter_mergeSort`), so entries
with one key keep their order (`filter_mergeSort_of_same`). A sorted list is made of the parts of
the single keys, one after the other (`mergeSort_eq_flatMap`).
-/

namespace CodeAudit

-- ---------------------------------------------------------------------------
-- Parts of lists
-- ---------------------------------------------------------------------------

/-- A list falls in only one way into a part that is below a mark and a part that is not. -/
theorem split_unique {below : α → Bool} {k l m n : List α} (h : k ++ l = m ++ n)
    (hk : ∀ b ∈ k, below b) (hl : ∀ b ∈ l, ¬ below b)
    (hm : ∀ b ∈ m, below b) (hn : ∀ b ∈ n, ¬ below b) : k = m ∧ l = n := by
  have hleft : k = m := by
    have hfilter := congrArg (List.filter below) h
    simpa [List.filter_append, List.filter_eq_self.mpr hk, List.filter_eq_self.mpr hm,
      List.filter_eq_nil_iff.mpr hl, List.filter_eq_nil_iff.mpr hn] using hfilter
  subst hleft
  exact ⟨rfl, List.append_cancel_left h⟩

theorem filter_append_filter_not {p : α → Bool} {l : List α}
    (h : l.Pairwise fun a b => p b = true → p a = true) :
    l.filter p ++ l.filter (fun a => !p a) = l := by
  induction l with
  | nil => rfl
  | cons a l ih =>
    obtain ⟨ha, hl⟩ := List.pairwise_cons.mp h
    cases hp : p a with
    | true => simpa [hp] using ih hl
    | false =>
      have hnone : ∀ b ∈ l, p b = false := fun b hb =>
        Bool.eq_false_iff.mpr fun hpb => by simp [ha b hb hpb] at hp
      have hfront : l.filter p = [] := List.filter_eq_nil_iff.mpr (by simpa using hnone)
      have hback : l.filter (fun b => !p b) = l := List.filter_eq_self.mpr (by simpa using hnone)
      simp [hp, hfront, hback]

section

variable [LinearOrder β] (key : α → β)

theorem key_trans (a b c : α) (hab : decide (key a ≤ key b)) (hbc : decide (key b ≤ key c)) :
    decide (key a ≤ key c) :=
  decide_eq_true ((of_decide_eq_true hab).trans (of_decide_eq_true hbc))

theorem key_total (a b : α) : decide (key a ≤ key b) || decide (key b ≤ key a) := by
  simpa using le_total (key a) (key b)

-- ---------------------------------------------------------------------------
-- Sorting and leaving out
-- ---------------------------------------------------------------------------

theorem pairwise_mergeSort (l : List α) :
    (l.mergeSort fun a b => decide (key a ≤ key b)).Pairwise fun a b => key a ≤ key b :=
  (List.pairwise_mergeSort (key_trans key) (key_total key) l).imp of_decide_eq_true

theorem mergeSort_cons_split (a : α) (l : List α) :
    ∃ k m, ((a :: l).mergeSort fun b c => decide (key b ≤ key c)) = k ++ a :: m ∧
      (l.mergeSort fun b c => decide (key b ≤ key c)) = k ++ m ∧
      (∀ b ∈ k, !decide (key a ≤ key b)) ∧ ∀ b ∈ m, ¬ !decide (key a ≤ key b) := by
  obtain ⟨k, m, hcons, hrest, hbelow⟩ := List.mergeSort_cons (key_trans key) (key_total key) a l
  refine ⟨k, m, hcons, hrest, hbelow, ?_⟩
  have hsorted := pairwise_mergeSort key (a :: l)
  rw [hcons, List.pairwise_append] at hsorted
  intro b hb
  simp [List.rel_of_pairwise_cons hsorted.2.1 hb]

theorem filter_mergeSort (p : α → Bool) (l : List α) :
    (l.mergeSort fun a b => decide (key a ≤ key b)).filter p =
      (l.filter p).mergeSort fun a b => decide (key a ≤ key b) := by
  induction l with
  | nil => simp
  | cons a l ih =>
    obtain ⟨k, m, hcons, hrest, hk, hm⟩ := mergeSort_cons_split key a l
    rw [hrest, List.filter_append] at ih
    rw [hcons, List.filter_append]
    cases hp : p a with
    | false => simpa [List.filter_cons, hp] using ih
    | true =>
      obtain ⟨k', m', hcons', hrest', hk', hm'⟩ := mergeSort_cons_split key a (l.filter p)
      -- `a` stands behind exactly those that are below it, in the whole list and in its part.
      obtain ⟨rfl, rfl⟩ := split_unique (ih.trans hrest')
        (fun b hb => hk b (List.mem_filter.mp hb).1) (fun b hb => hm b (List.mem_filter.mp hb).1)
        hk' hm'
      simp only [List.filter_cons, hp, ↓reduceIte, hcons']

theorem filter_mergeSort_of_same {p : α → Bool} {l : List α}
    (h : ∀ a b, p a = true → p b = true → key a = key b) :
    (l.mergeSort fun a b => decide (key a ≤ key b)).filter p = l.filter p := by
  rw [filter_mergeSort]
  refine List.mergeSort_of_pairwise (List.pairwise_of_forall_mem_list fun a ha b hb => ?_)
  rw [h a b (List.mem_filter.mp ha).2 (List.mem_filter.mp hb).2]
  simp

-- ---------------------------------------------------------------------------
-- The parts of the keys
-- ---------------------------------------------------------------------------

variable {keys : List β} {l : List α}

theorem flatMap_filter_of_pairwise (hkeys : keys.Pairwise (· < ·)) (hmem : ∀ x ∈ l, key x ∈ keys)
    (hl : l.Pairwise fun a b => key a ≤ key b) :
    (keys.flatMap fun k => l.filter (key · == k)) = l := by
  induction keys generalizing l with
  | nil => simp [List.eq_nil_iff_forall_not_mem.mpr fun x hx => absurd (hmem x hx) (by simp)]
  | cons k keys ih =>
    obtain ⟨hk, hkeys⟩ := List.pairwise_cons.mp hkeys
    have hleast : ∀ x ∈ l, k ≤ key x := fun x hx => by
      rcases List.mem_cons.mp (hmem x hx) with heq | hx
      · exact heq.ge
      · exact (hk _ hx).le
    have hsplit : l.filter (key · == k) ++ l.filter (fun x => !key x == k) = l := by
      refine filter_append_filter_not (hl.imp_of_mem fun {a b} ha _ hab hb => ?_)
      rw [beq_iff_eq] at hb ⊢
      exact le_antisymm (hab.trans hb.le) (hleast a ha)
    have hrest : (keys.flatMap fun j => (l.filter fun x => !key x == k).filter (key · == j)) =
        l.filter fun x => !key x == k := by
      refine ih hkeys (fun x hx => ?_) (hl.filter _)
      obtain ⟨hx, hne⟩ := List.mem_filter.mp hx
      exact (List.mem_cons.mp (hmem x hx)).resolve_left (by simpa using hne)
    have hsame : ∀ j ∈ keys, (l.filter fun x => !key x == k).filter (key · == j) =
        l.filter (key · == j) := by
      intro j hj
      rw [List.filter_filter]
      refine List.filter_congr fun x _ => ?_
      by_cases hx : key x = j
      · simp [hx, (hk j hj).ne']
      · simp [hx]
    rw [List.flatMap_cons, ← List.flatMap_congr hsame, hrest, hsplit]

/-- Sorting puts the parts of the single keys one after the other, each in its order. -/
theorem mergeSort_eq_flatMap (hkeys : keys.Pairwise (· < ·))
    (hmem : ∀ x ∈ l, key x ∈ keys) :
    (l.mergeSort fun a b => decide (key a ≤ key b)) =
      keys.flatMap fun k => l.filter (key · == k) := by
  rw [← flatMap_filter_of_pairwise key hkeys (fun x hx => hmem x (List.mem_mergeSort.mp hx))
    (pairwise_mergeSort key l)]
  refine List.flatMap_congr fun k _ => filter_mergeSort_of_same key fun a b ha hb => ?_
  rw [beq_iff_eq.mp ha, beq_iff_eq.mp hb]

end

end CodeAudit
