import CodeAudit.Advice.Concern
import CodeAudit.Proofs.Outcome
import CodeAudit.Proofs.Places

/-!
# Inconsistencies that are found

A concern is reported exactly if two of its variants are used, with the variants that are used in
the order in which they are listed (`detectInconsistencies_exact`). What the report recommends is
described without the search for it, as the place where the list of variants falls apart into those
that are used less and those that are used no more (`MostUsed`); there is only one such place.
-/

namespace CodeAudit.Advice

open CodeAudit.Source (Buffer)

variable {code : String} {variants : List VariantUsage}

-- ---------------------------------------------------------------------------
-- The most used variant
-- ---------------------------------------------------------------------------

/-- A list of variants taken apart at the one that is used most; of equally used ones, it is the
first. -/
structure MostUsed (variants before : List VariantUsage) (v : VariantUsage)
    (after : List VariantUsage) : Prop where
  split : variants = before ++ v :: after
  above : ∀ u ∈ before, u.count < v.count
  notBelow : ∀ u ∈ after, u.count ≤ v.count

theorem MostUsed.le_of_eq_append (h : MostUsed variants before v after)
    (h' : MostUsed variants before' v' after') (heq : v :: after = middle ++ v' :: after')
    (hbefore : before' = before ++ middle) : v = v' := by
  cases middle with
  | nil => exact (List.cons.inj heq).1
  | cons u middle =>
    obtain ⟨rfl, hafter⟩ := List.cons.inj heq
    have hlt : v.count < v'.count := h'.above v (by simp [hbefore])
    have hle : v'.count ≤ v.count := h.notBelow v' (by simp [hafter])
    omega

theorem MostUsed.unique (h : MostUsed variants before v after)
    (h' : MostUsed variants before' v' after') : v = v' := by
  obtain ⟨middle, hbefore, heq⟩ | ⟨middle, hbefore, heq⟩ :=
    List.append_eq_append_iff.mp (h.split.symm.trans h'.split)
  · exact h.le_of_eq_append h' heq hbefore
  · exact (h'.le_of_eq_append h heq hbefore).symm

theorem mostUsedFrom_cases (best : VariantUsage) (rest : List VariantUsage) :
    (mostUsedFrom best rest = best ∧ ∀ u ∈ rest, u.count ≤ best.count) ∨
    ∃ before after, MostUsed rest before (mostUsedFrom best rest) after ∧
      best.count < (mostUsedFrom best rest).count := by
  induction rest generalizing best with
  | nil => exact .inl ⟨rfl, by simp⟩
  | cons v rest ih =>
    rw [mostUsedFrom]
    split
    · next hmore =>
      refine .inr ?_
      obtain ⟨heq, hrest⟩ | ⟨before, after, h, hlt⟩ := ih v
      · rw [heq]
        exact ⟨[], rest, ⟨rfl, by simp, hrest⟩, hmore⟩
      · refine ⟨v :: before, after, ⟨congrArg (v :: ·) h.split, ?_, h.notBelow⟩, by omega⟩
        exact List.forall_mem_cons.mpr ⟨hlt, h.above⟩
    · next hmore =>
      obtain ⟨heq, hrest⟩ | ⟨before, after, h, hlt⟩ := ih best
      · exact .inl ⟨heq, List.forall_mem_cons.mpr ⟨by omega, hrest⟩⟩
      · refine .inr ⟨v :: before, after, ⟨congrArg (v :: ·) h.split, ?_, h.notBelow⟩, hlt⟩
        exact List.forall_mem_cons.mpr ⟨by omega, h.above⟩

theorem exists_mostUsed (best : VariantUsage) (rest : List VariantUsage) :
    ∃ before after, MostUsed (best :: rest) before (mostUsedFrom best rest) after := by
  obtain ⟨heq, hrest⟩ | ⟨before, after, h, hlt⟩ := mostUsedFrom_cases best rest
  · rw [heq]
    exact ⟨[], rest, rfl, by simp, hrest⟩
  · exact ⟨best :: before, after, congrArg (best :: ·) h.split,
      List.forall_mem_cons.mpr ⟨hlt, h.above⟩, h.notBelow⟩

theorem mostUsed?_eq_some (h : MostUsed variants before v after) : mostUsed? variants = some v := by
  obtain ⟨best, rest, rfl⟩ : ∃ best rest, variants = best :: rest :=
    List.exists_cons_of_ne_nil (by simp [h.split])
  obtain ⟨before', after', h'⟩ := exists_mostUsed best rest
  rw [mostUsed?, h'.unique h]

-- ---------------------------------------------------------------------------
-- Variants
-- ---------------------------------------------------------------------------

/-- What is told of a variant that is used in a code: how often it matches, and the first three of
the places where it does, on different lines. -/
structure Used (code : String) (v : Variant) (u : VariantUsage) : Prop where
  name : u.name = v.name
  count : u.count = v.matcher.count (Buffer.ofString code).text
  locations : u.locations = (Location.ofMatcher code v.matcher).eraseDups.take 3
  some : 1 ≤ u.locations.length
  few : (u.locations.length : Int) ≤ min 3 u.count
  apart : (u.locations.map (·.line)).Nodup

theorem usage?_eq (v : Variant) (code : String) :
    v.usage? (Buffer.ofString code) =
      if Location.ofMatcher code v.matcher = [] then none
      else some {
        name := v.name, count := v.matcher.count (Buffer.ofString code).text
        locations := (Location.ofMatcher code v.matcher).eraseDups.take 3 } := by
  rw [Variant.usage?]
  split
  · next hnone => rw [if_pos (by simp [Location.ofMatcher, hnone])]
  · next hsome =>
    rw [if_neg (by simpa [Location.ofMatcher] using hsome), Location.ofMatcher_eq,
      Location.distinct_eq (.ofMatcher code v.matcher)]
    rfl

theorem usage?_used {v : Variant} (h : showsIn (Buffer.ofString code) v.matcher = true) :
    ∃ u, v.usage? (Buffer.ofString code) = some u ∧ Used code v u := by
  have hone := Location.OfOneCode.ofMatcher code v.matcher
  have hne := Location.ofMatcher_ne_nil_iff.mpr h
  have hsome := mt (Location.distinct_eq_nil_iff hone).mp hne
  have hfew : (Location.distinct (Location.ofMatcher code v.matcher)).length ≤
      v.matcher.count (Buffer.ofString code).text := by
    rw [Location.length_distinct hone]
    exact (List.toFinset_card_le _).trans (by simp [Location.ofMatcher, Rule.Matcher.count])
  rw [usage?_eq, if_neg hne, ← Location.distinct_eq hone]
  refine ⟨_, rfl, rfl, rfl, by rw [Location.distinct_eq hone], ?_, ?_,
    Location.nodup_take_distinct 3 _⟩
  · have := List.length_pos_of_ne_nil hsome
    simp only [List.length_take]
    omega
  · simp only [List.length_take]
    omega

-- ---------------------------------------------------------------------------
-- Concerns
-- ---------------------------------------------------------------------------

namespace Concern

variable {concern : Concern}

def usedIn (concern : Concern) (code : String) : List Variant :=
  concern.variants.filter (showsIn (Buffer.ofString code) ·.matcher)

theorem forall₂_used (concern : Concern) (code : String) :
    List.Forall₂ (Used code) (concern.usedIn code)
      (concern.variants.filterMap (Variant.usage? (Buffer.ofString code))) :=
  forall₂_filterMap (fun _ _ hshows => usage?_used hshows) fun v _ hnot => by
    rw [usage?_eq, if_pos]
    rw [← not_not (a := Location.ofMatcher _ _ = []), ← ne_eq, Location.ofMatcher_ne_nil_iff]
    simp [hnot]

end Concern

/-- What is reported of a concern in a code: its variants that are used, as listed, a severity for
their number, and the most used of them as the one to keep to. -/
structure Reported (code : String) (concern : Concern) (f : Inconsistency) : Prop where
  id : f.id = concern.id
  title : f.title = concern.title
  level : f.level = concern.level
  description : f.description =
    "Found " ++ toString (concern.usedIn code).length ++ " different approaches being used"
  variants : List.Forall₂ (Used code) (concern.usedIn code) f.variants
  severity : f.severity = if 3 ≤ (concern.usedIn code).length then "medium" else "low"
  recommended : ∃ before v after, MostUsed f.variants before v after ∧ f.recommended = v.name ∧
    f.recommendation = "Standardize on " ++ inQuotes v.name ++ ", the most used approach here (" ++
      toString v.count ++ " instance(s)). " ++ concern.guidance

theorem detect?_reported {concern : Concern} (h : 2 ≤ (concern.usedIn code).length) :
    ∃ f, concern.detect? (Buffer.ofString code) = some f ∧ Reported code concern f := by
  have hused := concern.forall₂_used code
  have hlength := hused.length_eq
  rw [Concern.detect?]
  split
  · next first second rest hcons =>
    rw [hcons] at hused hlength
    obtain ⟨before, after, hmost⟩ := exists_mostUsed first (second :: rest)
    exact ⟨_, rfl, rfl, rfl, rfl, by rw [hlength], hused, by rw [hlength],
      before, _, after, hmost, rfl, rfl⟩
  · next hnot =>
    -- A list that is no shorter has a second entry.
    generalize concern.variants.filterMap _ = used at hnot hlength
    match used with
    | [] | [_] =>
      simp only [List.length_cons, List.length_nil] at hlength
      omega
    | first :: second :: rest => exact absurd rfl (hnot first second rest)

theorem detect?_eq_none {concern : Concern} (h : ¬ 2 ≤ (concern.usedIn code).length) :
    concern.detect? (Buffer.ofString code) = none := by
  have hlength := (concern.forall₂_used code).length_eq
  rw [Concern.detect?]
  split
  · next hcons =>
    rw [hcons, List.length_cons, List.length_cons] at hlength
    omega
  · rfl

theorem exists_reported {concerns : List Concern}
    (h : f ∈ detectInconsistencies concerns (Buffer.ofString code)) :
    ∃ concern ∈ concerns, Reported code concern f := by
  obtain ⟨concern, hconcern, hf⟩ := List.mem_filterMap.mp h
  by_cases hdue : 2 ≤ (concern.usedIn code).length
  · obtain ⟨f', hf', hreported⟩ := detect?_reported hdue
    obtain rfl : f' = f := Option.some.inj (hf'.symm.trans hf)
    exact ⟨concern, hconcern, hreported⟩
  · rw [detect?_eq_none hdue] at hf
    cases hf

/-- The report on the inconsistencies of a code has one entry for each concern of which at least two
variants match, in the order of the table, and the entry is as it should be. -/
theorem detectInconsistencies_exact (concerns : List Concern) (code : String) :
    List.Forall₂ (Reported code) (concerns.filter fun c => 2 ≤ (c.usedIn code).length)
      (detectInconsistencies concerns (Buffer.ofString code)) :=
  forall₂_filterMap (fun _ _ hdue => detect?_reported (of_decide_eq_true hdue)) fun _ _ hnot =>
    detect?_eq_none (of_decide_eq_false hnot)

end CodeAudit.Advice
