import CodeAudit.Proofs.Blocks
import CodeAudit.Proofs.Outcome
import CodeAudit.Rule.Build

/-!
# Repeating matchers

A matcher that repeats and one that stops after its first match never contradict each other: the
second one finds the first match of the first one (`raw_repeats`). All matches together are in
order, apart from each other and within the text, and no place is left out at which the pattern can
match (`Pattern.enumerates_findAll`), although an empty match is passed over directly behind an
empty one.
-/

namespace CodeAudit.Regex

/-- The matches of a pattern in a text from left to right. No two of them overlap, and no span is
there twice. Wherever the pattern can match, one of them starts or goes on. -/
structure Enumerates (p : Pattern) (text : Array Char) (found : List Match) : Prop where
  possible : ∀ m ∈ found, (m.stop, m.marks) ∈ p.outcomesAt text m.start
  within : ∀ m ∈ found, m.start ≤ m.stop ∧ m.stop ≤ text.size
  apart : found.Pairwise fun a b => a.stop ≤ b.start ∧ a.start < b.stop
  complete : ∀ k ≤ text.size, p.outcomesAt text k ≠ [] →
    ∃ m ∈ found, m.start = k ∨ m.start < k ∧ k < m.stop

namespace Pattern

variable {p : Pattern} {text : Array Char}

-- ---------------------------------------------------------------------------
-- One search
-- ---------------------------------------------------------------------------

theorem stop_le_size (h : o ∈ p.outcomesAt text i) (hi : i ≤ text.size) : o.1 ≤ text.size := by
  have hwithin : o.1 ≤ max i text.size := (begins_of_mem p.root h).within
  omega

theorem searchFrom_moves (h : p.searchFrom text true room i = some m) : i < m.stop := by
  have hmatch {m} (hat : p.matchAt text i true = some m) : i < m.stop := by
    rw [matchAt_eq, Option.map_eq_some_iff] at hat
    obtain ⟨o, ho, rfl⟩ := hat
    have hne : o.1 ≠ i := by simpa using List.find?_some ho
    have hle : i ≤ o.1 := le_of_outcomesAt (List.mem_of_find?_eq_some ho)
    exact Nat.lt_of_le_of_ne hle (Ne.symm hne)
  cases room with
  | zero => exact hmatch h
  | succ room =>
    rw [searchFrom] at h
    split at h
    · next hat =>
      obtain rfl := Option.some.inj h
      exact hmatch hat
    · obtain ⟨hfrom, -, hmem⟩ := searchFrom_mem h
      have hle := le_of_outcomesAt hmem
      omega

theorem outcomesAt_of_matchAt_eq_none (h : p.matchAt text i false = none) :
    p.outcomesAt text i = [] := by
  by_contra hne
  have hsome := isSome_matchAt.mpr hne
  rw [h] at hsome
  cases hsome

/-- A search passes over no place at which the pattern can match. Where it starts, an empty match
may be ruled out. -/
theorem outcomesAt_of_passed (hk : i ≤ k) (hstart : nonEmpty = true → i < k)
    (h : (p.searchFrom text nonEmpty room i = none ∧ k ≤ i + room) ∨
      ∃ m, p.searchFrom text nonEmpty room i = some m ∧ k < m.start) :
    p.outcomesAt text k = [] := by
  have hhere (hnone : p.matchAt text i nonEmpty = none) (heq : k = i) :
      p.outcomesAt text k = [] := by
    obtain rfl := heq
    have hfalse : nonEmpty = false := by
      cases nonEmpty with
      | false => rfl
      | true => exact absurd (hstart rfl) (Nat.lt_irrefl k)
    exact outcomesAt_of_matchAt_eq_none (hfalse ▸ hnone)
  induction room generalizing i nonEmpty with
  | zero =>
    obtain ⟨hnone, hroom⟩ | ⟨m, hsome, hlt⟩ := h
    · exact hhere hnone (by omega)
    · obtain ⟨hfrom, -⟩ := matchAt_mem hsome
      omega
  | succ room ih =>
    simp only [searchFrom] at h
    cases hat : p.matchAt text i nonEmpty with
    | some found =>
      obtain ⟨hfrom, -⟩ := matchAt_mem hat
      rw [hat] at h
      obtain ⟨hnone, -⟩ | ⟨m, hsome, hlt⟩ := h
      · cases hnone
      · obtain rfl := Option.some.inj hsome
        omega
    | none =>
      rw [hat] at h
      obtain rfl | hlt := Nat.eq_or_lt_of_le hk
      · exact hhere hat rfl
      · refine ih hlt (fun h => by cases h) (h.imp (And.imp_right fun hroom => by omega) id) ?_
        exact fun hnone heq => heq ▸ outcomesAt_of_matchAt_eq_none hnone

-- ---------------------------------------------------------------------------
-- All searches
-- ---------------------------------------------------------------------------

/-- No span is there twice: after an empty match the next one ends further right. -/
theorem pairwise_findFrom (fuel i : Nat) (nonEmpty : Bool) :
    (∀ m ∈ p.findFrom text fuel i nonEmpty, nonEmpty = true → i < m.stop) ∧
      (p.findFrom text fuel i nonEmpty).Pairwise fun a b => a.start < b.stop := by
  induction fuel generalizing i nonEmpty with
  | zero => simp [findFrom]
  | succ fuel ih =>
    simp only [findFrom]
    split
    · simp
    · cases hfirst : p.searchFrom text nonEmpty (text.size - i) i with
      | none => simp
      | some m =>
        obtain ⟨hfrom, -, hmem⟩ := searchFrom_mem hfirst
        have hto := le_of_outcomesAt hmem
        obtain ⟨hmoves, hpairwise⟩ := ih m.stop (m.stop == m.start)
        have hright : LeftToRight m.stop (p.findFrom text fuel m.stop (m.stop == m.start)) :=
          leftToRight_findFrom fuel m.stop (m.stop == m.start)
        have hordered := hright.ordered
        have hafter : ∀ b ∈ p.findFrom text fuel m.stop (m.stop == m.start), m.start < b.stop := by
          intro b hb
          obtain ⟨hstart, hstop⟩ := hordered b hb
          by_cases hempty : m.stop = m.start
          · have hlt := hmoves b hb (by simpa using hempty)
            omega
          · omega
        refine ⟨List.forall_mem_cons.mpr ⟨fun htrue => ?_, fun b hb _ => ?_⟩,
          List.pairwise_cons.mpr ⟨hafter, hpairwise⟩⟩
        · exact searchFrom_moves (htrue ▸ hfirst)
        · have := hafter b hb
          omega

def roundsLeft (text : Array Char) (i : Nat) (nonEmpty : Bool) : Nat :=
  2 * (text.size - i) + if nonEmpty then 1 else 2

/-- With enough rounds, no place at which the pattern can match is left out. -/
theorem complete_findFrom (hfuel : roundsLeft text i nonEmpty ≤ fuel) (hk : i ≤ k)
    (hstart : nonEmpty = true → i < k) (hsize : k ≤ text.size)
    (hsome : p.outcomesAt text k ≠ []) :
    ∃ m ∈ p.findFrom text fuel i nonEmpty, m.start = k ∨ m.start < k ∧ k < m.stop := by
  induction fuel generalizing i nonEmpty with
  | zero =>
    simp only [roundsLeft] at hfuel
    split at hfuel <;> omega
  | succ fuel ih =>
    simp only [findFrom]
    rw [if_neg (by omega)]
    cases hfirst : p.searchFrom text nonEmpty (text.size - i) i with
    | none => exact absurd (outcomesAt_of_passed hk hstart (.inl ⟨hfirst, by omega⟩)) hsome
    | some m =>
      obtain ⟨hfrom, hroom, hmem⟩ := searchFrom_mem hfirst
      have hto := le_of_outcomesAt hmem
      have hwithin := stop_le_size hmem (by omega)
      have hle : m.start ≤ k := by
        by_contra hlt
        exact hsome (outcomesAt_of_passed hk hstart (.inr ⟨m, hfirst, by omega⟩))
      by_cases hcovers : m.start = k ∨ m.start < k ∧ k < m.stop
      · exact ⟨m, List.mem_cons_self, hcovers⟩
      · -- The place lies behind this match, and a round has been used up.
        have hrounds : roundsLeft text m.stop (m.stop == m.start) ≤ fuel := by
          have hmoves : nonEmpty = true → i < m.stop := fun h => searchFrom_moves (h ▸ hfirst)
          simp only [roundsLeft, beq_iff_eq] at hfuel ⊢
          cases nonEmpty <;> simp at hfuel hmoves <;> split <;> omega
        obtain ⟨m', hm', hcovers'⟩ := ih hrounds (by omega)
          (fun hempty => by have := beq_iff_eq.mp hempty; omega)
        exact ⟨m', List.mem_cons_of_mem _ hm', hcovers'⟩

theorem enumerates_findAll (p : Pattern) (text : Array Char) :
    Enumerates p text (p.findAll text) where
  possible m hm := (findFrom_mem hm).2
  within m hm := by
    obtain ⟨hsize, hmem⟩ := findFrom_mem hm
    exact ⟨le_of_outcomesAt hmem, stop_le_size hmem hsize⟩
  apart := ((leftToRight_findFrom _ 0 false).apart.and (pairwise_findFrom _ 0 false).2)
  complete k hk hsome :=
    complete_findFrom (by simp [roundsLeft]) (Nat.zero_le k) (fun h => by cases h) hk hsome

theorem head?_findAll (p : Pattern) (text : Array Char) :
    (p.findAll text).head? = p.search text := by
  simp only [findAll, findFrom, Nat.not_lt_zero, ↓reduceIte, Nat.sub_zero, search]
  cases p.searchFrom text false text.size 0 <;> rfl

end Pattern

end CodeAudit.Regex

namespace CodeAudit.Rule

open CodeAudit.Regex

-- ---------------------------------------------------------------------------
-- Flag letters
-- ---------------------------------------------------------------------------

theorem addLetter_other (hc : c ≠ 'g') (flags : Flags) (repeats : Bool) :
    addLetter (flags, repeats) c = (addLetter (flags, false) c).map fun s => (s.1, repeats) := by
  fun_cases addLetter (flags, repeats) c with
  | case1 => exact absurd rfl hc
  | case6 hg hi hm hs hu => simp only [addLetter]; rfl
  | _ => rfl

theorem foldlM_addLetter (cs : List Char) (flags : Flags) (repeats : Bool) :
    cs.foldlM addLetter (flags, repeats) =
      ((cs.filter (· != 'g')).foldlM addLetter (flags, false)).map
        fun s => (s.1, repeats || cs.contains 'g') := by
  induction cs generalizing flags repeats with
  | nil => simp [Except.map, pure, Except.pure]
  | cons c cs ih =>
    by_cases hc : c = 'g'
    · subst hc
      simp [addLetter, ok_bind, ih]
    · have hother : ('g' == c) = false := by simpa using Ne.symm hc
      rw [List.foldlM_cons, addLetter_other hc, List.filter_cons_of_pos (by simpa using hc),
        List.foldlM_cons, addLetter_other hc flags false, List.contains_cons, hother,
        Bool.false_or]
      cases addLetter (flags, false) c with
      | error e => rfl
      | ok s => exact ih s.1 repeats

/-- Some flag letters with the letter to repeat among them, wherever it stands and however often. -/
structure Repeated (letters repeated : String) : Prop where
  others : repeated.toList.filter (· != 'g') = letters.toList
  mem : 'g' ∈ repeated.toList

theorem parseFlags_repeated (hletters : 'g' ∉ letters.toList) (h : Repeated letters repeated) :
    ∃ outcome : Except Char Flags, parseFlags letters = outcome.map (·, false) ∧
      parseFlags repeated = outcome.map (·, true) := by
  have hsame : letters.toList.filter (· != 'g') = letters.toList :=
    List.filter_eq_self.mpr fun c hc => by
      simpa using fun heq : c = 'g' => hletters (heq ▸ hc)
  have hnone : letters.toList.contains 'g' = false := by simpa using hletters
  have hsome : repeated.toList.contains 'g' = true := by simpa using h.mem
  refine ⟨(letters.toList.foldlM addLetter ({}, false)).map (·.1), ?_, ?_⟩
  · rw [parseFlags, foldlM_addLetter, hsame, hnone]
    cases letters.toList.foldlM addLetter ({}, false) <;> rfl
  · rw [parseFlags, foldlM_addLetter, h.others, hsome]
    cases letters.toList.foldlM addLetter ({}, false) <;> rfl

-- ---------------------------------------------------------------------------
-- Stopping after the first match
-- ---------------------------------------------------------------------------

/-- What a matcher that stops after its first match and one that repeats say of a text. -/
structure OnceAndAll (once all : Matcher) (text : Array Char) : Prop where
  first : once.findAll text = (all.findAll text).take 1
  search : once.search text = all.search text
  head : all.search text = (all.findAll text).head?
  none_iff : all.count text = 0 ↔ all.search text = none
  count : once.count text = min 1 (all.count text)
  enumerates : Enumerates all.pattern text (all.findAll text)

theorem onceAndAll (p : Pattern) (text : Array Char) :
    OnceAndAll { pattern := p, repeats := false } { pattern := p, repeats := true } text := by
  have hhead : (p.findAll text).head? = p.search text := p.head?_findAll text
  have hfirst : (p.search text).toList = (p.findAll text).take 1 := by
    rw [← hhead]
    cases p.findAll text <;> rfl
  refine ⟨hfirst, rfl, hhead.symm, ?_, ?_, p.enumerates_findAll text⟩
  · exact List.length_eq_zero_iff.trans Pattern.findAll_eq_nil_iff
  · show (p.search text).toList.length = min 1 (p.findAll text).length
    rw [hfirst, List.length_take]

/-- A pattern is read with the letter to repeat as it is read without it. Both matchers then have
the same first match, and the one that repeats finds all of them. -/
theorem raw_repeats (hletters : 'g' ∉ letters.toList) (hrepeated : Repeated letters repeated)
    (hmatchers : (Spec.raw source letters).matchers = .ok matchers) :
    ∃ once all, matchers = [once] ∧ (Spec.raw source repeated).matchers = .ok [all] ∧
      ∀ text, OnceAndAll once all text := by
  obtain ⟨outcome, hflags, hflags'⟩ := parseFlags_repeated hletters hrepeated
  cases outcome with
  | error letter => simp [Spec.matchers, Spec.recipes, hflags, Except.map, error_bind] at hmatchers
  | ok flags =>
    cases hcompile : Regex.compile source flags with
    | error e =>
      simp [Spec.matchers, Spec.recipes, hflags, Except.map, ok_bind, Recipe.matcher,
        hcompile] at hmatchers
    | ok p =>
      have hraw {letters repeats} (hflags : parseFlags letters = .ok (flags, repeats)) :
          (Spec.raw source letters).matchers = .ok [{ pattern := p, repeats }] := by
        simp only [Spec.matchers, Spec.recipes, hflags, ok_bind]
        refine mapM_eq_ok.mpr (.cons ?_ .nil)
        simp only [Recipe.matcher, hcompile]
      obtain rfl := Except.ok.inj (hmatchers.symm.trans (hraw hflags))
      exact ⟨_, _, rfl, hraw hflags', onceAndAll p⟩

/-- An empty match may stand directly behind one that is not empty, but not behind an empty one. -/
theorem raw_repeats_empty : 'g' ∉ "i".toList ∧ Repeated "i" "gi" ∧
    ∃ matchers, (Spec.raw "a*" "i").matchers = .ok matchers ∧
      ∃ once all, matchers = [once] ∧ (Spec.raw "a*" "gi").matchers = .ok [all] ∧
        ∀ text, OnceAndAll once all text := by
  have hletters : 'g' ∉ "i".toList := by decide
  have hrepeated : Repeated "i" "gi" := ⟨by decide, by decide⟩
  obtain ⟨matchers, hmatchers⟩ := toBool_eq_true.mp
    (show (Spec.raw "a*" "i").matchers.toBool = true by decide +kernel)
  exact ⟨hletters, hrepeated, matchers, hmatchers, raw_repeats hletters hrepeated hmatchers⟩

end CodeAudit.Rule
