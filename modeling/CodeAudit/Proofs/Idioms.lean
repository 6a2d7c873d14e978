import CodeAudit.Advice.Idiom
import CodeAudit.Proofs.Outcome
import CodeAudit.Proofs.Places
import CodeAudit.Rule.Recognizer
import Mathlib.Data.List.Perm.Basic

/-!
# Idioms that are recognised

An idiom is reported exactly if one of its matchers matches. The report lists the first places where
they match and rates how many lines there are. The list is cut off behind the number from which
on the rating is the highest, so it can be read off the list as well; and since a number of lines
does not depend on the order of matchers, neither does the rating (`detectIdioms_exact`).
-/

namespace CodeAudit.Advice

open CodeAudit.Rule (pattern)
open CodeAudit.Source (Buffer)

variable {code : String} {rule rule' : IdiomRule}

-- ---------------------------------------------------------------------------
-- Confidence
-- ---------------------------------------------------------------------------

structure Rates (confidence : String) (lines : Nat) : Prop where
  high : confidence = "high" ↔ 3 ≤ lines
  medium : confidence = "medium" ↔ lines = 2
  low : confidence = "low" ↔ lines = 1

theorem rates_confidenceFor (h : 1 ≤ lines) : Rates (confidenceFor lines) lines := by
  unfold confidenceFor
  by_cases hthree : 3 ≤ lines
  · constructor <;> simp [hthree] <;> omega
  · by_cases htwo : lines = 2
    · constructor <;> simp [htwo]
    · have hone : lines = 1 := by omega
      constructor <;> simp [hone]

theorem Rates.min (h : Rates confidence lines) (hcap : 3 ≤ cap) :
    Rates confidence (min cap lines) where
  high := by rw [h.high]; omega
  medium := by rw [h.medium]; omega
  low := by rw [h.low]; omega

-- ---------------------------------------------------------------------------
-- Rules
-- ---------------------------------------------------------------------------

namespace IdiomRule

/-- Where the matchers of a rule match in a code, matcher by matcher and match by match. -/
def places (rule : IdiomRule) (code : String) : List Location :=
  rule.matchers.flatMap (Location.ofMatcher code)

def lineCount (rule : IdiomRule) (code : String) : Nat :=
  ((rule.places code).map (·.line)).toFinset.card

theorem places_ofOneCode (rule : IdiomRule) (code : String) :
    Location.OfOneCode (rule.places code) := by
  refine .of_offsets code fun place hplace => ?_
  obtain ⟨matcher, -, hplace⟩ := List.mem_flatMap.mp hplace
  obtain ⟨m, -, rfl⟩ := List.mem_map.mp hplace
  exact ⟨m.start, rfl⟩

theorem locations_eq (rule : IdiomRule) (code : String) :
    rule.locations (Buffer.ofString code) = Location.distinct (rule.places code) := by
  simp only [locations, places, Location.ofMatcher_eq]

theorem places_eq_nil_iff :
    rule.places code = [] ↔ rule.matchers.any (showsIn (Buffer.ofString code)) = false := by
  simp only [places, List.flatMap_eq_nil_iff, List.any_eq_false, ← Location.ofMatcher_ne_nil_iff,
    ne_eq, not_not]

theorem lineCount_pos_iff : 1 ≤ rule.lineCount code ↔ rule.places code ≠ [] := by
  rw [lineCount, Nat.one_le_iff_ne_zero, ne_eq, Finset.card_eq_zero, List.toFinset_eq_empty_iff,
    List.map_eq_nil_iff]

def Reordered (rule rule' : IdiomRule) : Prop :=
  ∃ matchers, matchers.Perm rule.matchers ∧ rule' = { rule with matchers }

theorem Reordered.lineCount (h : rule.Reordered rule') (code : String) :
    rule'.lineCount code = rule.lineCount code := by
  obtain ⟨matchers, hperm, rfl⟩ := h
  have hplaces : (places { rule with matchers } code).Perm (rule.places code) :=
    hperm.flatMap_right _
  rw [IdiomRule.lineCount, List.toFinset_eq_of_perm _ _ (hplaces.map _), IdiomRule.lineCount]

end IdiomRule

-- ---------------------------------------------------------------------------
-- Reports
-- ---------------------------------------------------------------------------

/-- What is reported of an idiom in a code: what its rule says of it, the first five of the places
where its matchers match, on five lines, and a confidence that rates the number of all lines as well
as the number of those that are listed. -/
structure Recognised (code : String) (rule : IdiomRule) (d : DetectedIdiom) : Prop where
  id : d.id = rule.id
  name : d.name = rule.name
  level : d.level = rule.level
  description : d.description = rule.description
  locations : d.locations = (rule.places code).eraseDups.take 5
  apart : (d.locations.map (·.line)).Nodup
  confidence : Rates d.confidence (rule.lineCount code)
  listed : Rates d.confidence d.locations.length

theorem detect?_eq (rule : IdiomRule) (code : String) :
    rule.detect? (Buffer.ofString code) =
      if rule.places code = [] then none
      else some {
        id := rule.id, name := rule.name, level := rule.level
        confidence := confidenceFor (rule.lineCount code), description := rule.description
        locations := (rule.places code).eraseDups.take 5 } := by
  have hone := rule.places_ofOneCode code
  rw [IdiomRule.detect?, rule.locations_eq code]
  split
  · next hnone => rw [if_pos ((Location.distinct_eq_nil_iff hone).mp hnone)]
  · next hsome =>
    rw [if_neg (mt (Location.distinct_eq_nil_iff hone).mpr hsome), Location.length_distinct hone,
      Location.distinct_eq hone]
    rfl

theorem detect?_recognised (h : rule.places code ≠ []) :
    ∃ d, rule.detect? (Buffer.ofString code) = some d ∧ Recognised code rule d := by
  have hone := rule.places_ofOneCode code
  have hrates := rates_confidenceFor (IdiomRule.lineCount_pos_iff.mpr h)
  have hlength : ((rule.places code).eraseDups.take 5).length = min 5 (rule.lineCount code) := by
    rw [List.length_take, ← Location.distinct_eq hone, Location.length_distinct hone]
    rfl
  rw [detect?_eq, if_neg h]
  refine ⟨_, rfl, rfl, rfl, rfl, rfl, rfl, ?_, hrates, ?_⟩
  · rw [← Location.distinct_eq hone]
    exact Location.nodup_take_distinct 5 _
  · simp only [hlength]
    exact hrates.min (by decide)

theorem detect?_reordered (h : rule.Reordered rule') (code : String) :
    (rule'.detect? (Buffer.ofString code)).map ({ · with locations := [] }) =
      (rule.detect? (Buffer.ofString code)).map ({ · with locations := [] }) := by
  have hcount := h.lineCount code
  have hplaces : rule'.places code = [] ↔ rule.places code = [] := by
    rw [← not_iff_not, ← ne_eq, ← ne_eq, ← IdiomRule.lineCount_pos_iff,
      ← IdiomRule.lineCount_pos_iff, hcount]
  obtain ⟨matchers, -, rfl⟩ := h
  simp only [detect?_eq, hplaces, hcount]
  split <;> rfl

/-- The report on the idioms of a code has one entry for each rule with a matcher that matches, in
the order of the table, and the entry is as it should be. If the matchers of the rules are put in
another order, the same rules have entries, and these differ in their lists of places only. -/
theorem detectIdioms_exact (rules : List IdiomRule) (code : String) :
    let buffer := Buffer.ofString code
    List.Forall₂ (Recognised code) (rules.filter (·.matchers.any (showsIn buffer)))
      (detectIdioms rules buffer) ∧
    ∀ rules', List.Forall₂ IdiomRule.Reordered rules rules' →
      (detectIdioms rules' buffer).map ({ · with locations := [] }) =
        (detectIdioms rules buffer).map ({ · with locations := [] }) := by
  intro buffer
  refine ⟨forall₂_filterMap (fun rule _ hdue => ?_) fun rule _ hnot => ?_, fun rules' h => ?_⟩
  · refine detect?_recognised fun hnone => ?_
    rw [IdiomRule.places_eq_nil_iff.mp hnone] at hdue
    cases hdue
  · rw [detect?_eq, if_pos (IdiomRule.places_eq_nil_iff.mpr hnot)]
  · simp only [detectIdioms, List.map_filterMap]
    induction h with
    | nil => rfl
    | cons hrule _ ih =>
      rw [List.filterMap_cons, List.filterMap_cons, detect?_reordered hrule code, ih]

theorem detectIdioms_exact_swapped :
    let rule : IdiomRule :=
      { id := "X-1", name := "Names", level := "design", matchers := [pattern "foo", pattern "bar"] }
    let rule' := { rule with matchers := [pattern "bar", pattern "foo"] }
    let buffer := Buffer.ofString "bar\n foo\n"
    rule.Reordered rule' ∧
      (detectIdioms [rule] buffer).map (·.locations) = [[⟨2, "foo"⟩, ⟨1, "bar"⟩]] ∧
      (detectIdioms [rule'] buffer).map (·.locations) = [[⟨1, "bar"⟩, ⟨2, "foo"⟩]] ∧
      (detectIdioms [rule'] buffer).map ({ · with locations := [] }) =
        (detectIdioms [rule] buffer).map ({ · with locations := [] }) := by
  intro rule rule' buffer
  have hswapped : rule.Reordered rule' := ⟨_, .swap _ _ _, rfl⟩
  exact ⟨hswapped, by decide +kernel, by decide +kernel,
    (detectIdioms_exact [rule] "bar\n foo\n").2 [rule'] (.cons hswapped .nil)⟩

end CodeAudit.Advice
