import CodeAudit.Advice.Analysis
import CodeAudit.Proofs.Actions
import CodeAudit.Proofs.Outcome
import CodeAudit.Proofs.Regrouping
import CodeAudit.Proofs.Sorting
import Mathlib.Data.Int.Order.Basic

/-!
# Advice by level

Asking for one level leaves out the entries of the other levels before the action items are made
and ordered. An action item does not carry the level of the entry it is made from, so the items are
followed here together with those levels: `exists_leveled` gives one ordered list of items with
levels, from which the items of every choice of levels are read off. `analyzeIdioms_levels` says
what the reports on the three levels have to do with the report on all of them.
-/

namespace CodeAudit.Advice

open CodeAudit.Source (Buffer)

-- ---------------------------------------------------------------------------
-- Entries
-- ---------------------------------------------------------------------------

theorem detect?_level {rule : IdiomRule} (h : rule.detect? buffer = some d) :
    d.level = rule.level := by
  unfold IdiomRule.detect? at h
  split at h
  · cases h
  · cases h
    rfl

theorem detectIdioms_level (hrules : ∀ rule ∈ rules, rule.level ∈ levels)
    (hd : d ∈ detectIdioms rules buffer) : d.level ∈ levels := by
  obtain ⟨rule, hrule, h⟩ := List.mem_filterMap.mp hd
  rw [detect?_level h]
  exact hrules rule hrule

theorem Concern.detect?_some {concern : Concern} (h : concern.detect? buffer = some f) :
    f.level = concern.level ∧ f.variants ≠ [] := by
  unfold Concern.detect? at h
  split at h
  · cases h
    exact ⟨rfl, List.cons_ne_nil _ _⟩
  · cases h

theorem detectInconsistencies_sound (hconcerns : ∀ concern ∈ concerns, concern.level ∈ levels)
    (hf : f ∈ detectInconsistencies concerns buffer) :
    f.level ∈ levels ∧ ∃ item, f.action = .ok item := by
  obtain ⟨concern, hconcern, h⟩ := List.mem_filterMap.mp hf
  obtain ⟨hlevel, hvariants⟩ := Concern.detect?_some h
  refine ⟨?_, (Inconsistency.exists_action hvariants).imp fun _ => And.left⟩
  rw [hlevel]
  exact hconcerns concern hconcern

theorem SuggestionRule.due?_some {rule : SuggestionRule} (h : rule.due? buffer = some s) :
    s.level = rule.level ∧ ∃ count, s.priority = priorityFor count := by
  unfold SuggestionRule.due? at h
  split at h
  · cases h
  · simp only at h
    split at h
    · cases h
    · cases h
      exact ⟨rfl, _, rfl⟩

theorem lookup_priorityFor (count : Nat) :
    ∃ n, priorityRanks.lookup (priorityFor count) = some n := by
  unfold priorityFor
  split
  · exact ⟨1, by decide⟩
  · split
    · exact ⟨2, by decide⟩
    · exact ⟨3, by decide⟩

theorem exists_action_of_mem (hs : s ∈ suggest rules buffer) (keepConsider : Bool) :
    ∃ item, s.action keepConsider = .ok item := by
  obtain ⟨rule, -, h⟩ := List.mem_filterMap.mp hs
  obtain ⟨-, count, hpriority⟩ := SuggestionRule.due?_some h
  obtain ⟨n, hn⟩ := lookup_priorityFor count
  simp [Suggestion.action, hpriority, hn]

theorem suggest_sound (hrules : ∀ rule ∈ rules, rule.level ∈ levels)
    (hs : s ∈ suggest rules buffer) :
    s.level ∈ levels ∧ ∀ keepConsider, ∃ item, s.action keepConsider = .ok item := by
  obtain ⟨rule, hrule, h⟩ := List.mem_filterMap.mp hs
  exact ⟨(SuggestionRule.due?_some h).1 ▸ hrules rule hrule, exists_action_of_mem hs⟩

-- ---------------------------------------------------------------------------
-- Items with levels
-- ---------------------------------------------------------------------------

theorem exists_labelled {f : α → Except ε β} (label : α → String) {xs : List α}
    (h : ∀ x ∈ xs, ∃ y, f x = .ok y) :
    ∃ ys : List (String × β), ys.map (·.1) = xs.map label ∧
      ∀ keep : String → Bool,
        (xs.filter (keep <| label ·)).mapM f = .ok ((ys.filter (keep ·.1)).map (·.2)) := by
  induction xs with
  | nil => exact ⟨[], rfl, fun _ => rfl⟩
  | cons x xs ih =>
    obtain ⟨⟨y, hy⟩, hrest⟩ := List.forall_mem_cons.mp h
    obtain ⟨ys, hlabels, hys⟩ := ih hrest
    refine ⟨(label x, y) :: ys, by simp [hlabels], fun keep => ?_⟩
    cases hkeep : keep (label x) with
    | false => simpa [List.filter_cons, hkeep] using hys keep
    | true => simp [hkeep, hy, hys keep, ok_bind, pure_ok]

theorem sortActions_leveled (items : List (String × ActionItem)) (keep : String → Bool) :
    sortActions ((items.filter (keep ·.1)).map (·.2)) =
      ((items.mergeSort fun a b => decide (a.2.priority ≤ b.2.priority)).filter
        (keep ·.1)).map (·.2) := by
  rw [filter_mergeSort fun item : String × ActionItem => item.2.priority, sortActions]
  exact (List.map_mergeSort (f := Prod.snd) fun a _ b _ => rfl).symm

theorem exists_leveled {found : List Inconsistency} {suggestions : List Suggestion}
    (hfound : ∀ f ∈ found, ∃ item, f.action = .ok item)
    (hsuggestions : ∀ s ∈ suggestions, ∃ item, s.action false = .ok item) :
    ∃ items : List (String × ActionItem),
      (items.map (·.1)).Perm (found.map (·.level) ++ suggestions.map (·.level)) ∧
      ∀ keep : String → Bool,
        actionItems (found.filter (keep ·.level)) (suggestions.filter (keep ·.level)) =
          .ok ((items.filter (keep ·.1)).map (·.2)) := by
  obtain ⟨first, hlevels, hfirst⟩ := exists_labelled (·.level) hfound
  obtain ⟨second, hlevels', hsecond⟩ := exists_labelled (·.level) hsuggestions
  refine ⟨(first ++ second).mergeSort fun a b => decide (a.2.priority ≤ b.2.priority), ?_,
    fun keep => ?_⟩
  · rw [← hlevels, ← hlevels', ← List.map_append]
    exact (List.mergeSort_perm (first ++ second) _).map _
  · rw [actionItems, hfirst keep, ok_bind, hsecond keep, ok_bind, pure_ok, ← List.map_append,
      ← List.filter_append, sortActions_leveled]

-- ---------------------------------------------------------------------------
-- Consistency
-- ---------------------------------------------------------------------------

def consistencies : List String := ["high", "medium", "low"]

theorem variantCount_cons (f : Inconsistency) (found : List Inconsistency) :
    variantCount (f :: found) = f.variants.length + variantCount found := rfl

theorem variantCount_sublist {part whole : List Inconsistency} (h : part.Sublist whole) :
    variantCount part ≤ variantCount whole := by
  induction h with
  | slnil => exact Nat.le_refl _
  | cons f _ ih =>
    rw [variantCount_cons]
    exact Nat.le_add_left_of_le ih
  | cons_cons f _ ih =>
    rw [variantCount_cons, variantCount_cons]
    exact Nat.add_le_add_left ih _

theorem overallConsistency_sublist {part whole : List Inconsistency} (h : part.Sublist whole) :
    consistencies.idxOf (overallConsistency part) ≤
      consistencies.idxOf (overallConsistency whole) := by
  have hcount := variantCount_sublist h
  have hlength := h.length_le
  unfold overallConsistency
  by_cases hpart : part.isEmpty
  · rw [if_pos hpart]
    exact Nat.zero_le _
  · have hwhole : ¬ whole.isEmpty := by
      simp only [List.isEmpty_iff_length_eq_zero] at *
      omega
    rw [if_neg hpart, if_neg hwhole]
    split
    · split <;> decide
    · next hmany =>
      have hmore : ¬ (whole.length ≤ 2 && variantCount whole ≤ 6) = true := by
        simp only [Bool.and_eq_true, decide_eq_true_eq] at *
        omega
      exact Nat.le_of_eq (by rw [if_neg hmore])

-- ---------------------------------------------------------------------------
-- Reports
-- ---------------------------------------------------------------------------

theorem builtin_levels :
    (∀ rule ∈ Builtin.idioms, rule.level ∈ levels) ∧
      (∀ concern ∈ Builtin.concerns, concern.level ∈ levels) ∧
      ∀ rule ∈ Builtin.suggestions, rule.level ∈ levels := by
  decide +kernel

theorem wanted_all : wanted "all" = fun _ => true := by
  funext level
  simp [wanted]

theorem wanted_level (h : l ∈ levels) : wanted l = (· == l) := by
  funext level
  have hall : l ≠ "all" := by
    rintro rfl
    exact absurd h (by decide)
  simp [wanted, hall]

/-- Lists by level together are the whole list, if there are no other levels. -/
theorem flatMap_levels_perm {f : α → String} {parts : String → List α} {whole : List α}
    (hparts : ∀ l ∈ levels, parts l = whole.filter (f · == l))
    (hwhole : ∀ x ∈ whole, f x ∈ levels) :
    (levels.flatMap parts).Perm whole := by
  rw [List.flatMap_congr hparts]
  exact Rule.flatMap_filter_perm (by decide) hwhole

theorem exists_items (h : buffer.check limit = .ok ()) :
    ∃ items : List (String × ActionItem), (∀ item ∈ items, item.1 ∈ levels) ∧
      ∀ filename level, ∃ report, analyzeIdioms buffer filename level limit = .ok report ∧
        report.detected = (detectIdioms Builtin.idioms buffer).filter (wanted level ·.level) ∧
        report.inconsistencies =
          (detectInconsistencies Builtin.concerns buffer).filter (wanted level ·.level) ∧
        report.suggestions = (suggest Builtin.suggestions buffer).filter (wanted level ·.level) ∧
        report.actions = (items.filter (wanted level ·.1)).map (·.2) ∧
        report.summary.consistency = overallConsistency report.inconsistencies := by
  obtain ⟨-, hconcerns, hrules⟩ := builtin_levels
  have hfound f (hf : f ∈ detectInconsistencies Builtin.concerns buffer) :=
    detectInconsistencies_sound hconcerns hf
  have hsuggestions s (hs : s ∈ suggest Builtin.suggestions buffer) := suggest_sound hrules hs
  obtain ⟨items, hlevels, hitems⟩ :=
    exists_leveled (fun f hf => (hfound f hf).2) fun s hs => (hsuggestions s hs).2 false
  refine ⟨items, fun item hitem => ?_, fun filename level => ?_⟩
  · have hmem := hlevels.mem_iff.mp (List.mem_map_of_mem hitem)
    simp only [List.mem_append, List.mem_map] at hmem
    obtain ⟨f, hf, heq⟩ | ⟨s, hs, heq⟩ := hmem
    · exact heq ▸ (hfound f hf).1
    · exact heq ▸ (hsuggestions s hs).1
  · simp only [analyzeIdioms, h, hitems (wanted level), Except.mapError, ok_bind, pure_ok]
    exact ⟨_, rfl, rfl, rfl, rfl, rfl, rfl⟩

/-- Let a buffer be within the limit. There are reports on all levels and on each level, and the
report on a level lists the idioms, inconsistencies and suggestions of that level that the whole
report lists, in the same order. Its action items are among those of the whole report, in the same
order, and the file is at least as consistent. The reports on the three levels together list what
the whole report lists. -/
theorem analyzeIdioms_levels {buffer : Buffer} (h : buffer.check limit = .ok ())
    (filename : String) :
    ∃ (whole : IdiomAnalysis) (part : String → IdiomAnalysis),
      analyzeIdioms buffer filename "all" limit = .ok whole ∧
      (∀ l ∈ levels,
        analyzeIdioms buffer filename l limit = .ok (part l) ∧
        (part l).detected = whole.detected.filter (·.level == l) ∧
        (part l).inconsistencies = whole.inconsistencies.filter (·.level == l) ∧
        (part l).suggestions = whole.suggestions.filter (·.level == l) ∧
        (part l).actions.Sublist whole.actions ∧
        consistencies.idxOf (part l).summary.consistency ≤
          consistencies.idxOf whole.summary.consistency) ∧
      (levels.flatMap (part · |>.detected)).Perm whole.detected ∧
      (levels.flatMap (part · |>.inconsistencies)).Perm whole.inconsistencies ∧
      (levels.flatMap (part · |>.suggestions)).Perm whole.suggestions ∧
      (levels.flatMap (part · |>.actions)).Perm whole.actions := by
  obtain ⟨items, hitems, hreport⟩ := exists_items h
  choose report hok hdetected hfound hsuggestions hactions hconsistency using hreport filename
  obtain ⟨hidioms, hconcerns, hrules⟩ := builtin_levels
  have hdetected' l (hl : l ∈ levels) :
      (report l).detected = (report "all").detected.filter (·.level == l) := by
    rw [hdetected, hdetected, wanted_all, List.filter_true, wanted_level hl]
  have hfound' l (hl : l ∈ levels) :
      (report l).inconsistencies = (report "all").inconsistencies.filter (·.level == l) := by
    rw [hfound, hfound, wanted_all, List.filter_true, wanted_level hl]
  have hsuggestions' l (hl : l ∈ levels) :
      (report l).suggestions = (report "all").suggestions.filter (·.level == l) := by
    rw [hsuggestions, hsuggestions, wanted_all, List.filter_true, wanted_level hl]
  have hactions' l (hl : l ∈ levels) :
      (report l).actions = (items.filter (·.1 == l)).map (·.2) := by
    rw [hactions, wanted_level hl]
  have hitems' : (report "all").actions = items.map (·.2) := by
    rw [hactions, wanted_all, List.filter_true]
  refine ⟨report "all", report, hok _, fun l hl => ⟨hok l, hdetected' l hl, hfound' l hl,
    hsuggestions' l hl, ?_, ?_⟩, ?_, ?_, ?_, ?_⟩
  · rw [hactions' l hl, hitems']
    exact List.filter_sublist.map _
  · rw [hconsistency, hconsistency, hfound' l hl]
    exact overallConsistency_sublist List.filter_sublist
  · refine flatMap_levels_perm hdetected' fun d hd => ?_
    rw [hdetected] at hd
    exact detectIdioms_level hidioms (List.mem_filter.mp hd).1
  · refine flatMap_levels_perm hfound' fun f hf => ?_
    rw [hfound] at hf
    exact (detectInconsistencies_sound hconcerns (List.mem_filter.mp hf).1).1
  · refine flatMap_levels_perm hsuggestions' fun s hs => ?_
    rw [hsuggestions] at hs
    exact (suggest_sound hrules (List.mem_filter.mp hs).1).1
  · rw [List.flatMap_congr hactions', hitems', ← List.map_flatMap]
    exact (flatMap_levels_perm (fun l _ => rfl) hitems).map _

theorem analyzeIdioms_levels_limit :
    (Buffer.ofString "a?.b ?? c").check (some 9) = .ok () ∧
      ∃ (whole : IdiomAnalysis) (part : String → IdiomAnalysis),
        analyzeIdioms (Buffer.ofString "a?.b ?? c") "a.ts" "all" (some 9) = .ok whole ∧
        (∀ l ∈ levels,
          analyzeIdioms (Buffer.ofString "a?.b ?? c") "a.ts" l (some 9) = .ok (part l) ∧
          (part l).inconsistencies = whole.inconsistencies.filter (·.level == l) ∧
          (part l).actions.Sublist whole.actions) ∧
        (levels.flatMap (part · |>.actions)).Perm whole.actions := by
  have hcheck : (Buffer.ofString "a?.b ?? c").check (some 9) = .ok () := by decide
  obtain ⟨whole, part, hwhole, hpart, -, -, -, hactions⟩ := analyzeIdioms_levels hcheck "a.ts"
  refine ⟨hcheck, whole, part, hwhole, fun l hl => ?_, hactions⟩
  obtain ⟨hok, -, hfound, -, hsublist, -⟩ := hpart l hl
  exact ⟨hok, hfound, hsublist⟩

end CodeAudit.Advice
