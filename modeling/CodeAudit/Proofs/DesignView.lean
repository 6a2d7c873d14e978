import CodeAudit.Proofs.Levels

/-!
# Two views of the design idioms

The report on design idioms and the advisory report on the level `design` are made by two passes
that differ in two points: the first leaves out inconsistencies, and it keeps advice to consider
something apart from other advice. With the built-in tables neither point shows
(`analyzeDesign_agrees`): no concern is about design, and no design suggestion is only to be
considered.
-/

namespace CodeAudit.Advice

open CodeAudit.Source (Buffer)

-- ---------------------------------------------------------------------------
-- Plans that are only to be considered
-- ---------------------------------------------------------------------------

theorem actionKind_of_ne (h : planKind ≠ "consider") (keep keep' : Bool) :
    actionKind planKind keep = actionKind planKind keep' := by
  simp [actionKind, h]

theorem action_of_ne {s : Suggestion} (h : s.plan.kind ≠ "consider") (keep keep' : Bool) :
    s.action keep = s.action keep' := by
  unfold Suggestion.action
  rw [actionKind_of_ne h keep keep']

theorem SuggestionRule.due?_plan {rule : SuggestionRule} (h : rule.due? buffer = some s) :
    s.plan = rule.plan := by
  unfold SuggestionRule.due? at h
  split at h
  · cases h
  · simp only at h
    split at h
    · cases h
    · cases h
      rfl

theorem mem_suggest (h : s ∈ suggest rules buffer) :
    ∃ rule ∈ rules, s.level = rule.level ∧ s.plan = rule.plan := by
  obtain ⟨rule, hrule, hdue⟩ := List.mem_filterMap.mp h
  exact ⟨rule, hrule, (SuggestionRule.due?_some hdue).1, SuggestionRule.due?_plan hdue⟩

-- ---------------------------------------------------------------------------
-- The built-in tables
-- ---------------------------------------------------------------------------

theorem builtin_design :
    (∀ concern ∈ Builtin.concerns, concern.level ≠ "design") ∧
      ∀ rule ∈ Builtin.suggestions, rule.level = "design" → rule.plan.kind ≠ "consider" := by
  decide +kernel

theorem design_inconsistencies (buffer : Buffer) :
    (detectInconsistencies Builtin.concerns buffer).filter (·.level == "design") = [] := by
  refine List.filter_eq_nil_iff.mpr fun f hf => ?_
  obtain ⟨concern, hconcern, hdetect⟩ := List.mem_filterMap.mp hf
  have hlevel : f.level ≠ "design" :=
    (Concern.detect?_some hdetect).1 ▸ builtin_design.1 concern hconcern
  simpa using hlevel

theorem design_kind (h : s ∈ (suggest Builtin.suggestions buffer).filter (·.level == "design")) :
    s.plan.kind ≠ "consider" := by
  obtain ⟨hmem, hdesign⟩ := List.mem_filter.mp h
  obtain ⟨rule, hrule, hlevel, hplan⟩ := mem_suggest hmem
  rw [hplan]
  exact builtin_design.2 rule hrule (hlevel ▸ eq_of_beq hdesign)

theorem design_actions (buffer : Buffer) :
    ∃ items, ∀ keep, ((suggest Builtin.suggestions buffer).filter (·.level == "design")).mapM
      (Suggestion.action · keep) = .ok items := by
  obtain ⟨items, hitems⟩ := exists_mapM_ok (f := (Suggestion.action · false)) fun s hs =>
    (suggest_sound builtin_levels.2.2 (List.mem_filter.mp hs).1).2 false
  refine ⟨items, fun keep => ?_⟩
  rw [← hitems]
  exact mapM_congr fun s hs => action_of_ne (design_kind hs) keep false

/-- The report on design idioms and the advisory report on the level `design` are both refused for
a buffer over the limit, with the same error. Otherwise there are both, they have the same idioms,
suggestions and action items, and the advisory report has no inconsistencies. -/
theorem analyzeDesign_agrees (buffer : Buffer) (filename : String) (limit : Option Int) :
    (∃ e, buffer.check limit = .error e ∧
      analyzeDesign Builtin.idioms Builtin.suggestions buffer filename limit =
        .error (.tooLarge e) ∧
      analyzeIdioms buffer filename "design" limit = .error (.tooLarge e)) ∨
    ∃ report analysis, buffer.check limit = .ok () ∧
      analyzeDesign Builtin.idioms Builtin.suggestions buffer filename limit = .ok report ∧
      analyzeIdioms buffer filename "design" limit = .ok analysis ∧
      report.idioms.map (·.idiom) = analysis.detected ∧
      report.suggestions = analysis.suggestions ∧
      analysis.inconsistencies = [] ∧
      report.actions = analysis.actions := by
  cases hcheck : buffer.check limit with
  | error e =>
    refine .inl ⟨e, rfl, ?_, ?_⟩
    · simp [analyzeDesign, hcheck, Except.mapError, error_bind]
    · simp [analyzeIdioms, hcheck, Except.mapError, error_bind]
  | ok =>
    obtain ⟨items, hitems⟩ := design_actions buffer
    have hwanted : wanted "design" = (· == "design") := wanted_level (by decide)
    have hactions : actionItems [] ((suggest Builtin.suggestions buffer).filter
        (·.level == "design")) = .ok (sortActions items) := by
      simp [actionItems, hitems false, ok_bind, pure_ok]
    simp only [analyzeDesign, analyzeIdioms, hcheck, hwanted, hitems true, hactions,
      design_inconsistencies, Except.mapError, ok_bind, pure_ok]
    refine .inr ⟨_, _, trivial, rfl, rfl, ?_, rfl, rfl, rfl⟩
    simp [Function.comp_def]

end CodeAudit.Advice
