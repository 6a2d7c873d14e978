import CodeAudit.Proofs.Outcome
import CodeAudit.Rule.Catalog
import Mathlib.Data.List.Forall2

/-!
# Tables of rules

A table compiles exactly if its ids are distinct and each of its rules compiles
(`compileAll_ok_iff`); the result has the rules in table order, so leaving rules out of a table
leaves the same rules out of the result (`compileAll_filter`).
-/

namespace CodeAudit.Rule

-- ---------------------------------------------------------------------------
-- One rule
-- ---------------------------------------------------------------------------

def Definition.withMatchers (d : Definition) (matchers : List Matcher) : Compiled where
  id := d.id
  title := d.title
  description := d.description
  severity := d.severity
  category := d.category
  matchers := matchers
  suggestion := d.suggestion
  verification := d.verification

/-- The checks of a rule in their order: its severity, its category, its patterns, and that it has
any. -/
theorem compile_eq (d : Definition) : d.compile =
    if d.severity ∈ severities then
      if d.category ∈ categories then
        match d.spec.matchers with
        | .error e => .error (.ofBuild d.id e)
        | .ok [] => .error (.refused (.noPatterns d.id))
        | .ok (m :: ms) => .ok (d.withMatchers (m :: ms))
      else .error (.refused (.unknownCategory d.id d.category))
    else .error (.refused (.unknownSeverity d.id d.severity)) := by
  unfold Definition.compile
  by_cases hs : d.severity ∈ severities
  · by_cases hc : d.category ∈ categories
    · simp only [List.contains_eq_mem, hs, hc, decide_true, Bool.not_true, Bool.false_eq_true,
        ↓reduceIte]
      cases d.spec.matchers with
      | error e => rfl
      | ok ms => cases ms <;> rfl
    · simp only [List.contains_eq_mem, hs, hc, decide_true, decide_false, Bool.not_true,
        Bool.not_false, Bool.false_eq_true, ↓reduceIte]
      rfl
  · simp only [List.contains_eq_mem, hs, decide_false, Bool.not_false, ↓reduceIte]
    rfl

theorem compile_ok_iff {d : Definition} : d.compile = .ok rule ↔
    d.severity ∈ severities ∧ d.category ∈ categories ∧
      ∃ ms, d.spec.matchers = .ok ms ∧ ms ≠ [] ∧ rule = d.withMatchers ms := by
  rw [compile_eq]
  by_cases hs : d.severity ∈ severities
  · by_cases hc : d.category ∈ categories
    · cases d.spec.matchers with
      | error e => simp [hs, hc]
      | ok ms => cases ms <;> simp [hs, hc, eq_comm]
    · simp [hs, hc]
  · simp [hs]

theorem compile_id (h : Definition.compile d = .ok rule) : rule.id = d.id := by
  obtain ⟨-, -, ms, -, -, rfl⟩ := compile_ok_iff.mp h
  rfl

theorem compile_category (h : Definition.compile d = .ok rule) : rule.category = d.category := by
  obtain ⟨-, -, ms, -, -, rfl⟩ := compile_ok_iff.mp h
  rfl

theorem compile_severity (h : Definition.compile d = .ok rule) : rule.severity = d.severity := by
  obtain ⟨-, -, ms, -, -, rfl⟩ := compile_ok_iff.mp h
  rfl

-- ---------------------------------------------------------------------------
-- One step of a table
-- ---------------------------------------------------------------------------

/-- All that adding a rule to a table can do: report a repeated id, keep the compiled rule, or
report why there is none. -/
theorem add_cases {st st' : TableState} (h : st.add d = .ok st') :
    (d.id ∈ st.seen ∧ st' = { st with problems := st.problems ++ [.duplicateId d.id] }) ∨
    (d.id ∉ st.seen ∧ ∃ rule, d.compile = .ok rule ∧
      st' = { st with compiled := st.compiled ++ [rule], seen := d.id :: st.seen }) ∨
    (d.id ∉ st.seen ∧ ∃ problem, d.compile = .error (.refused problem) ∧
      st' = { st with problems := st.problems ++ [problem], seen := d.id :: st.seen }) := by
  unfold TableState.add at h
  by_cases hs : d.id ∈ st.seen
  · simp only [List.contains_iff_mem, hs, ↓reduceIte, Except.ok.injEq] at h
    exact .inl ⟨hs, h.symm⟩
  · simp only [List.contains_iff_mem, hs, ↓reduceIte] at h
    split at h
    · rename_i rule hc
      exact .inr (.inl ⟨hs, rule, hc, (Except.ok.inj h).symm⟩)
    · rename_i problem hc
      exact .inr (.inr ⟨hs, problem, hc, (Except.ok.inj h).symm⟩)
    · cases h

theorem add_compiles {st : TableState} (hs : d.id ∉ st.seen) (hc : d.compile = .ok rule) :
    st.add d = .ok { st with compiled := st.compiled ++ [rule], seen := d.id :: st.seen } := by
  simp [TableState.add, hs, hc]

-- ---------------------------------------------------------------------------
-- A whole table
-- ---------------------------------------------------------------------------

abbrev Compiles : List Definition → List Compiled → Prop :=
  List.Forall₂ fun d rule => d.compile = .ok rule

theorem exists_compiles (h : ∀ d ∈ ds, ∃ rule, Definition.compile d = .ok rule) :
    ∃ rules, Compiles ds rules := by
  obtain ⟨rules, hrules⟩ := exists_mapM_ok h
  exact ⟨rules, mapM_eq_ok.mp hrules⟩

theorem foldlM_add_compiles {st st' : TableState} (h : ds.foldlM TableState.add st = .ok st')
    (hp : st'.problems = []) :
    st.problems = [] ∧ (ds.map (·.id)).Nodup ∧ (∀ d ∈ ds, d.id ∉ st.seen) ∧
      ∃ rules, Compiles ds rules ∧ st'.compiled = st.compiled ++ rules := by
  induction ds generalizing st with
  | nil =>
    simp only [List.foldlM_nil, pure_eq_ok] at h
    subst h
    exact ⟨hp, by simp, by simp, [], .nil, by simp⟩
  | cons d ds ih =>
    simp only [List.foldlM_cons, bind_eq_ok] at h
    obtain ⟨mid, hadd, hrest⟩ := h
    obtain ⟨hmid, hnodup, hunseen, rules, hrules, hcompiled⟩ := ih hrest
    rcases add_cases hadd with ⟨-, rfl⟩ | ⟨hs, rule, hc, rfl⟩ | ⟨-, problem, -, rfl⟩
    · simp at hmid
    · refine ⟨hmid, ?_, ?_, rule :: rules, .cons hc hrules, by simpa using hcompiled⟩
      · refine List.nodup_cons.mpr ⟨?_, hnodup⟩
        intro hmem
        obtain ⟨e, he, hid⟩ := List.mem_map.mp hmem
        exact hunseen e he (by simp [hid])
      · intro e he
        rcases List.mem_cons.mp he with rfl | he
        · exact hs
        · exact fun hm => hunseen e he (List.mem_cons_of_mem _ hm)
    · simp at hmid

theorem foldlM_add_of_compiles (st : TableState) (hrules : Compiles ds rules)
    (hnodup : (ds.map (·.id)).Nodup) (hunseen : ∀ d ∈ ds, d.id ∉ st.seen) :
    ∃ st', ds.foldlM TableState.add st = .ok st' ∧ st'.problems = st.problems ∧
      st'.compiled = st.compiled ++ rules := by
  induction hrules generalizing st with
  | nil => exact ⟨st, rfl, rfl, by simp⟩
  | @cons d rule ds rules hc _ ih =>
    obtain ⟨hd, hnodup⟩ := List.nodup_cons.mp hnodup
    have hs : d.id ∉ st.seen := hunseen d List.mem_cons_self
    have hrest : ∀ e ∈ ds, e.id ∉ d.id :: st.seen := by
      intro e he hm
      rcases List.mem_cons.mp hm with hid | hm
      · exact hd (List.mem_map.mpr ⟨e, he, hid⟩)
      · exact hunseen e (List.mem_cons_of_mem _ he) hm
    obtain ⟨st', hfold, hproblems, hcompiled⟩ := ih
      { st with compiled := st.compiled ++ [rule], seen := d.id :: st.seen } hnodup hrest
    refine ⟨st', ?_, hproblems, by simpa using hcompiled⟩
    rw [List.foldlM_cons, add_compiles hs hc]
    exact hfold

/-- A table compiles exactly if its ids are distinct and every rule compiles. -/
theorem compileAll_ok_iff :
    compileAll ds = .ok rules ↔ (ds.map (·.id)).Nodup ∧ Compiles ds rules := by
  constructor
  · intro h
    unfold compileAll at h
    split at h
    · cases h
    · rename_i st hfold
      split at h
      · rename_i hempty
        obtain ⟨-, hnodup, -, compiled, hcompiled, hst⟩ :=
          foldlM_add_compiles hfold (List.isEmpty_iff.mp hempty)
        have hrules : compiled = rules := by simpa [hst] using h
        exact ⟨hnodup, hrules ▸ hcompiled⟩
      · cases h
  · rintro ⟨hnodup, hrules⟩
    obtain ⟨st, hfold, hproblems, hcompiled⟩ :=
      foldlM_add_of_compiles {} hrules hnodup (by simp)
    simp [compileAll, hfold, hproblems, hcompiled]

theorem exists_compileAll (hnodup : (ds.map (·.id)).Nodup)
    (h : ∀ d ∈ ds, (Definition.compile d).toBool) : ∃ rules, compileAll ds = .ok rules := by
  obtain ⟨rules, hrules⟩ := exists_compiles fun d hd => toBool_eq_true.mp (h d hd)
  exact ⟨rules, compileAll_ok_iff.mpr ⟨hnodup, hrules⟩⟩

theorem compileAll_filter (h : compileAll ds = .ok rules) (keep : String → Bool) :
    compileAll (ds.filter (keep ·.id)) = .ok (rules.filter (keep ·.id)) := by
  obtain ⟨hnodup, hrules⟩ := compileAll_ok_iff.mp h
  refine compileAll_ok_iff.mpr ⟨hnodup.sublist (List.filter_sublist.map _), ?_⟩
  clear h hnodup
  induction hrules with
  | nil => exact .nil
  | @cons d rule ds rules hc _ ih =>
    have hid := compile_id hc
    cases hk : keep d.id with
    | true => simpa [hk, hid] using ⟨hc, ih⟩
    | false => simpa [hk, hid] using ih

theorem compileAll_mem (h : compileAll ds = .ok rules) (hr : rule ∈ rules) :
    ∃ d ∈ ds, d.compile = .ok rule := by
  obtain ⟨d, hd, hc⟩ := exists_left_of_mem (compileAll_ok_iff.mp h).2 hr
  exact ⟨d, hd, hc⟩

theorem mem_compileAll (h : compileAll ds = .ok rules) (hd : d ∈ ds) :
    ∃ rule ∈ rules, d.compile = .ok rule := by
  obtain ⟨rule, hr, hc⟩ := exists_right_of_mem (compileAll_ok_iff.mp h).2 hd
  exact ⟨rule, hr, hc⟩

theorem compileAll_category (h : compileAll ds = .ok rules) (hr : rule ∈ rules) :
    rule.category ∈ categories := by
  obtain ⟨d, -, hc⟩ := compileAll_mem h hr
  rw [compile_category hc]
  exact (compile_ok_iff.mp hc).2.1

end CodeAudit.Rule
