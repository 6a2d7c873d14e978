import CodeAudit.Proofs.Analysis

/-!
# Validation and compilation agree

Validating a table and compiling it are two loops over its rules. Validation goes on to compile a
rule whose id is repeated, compilation does not, so validation reports at least as much
(`problemsFrom_refusals`). Both report nothing for the same tables, and then an analysis is not
refused for its rules either (`problemsOf_agrees`).
-/

namespace CodeAudit.Rule

-- ---------------------------------------------------------------------------
-- What is reported of one rule
-- ---------------------------------------------------------------------------

/-- Whether no repetition count in the patterns of a rule is too large. -/
def Definition.countsFit (d : Definition) : Bool :=
  match d.spec.matchers with
  | .error (.badPattern e) => e.fault.problem != .countTooLarge
  | _ => true

def Definition.refusal? (d : Definition) : Option Problem :=
  match d.compile with
  | .error (.refused problem) => some problem
  | _ => none

theorem ofBuild_fits {d : Definition} (hfit : d.countsFit) (hm : d.spec.matchers = .error e) :
    ∃ problem, CompileError.ofBuild d.id e = .refused problem := by
  cases e with
  | badPattern e =>
    have hne : e.fault.problem ≠ .countTooLarge := by simpa [Definition.countsFit, hm] using hfit
    exact ⟨.unbuildable d.id (.badPattern e), by simp [CompileError.ofBuild, hne]⟩
  | unspecified => exact ⟨_, rfl⟩
  | badFlag letter => exact ⟨_, rfl⟩
  | longDepth => exact ⟨_, rfl⟩

theorem compile_fits {d : Definition} (hfit : d.countsFit) :
    (∃ rule, d.compile = .ok rule) ∨ ∃ problem, d.compile = .error (.refused problem) := by
  rw [compile_eq]
  by_cases hs : d.severity ∈ severities
  · by_cases hc : d.category ∈ categories
    · cases hm : d.spec.matchers with
      | error e =>
        obtain ⟨problem, hproblem⟩ := ofBuild_fits hfit hm
        simp [hs, hc, hproblem]
      | ok ms => cases ms <;> simp [hs, hc]
    · simp [hs, hc]
  · simp [hs]

-- ---------------------------------------------------------------------------
-- What compilation reports of a table
-- ---------------------------------------------------------------------------

def refusalsFrom (seen : List String) : List Definition → List Problem
  | [] => []
  | d :: rest =>
    (if d.id ∈ seen then [.duplicateId d.id] else d.refusal?.toList) ++
      refusalsFrom (d.id :: seen) rest

theorem refusalsFrom_congr (h : ∀ id, id ∈ seen ↔ id ∈ seen') :
    refusalsFrom seen ds = refusalsFrom seen' ds := by
  induction ds generalizing seen seen' with
  | nil => rfl
  | cons d ds ih =>
    have hrest : refusalsFrom (d.id :: seen) ds = refusalsFrom (d.id :: seen') ds :=
      ih fun id => by simp [h id]
    simp only [refusalsFrom, h d.id, hrest]

theorem foldlM_add_refusals (st : TableState) (hfit : ∀ d ∈ ds, d.countsFit) :
    ∃ st', ds.foldlM TableState.add st = .ok st' ∧
      st'.problems = st.problems ++ refusalsFrom st.seen ds := by
  induction ds generalizing st with
  | nil => exact ⟨st, rfl, by simp [refusalsFrom]⟩
  | cons d ds ih =>
    obtain ⟨hd, hrest⟩ := List.forall_mem_cons.mp hfit
    by_cases hs : d.id ∈ st.seen
    · -- The repeated id is in `seen` already, so `seen` has the same members with it added.
      have hsame : refusalsFrom (d.id :: st.seen) ds = refusalsFrom st.seen ds :=
        refusalsFrom_congr fun id => by
          simp only [List.mem_cons, or_iff_right_iff_imp]
          rintro rfl
          exact hs
      obtain ⟨st', hfold, hproblems⟩ :=
        ih { st with problems := st.problems ++ [.duplicateId d.id] } hrest
      refine ⟨st', ?_, by simp [hproblems, refusalsFrom, hs, hsame]⟩
      simpa [List.foldlM_cons, TableState.add, hs, bind, Except.bind] using hfold
    · rcases compile_fits hd with ⟨rule, hc⟩ | ⟨problem, hc⟩
      · obtain ⟨st', hfold, hproblems⟩ :=
          ih { st with compiled := st.compiled ++ [rule], seen := d.id :: st.seen } hrest
        refine ⟨st', ?_, by simp [hproblems, refusalsFrom, hs, Definition.refusal?, hc]⟩
        simpa [List.foldlM_cons, TableState.add, hs, hc, bind, Except.bind] using hfold
      · obtain ⟨st', hfold, hproblems⟩ :=
          ih { st with problems := st.problems ++ [problem], seen := d.id :: st.seen } hrest
        refine ⟨st', ?_, by simp [hproblems, refusalsFrom, hs, Definition.refusal?, hc]⟩
        simpa [List.foldlM_cons, TableState.add, hs, hc, bind, Except.bind] using hfold

theorem compileAll_refusals (hfit : ∀ d ∈ ds, d.countsFit) :
    (refusalsFrom [] ds = [] ∧ ∃ rules, compileAll ds = .ok rules) ∨
      (refusalsFrom [] ds ≠ [] ∧ compileAll ds = .error (.refused (refusalsFrom [] ds))) := by
  obtain ⟨st, hfold, hproblems⟩ := foldlM_add_refusals {} hfit
  replace hproblems : st.problems = refusalsFrom [] ds := by simpa using hproblems
  by_cases hnone : refusalsFrom [] ds = []
  · exact .inl ⟨hnone, st.compiled, by simp [compileAll, hfold, hproblems, hnone]⟩
  · exact .inr ⟨hnone, by simp [compileAll, hfold, hproblems, hnone]⟩

-- ---------------------------------------------------------------------------
-- What validation reports of a table
-- ---------------------------------------------------------------------------

/-- Validation reports whatever compilation does, in the same order; the same if no id is repeated,
and nothing if compilation reports nothing. -/
theorem problemsFrom_refusals (seen : List String) (hfit : ∀ d ∈ ds, d.countsFit) :
    ∃ ps, problemsFrom seen ds = .ok ps ∧ (refusalsFrom seen ds).Sublist ps ∧
      (refusalsFrom seen ds = [] → ps = []) ∧
      ((ds.map (·.id)).Nodup → (∀ d ∈ ds, d.id ∉ seen) → ps = refusalsFrom seen ds) := by
  induction ds generalizing seen with
  | nil => exact ⟨[], rfl, by simp [refusalsFrom]⟩
  | cons d ds ih =>
    obtain ⟨hd, hrest⟩ := List.forall_mem_cons.mp hfit
    obtain ⟨ps, hps, hsub, hnil, hsame⟩ := ih (d.id :: seen) hrest
    have hown : problemsFrom seen (d :: ds) =
        .ok ((if d.id ∈ seen then [Problem.duplicateId d.id] else []) ++ d.refusal?.toList ++
          ps) := by
      rcases compile_fits hd with ⟨rule, hc⟩ | ⟨problem, hc⟩ <;>
        simp [problemsFrom, Definition.refusal?, hc, hps, bind, Except.bind, pure, Except.pure]
    refine ⟨_, hown, ?_, ?_, ?_⟩
    · refine List.Sublist.append ?_ hsub
      by_cases hs : d.id ∈ seen <;> simp [hs]
    · by_cases hs : d.id ∈ seen
      · simp [refusalsFrom, hs]
      · simp only [refusalsFrom, hs, ↓reduceIte, List.nil_append, List.append_eq_nil_iff]
        exact fun h => ⟨h.1, hnil h.2⟩
    · intro hnodup hunseen
      obtain ⟨hd, hnodup⟩ := List.nodup_cons.mp hnodup
      have hs : d.id ∉ seen := hunseen d List.mem_cons_self
      have hps : ps = refusalsFrom (d.id :: seen) ds := by
        refine hsame hnodup fun e he hm => ?_
        rcases List.mem_cons.mp hm with hid | hm
        · exact hd (List.mem_map.mpr ⟨e, he, hid⟩)
        · exact hunseen e (List.mem_cons_of_mem _ he) hm
      simp [refusalsFrom, hs, hps]

end CodeAudit.Rule

namespace CodeAudit.Scan

open CodeAudit.Rule

/-- For a table in which no repetition count is too large: validation always gives its list of
problems. The list is empty exactly if the table compiles, and exactly if an analysis by a catalog
over the table, however used before, is not refused for its rules. If the table does not compile,
the problems it is refused for are among those that validation lists, in the same order, and they
are all of them if no id is repeated.

Premises: at least one category is analyzed, and the buffer is within the limit. -/
theorem problemsOf_agrees {definitions : List Definition}
    (hfit : ∀ d ∈ definitions, d.countsFit) (requests : List Request) {settings : Settings}
    {buffer : Source.Buffer} (hsome : settings.categories ≠ [])
    (hsize : buffer.check settings.limit = .ok ()) (filename timestamp : String) :
    let cat := (serveAll { definitions } requests).2
    ∃ problems, problemsOf definitions = .ok problems ∧
      (problems = [] ↔ ∃ rules, compileAll definitions = .ok rules) ∧
      (problems = [] ↔ ¬ ∃ refused,
        analyze cat settings buffer filename timestamp = .error (.table (.refused refused))) ∧
      ∀ e, compileAll definitions = .error e → ∃ refused, e = .refused refused ∧
        refused.Sublist problems ∧
        ((definitions.map (·.id)).Nodup → refused = problems) := by
  intro cat
  obtain ⟨hcur, hdefs⟩ : cat.Current ∧ cat.definitions = definitions :=
    serveAll_current requests (Catalog.current_new definitions)
  obtain ⟨problems, hproblems, hsub, hnil, hsame⟩ := problemsFrom_refusals [] hfit
  refine ⟨problems, hproblems, ?_⟩
  rcases compileAll_refusals hfit with ⟨hnone, rules, hrules⟩ | ⟨hrefused, herror⟩
  · obtain ⟨cat', hok, -⟩ : ∃ cat', analyze cat settings buffer filename timestamp =
        .ok (reportOf rules settings buffer filename timestamp, cat') ∧ _ :=
      analyze_ok hcur (hdefs ▸ hrules) hsize
    simp [hnil hnone, hrules, hok]
  · have hne : problems ≠ [] := by
      rintro rfl
      exact hrefused (List.sublist_nil.mp hsub)
    have hanalyze : analyze cat settings buffer filename timestamp =
        .error (.table (.refused (refusalsFrom [] definitions))) :=
      analyze_error hcur (hdefs ▸ herror) hsize hsome
    refine ⟨by simp [hne, herror], by simp [hne, hanalyze], ?_⟩
    intro e he
    rw [herror] at he
    cases he
    exact ⟨_, rfl, hsub, fun hnodup => (hsame hnodup (by simp)).symm⟩

def repeatedTable : List Definition :=
  [{ id := "A-1", title := "t", description := "d", severity := "low", category := "error",
      spec := .raw "x" "g" },
    { id := "A-1", title := "t", description := "d", severity := "low", category := "error",
      spec := .raw "(" "g" }]

theorem problemsOf_agrees_repeated :
    ∃ problems refused, problemsOf repeatedTable = .ok problems ∧
      compileAll repeatedTable = .error (.refused refused) ∧ problems ≠ [] ∧
      refused.Sublist problems := by
  have hfit : ∀ d ∈ repeatedTable, d.countsFit := by decide +kernel
  have hsize : (Source.Buffer.ofString "").check ({} : Settings).limit = .ok () := rfl
  obtain ⟨problems, hproblems, hcompiles, -, hrefused⟩ :=
    problemsOf_agrees hfit [] (by decide) hsize "" ""
  have hfails : (compileAll repeatedTable).toBool = false := by decide +kernel
  cases hall : compileAll repeatedTable with
  | ok rules => simp [hall, Except.toBool] at hfails
  | error e =>
    obtain ⟨refused, rfl, hsub, -⟩ := hrefused e hall
    exact ⟨problems, refused, hproblems, rfl, by simp [hcompiles, hall], hsub⟩

end CodeAudit.Scan
