import CodeAudit.Proofs.Findings
import CodeAudit.Proofs.Regrouping

/-!
# Rules do not interfere

What a rule finds depends on the rule and the text only. `scan_independent` compares scans by two
tables that share a rule: the findings of the rule are the same, and they are those of the rule run
alone. The order of a table therefore only orders the findings, and scanning all categories is
scanning them one after the other.
-/

namespace CodeAudit.Scan

open CodeAudit.Rule
open CodeAudit.Source (Buffer)

-- ---------------------------------------------------------------------------
-- The findings of one rule
-- ---------------------------------------------------------------------------

theorem filter_id_eq_singleton {rules : List Compiled} (hnodup : (rules.map (·.id)).Nodup)
    (hr : rule ∈ rules) : rules.filter (·.id == rule.id) = [rule] := by
  induction rules with
  | nil => cases hr
  | cons first rest ih =>
    obtain ⟨hfirst, hrest⟩ := List.nodup_cons.mp hnodup
    rcases List.mem_cons.mp hr with rfl | hr
    · have hothers : rest.filter (·.id == rule.id) = [] := by
        refine List.filter_eq_nil_iff.mpr fun other hother hid => ?_
        exact hfirst (List.mem_map.mpr ⟨other, hother, beq_iff_eq.mp hid⟩)
      simp [hothers]
    · have hne : first.id ≠ rule.id := fun hid =>
        hfirst (List.mem_map.mpr ⟨rule, hr, hid.symm⟩)
      simp [hne, ih hrest hr]

theorem scanRules_own {rules : List Compiled} (hnodup : (rules.map (·.id)).Nodup)
    (hr : rule ∈ rules) (buffer : Buffer) (filename : String) :
    (scanRules rules buffer filename).filter (·.ruleId == rule.id) =
      scanRule rule buffer filename := by
  rw [scanRules_filter fun ruleId _ => ruleId == rule.id, filter_id_eq_singleton hnodup hr]
  simp [scanRules]

theorem scanRules_absent {rules : List Compiled} (habsent : ∀ rule ∈ rules, rule.id ≠ ruleId)
    (buffer : Buffer) (filename : String) :
    (scanRules rules buffer filename).filter (·.ruleId == ruleId) = [] := by
  have hnone : rules.filter (·.id == ruleId) = [] :=
    List.filter_eq_nil_iff.mpr fun rule hr hid => habsent rule hr (beq_iff_eq.mp hid)
  rw [scanRules_filter fun id _ => id == ruleId, hnone]
  rfl

/-- The findings of one rule in a scan of a category or of all: what the rule finds, unless another
category is scanned. -/
theorem scanRules_select_own (h : compileAll ds = .ok rules) (hd : d ∈ ds)
    (hc : d.compile = .ok rule) (c : Option String) (buffer : Buffer) (filename : String) :
    (scanRules (Catalog.Grouping.select (groupRules rules) c) buffer filename).filter
        (·.ruleId == d.id) =
      if c = none ∨ c = some d.category then scanRule rule buffer filename else [] := by
  obtain ⟨hnodup, hrules⟩ := compileAll_ok_iff.mp h
  rw [← hrules.map_id] at hnodup
  have hr : rule ∈ rules := by
    obtain ⟨rule', hr, hc'⟩ := mem_compileAll h hd
    rw [hc] at hc'
    cases hc'
    exact hr
  rw [← compile_id hc, ← compile_category hc]
  cases c with
  | none =>
    have hperm := select_none_perm h
    rw [if_pos (.inl rfl)]
    exact scanRules_own ((hperm.map _).nodup_iff.mpr hnodup) (hperm.mem_iff.mpr hr) buffer filename
  | some c =>
    rw [select_groupRules (fun rule hr => compileAll_category h hr) c]
    by_cases hcat : rule.category = c
    · rw [if_pos (.inr (congrArg some hcat.symm))]
      refine scanRules_own (hnodup.sublist (List.filter_sublist.map _)) ?_ buffer filename
      exact List.mem_filter.mpr ⟨hr, beq_iff_eq.mpr hcat⟩
    · rw [if_neg (by simp [Ne.symm hcat])]
      refine scanRules_absent (fun other hother hid => ?_) buffer filename
      obtain ⟨hmem, hothercat⟩ := List.mem_filter.mp hother
      -- The ids are distinct, so `other` would be the rule itself, which is in another category.
      obtain rfl := List.inj_on_of_nodup_map hnodup hmem hr hid
      exact hcat (beq_iff_eq.mp hothercat)

-- ---------------------------------------------------------------------------
-- Tables in another order
-- ---------------------------------------------------------------------------

theorem compileAll_perm (h : compileAll ds = .ok rules) (hperm : ds.Perm ds') :
    ∃ rules', compileAll ds' = .ok rules' ∧ rules.Perm rules' := by
  obtain ⟨hnodup, hrules⟩ := compileAll_ok_iff.mp h
  obtain ⟨rules', hrules', hsame⟩ := List.perm_comp_forall₂ hperm.symm hrules
  exact ⟨rules', compileAll_ok_iff.mpr ⟨(hperm.map _).nodup_iff.mp hnodup, hrules'⟩, hsame.symm⟩

theorem summarize_perm {found found' : List Finding} (h : found.Perm found') (strengths : Nat) :
    summarize found strengths = summarize found' strengths := by
  have hcount (severity : String) :
      countSeverity found severity = countSeverity found' severity := by
    rw [countSeverity, countSeverity, h.countP_eq]
  simp only [summarize, hcount, h.length_eq]

-- ---------------------------------------------------------------------------
-- Scans
-- ---------------------------------------------------------------------------

theorem scan_serveAll {definitions : List Definition} (h : compileAll definitions = .ok rules)
    (requests : List Request) {buffer : Buffer} (hsize : buffer.check limit = .ok ())
    (filename : String) (c : Option String) :
    (scan (serveAll { definitions } requests).2 buffer filename c limit).map (·.1) =
      .ok (scanRules (Catalog.Grouping.select (groupRules rules) c) buffer filename) := by
  obtain ⟨hcur, hdefs⟩ := serveAll_current requests (Catalog.current_new definitions)
  have hgroups := grouping_ok hcur ((congrArg compileAll hdefs).trans h)
  exact map_eq_ok.mpr ⟨_, scan_ok_iff.mpr ⟨hsize, _, hgroups, rfl, rfl⟩, rfl⟩

/-- Let two tables that share a rule compile, and let catalogs over them have served any requests.
In scans of the same text, for one category or for all, the findings of the rule are the same with
both tables; they are what the rule finds alone, if its category is scanned. A table in another
order compiles too, its scans have the same findings in some order and the same numbers, and a scan
for all categories is the scans for the four categories one after the other.

Premise: the text is within the limit, if there is one. -/
theorem scan_independent {definitions definitions' : List Definition}
    (h : compileAll definitions = .ok rules) (h' : compileAll definitions' = .ok rules')
    (hd : d ∈ definitions) (hd' : d ∈ definitions')
    (hsize : (Buffer.ofString code).check limit = .ok ())
    (requests requests' : List Request) (filename : String) :
    let buffer := Buffer.ofString code
    let found (definitions : List Definition) (requests : List Request) (c : Option String) :=
      (scan (serveAll { definitions } requests).2 buffer filename c limit).map (·.1)
    (∃ rule, d.compile = .ok rule ∧ ∀ c, ∃ fs fs',
      found definitions requests c = .ok fs ∧ found definitions' requests' c = .ok fs' ∧
      fs.filter (·.ruleId == d.id) = fs'.filter (·.ruleId == d.id) ∧
      (c = none ∨ c = some d.category →
        fs.filter (·.ruleId == d.id) = scanRule rule buffer filename)) ∧
    (∀ permuted, definitions.Perm permuted → ∃ fs fs',
      found definitions requests none = .ok fs ∧ found permuted requests' none = .ok fs' ∧
      fs.Perm fs' ∧ ∀ strengths, summarize fs strengths = summarize fs' strengths) ∧
    ∃ security deceptive placeholder error,
      found definitions requests (some "security") = .ok security ∧
      found definitions requests (some "deceptive") = .ok deceptive ∧
      found definitions requests (some "placeholder") = .ok placeholder ∧
      found definitions requests (some "error") = .ok error ∧
      found definitions requests none = .ok (security ++ deceptive ++ placeholder ++ error) := by
  intro buffer found
  refine ⟨?_, ?_, ?_⟩
  · obtain ⟨rule, -, hc⟩ := mem_compileAll h hd
    refine ⟨rule, hc, fun c => ⟨_, _, scan_serveAll h requests hsize filename c,
      scan_serveAll h' requests' hsize filename c, ?_, fun hscanned => ?_⟩⟩
    · rw [scanRules_select_own h hd hc, scanRules_select_own h' hd' hc]
    · rw [scanRules_select_own h hd hc, if_pos hscanned]
  · intro permuted hperm
    obtain ⟨rules₂, h₂, hrules⟩ := compileAll_perm h hperm
    have hfound : (scanRules (Catalog.Grouping.select (groupRules rules) none) buffer filename).Perm
        (scanRules (Catalog.Grouping.select (groupRules rules₂) none) buffer filename) :=
      ((select_none_perm h).trans (hrules.trans (select_none_perm h₂).symm)).flatMap_right _
    exact ⟨_, _, scan_serveAll h requests hsize filename none,
      scan_serveAll h₂ requests' hsize filename none, hfound, summarize_perm hfound⟩
  · refine ⟨_, _, _, _, scan_serveAll h requests hsize filename _,
      scan_serveAll h requests hsize filename _, scan_serveAll h requests hsize filename _,
      scan_serveAll h requests hsize filename _, ?_⟩
    rw [show found definitions requests none = _ from scan_serveAll h requests hsize filename none,
      select_none_eq h]
    simp only [scanRules, List.flatMap_append]

def loopRule : Definition where
  id := "L-1"
  title := "t"
  description := "d"
  severity := "medium"
  category := "error"
  spec := .loop "infinite"

def loopCode : String := "while (true) for (;;) x == y;"

theorem scan_independent_loop :
    ∃ rule fs fs', loopRule.compile = .ok rule ∧
      (scan { definitions := [loopRule] } (.ofString loopCode) "a.js" none none).map (·.1) =
        .ok fs ∧
      (scan { definitions := mixedTable ++ [loopRule] } (.ofString loopCode) "a.js" none none).map
        (·.1) = .ok fs' ∧
      fs.filter (·.ruleId == "L-1") = fs'.filter (·.ruleId == "L-1") ∧
      fs.filter (·.ruleId == "L-1") = scanRule rule (.ofString loopCode) "a.js" := by
  obtain ⟨rules, hrules⟩ : ∃ rules, compileAll [loopRule] = .ok rules :=
    exists_compileAll (by decide) (by decide +kernel)
  obtain ⟨rules', hrules'⟩ : ∃ rules, compileAll (mixedTable ++ [loopRule]) = .ok rules :=
    exists_compileAll (by decide) (by decide +kernel)
  have hsize : (Buffer.ofString loopCode).check none = .ok () := rfl
  obtain ⟨⟨rule, hc, hfound⟩, -⟩ := scan_independent hrules hrules' List.mem_cons_self
    (List.mem_append_right _ List.mem_cons_self) hsize [] [] "a.js"
  obtain ⟨fs, fs', hfs, hfs', hsame, halone⟩ := hfound none
  exact ⟨rule, fs, fs', hc, hfs, hfs', hsame, halone (.inl rfl)⟩

end CodeAudit.Scan
