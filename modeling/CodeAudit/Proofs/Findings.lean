import CodeAudit.Proofs.Analysis
import CodeAudit.Proofs.Ordering
import Mathlib.Data.List.Nodup

/-!
# Findings and the rules they come from

A finding has the id and the category of the rule that fired. So choosing rules and choosing
findings by id and category come to the same, for one list of rules (`scanRules_filter`), for
categories in turn (`findingsIn_filter`) and for a whole report (`reportOf_filter`). The severity of
a finding is the one that is set for its rule (`analyze_set_severity`), or else that of the rule
(`analyze_own_severity`).
-/

namespace CodeAudit.Scan

open CodeAudit.Rule
open CodeAudit.Source (Buffer)

variable {buffer : Buffer} {filename : String}

-- ---------------------------------------------------------------------------
-- Choosing rules and findings
-- ---------------------------------------------------------------------------

theorem mem_scanRule (h : f ∈ scanRule rule buffer filename) :
    f.ruleId = rule.id ∧ f.category = rule.category ∧ f.severity = rule.severity := by
  simp only [scanRule, List.mem_flatMap, List.mem_map] at h
  obtain ⟨matcher, -, m, -, rfl⟩ := h
  exact ⟨rfl, rfl, rfl⟩

theorem scanRule_filter (keep : String → String → Bool) (rule : Compiled) :
    (scanRule rule buffer filename).filter (fun f => keep f.ruleId f.category) =
      if keep rule.id rule.category then scanRule rule buffer filename else [] := by
  split
  · rename_i hkeep
    refine List.filter_eq_self.mpr fun f hf => ?_
    obtain ⟨hid, hcat, -⟩ := mem_scanRule hf
    rwa [hid, hcat]
  · rename_i hkeep
    refine List.filter_eq_nil_iff.mpr fun f hf => ?_
    obtain ⟨hid, hcat, -⟩ := mem_scanRule hf
    rwa [hid, hcat]

theorem scanRules_filter (keep : String → String → Bool) (rules : List Compiled) :
    (scanRules rules buffer filename).filter (fun f => keep f.ruleId f.category) =
      scanRules (rules.filter fun rule => keep rule.id rule.category) buffer filename := by
  induction rules with
  | nil => rfl
  | cons rule rules ih =>
    have hcons (rules : List Compiled) : scanRules (rule :: rules) buffer filename =
        scanRule rule buffer filename ++ scanRules rules buffer filename := by
      simp [scanRules]
    rw [hcons, List.filter_append, scanRule_filter, ih, List.filter_cons]
    split
    · rw [hcons]
    · simp

theorem findingsIn_categories_filter (keep : String → Bool) (rules : List Compiled)
    (cs : List String) :
    findingsIn rules buffer filename (cs.filter keep) =
      cs.flatMap fun c =>
        if keep c then scanRules (rules.filter (·.category == c)) buffer filename else [] := by
  induction cs with
  | nil => rfl
  | cons c cs ih =>
    simp only [findingsIn] at ih ⊢
    cases hc : keep c <;> simp [hc, ih]

theorem findingsIn_filter (keep : String → Bool) {cs : List String}
    (hcs : Rule.categories.filter (cs.contains ·) = cs) (rules : List Compiled) :
    findingsIn (rules.filter (keep ·.id)) buffer filename cs =
      (findingsIn rules buffer filename Rule.categories).filter
        fun f => keep f.ruleId && cs.contains f.category := by
  have hone (c : String) :
      (scanRules (rules.filter (·.category == c)) buffer filename).filter
          (fun f => keep f.ruleId && cs.contains f.category) =
        if cs.contains c then
          scanRules ((rules.filter (keep ·.id)).filter (·.category == c)) buffer filename
        else [] := by
    rw [scanRules_filter fun id category => keep id && cs.contains category, List.filter_filter]
    split
    · rename_i hc
      rw [List.filter_filter]
      congr 1
      refine List.filter_congr fun rule _ => ?_
      cases hrule : rule.category == c with
      | false => simp
      | true => simp only [beq_iff_eq.mp hrule, hc, Bool.and_true, Bool.true_and]
    · rename_i hc
      have hnone : rules.filter (fun rule =>
          (keep rule.id && cs.contains rule.category) && rule.category == c) = [] := by
        refine List.filter_eq_nil_iff.mpr fun rule _ => ?_
        cases hrule : rule.category == c with
        | false => simp
        | true => simp only [beq_iff_eq.mp hrule, hc, Bool.and_true, Bool.and_false,
            Bool.false_eq_true, not_false_eq_true]
      rw [hnone]
      rfl
  calc findingsIn (rules.filter (keep ·.id)) buffer filename cs
      = findingsIn (rules.filter (keep ·.id)) buffer filename
          (Rule.categories.filter (cs.contains ·)) := by rw [hcs]
    _ = Rule.categories.flatMap fun c =>
          (scanRules (rules.filter (·.category == c)) buffer filename).filter
            fun f => keep f.ruleId && cs.contains f.category := by
        simp only [findingsIn_categories_filter, hone]
    _ = _ := by rw [findingsIn, List.filter_flatMap]

theorem overrideSeverities_filter (keep : String → String → Bool)
    (overrides : List (String × String)) (findings : List Finding) :
    (overrideSeverities overrides findings).filter (fun f => keep f.ruleId f.category) =
      overrideSeverities overrides (findings.filter fun f => keep f.ruleId f.category) := by
  rw [overrideSeverities, overrideSeverities, List.filter_map]
  congr 2
  funext f
  simp only [Function.comp]
  split <;> rfl

/-- A report by chosen rules on chosen categories has the chosen findings of the full report, in
the same order, and no lower score. -/
theorem reportOf_filter (keep : String → Bool) {settings : Settings} (rules : List Compiled)
    (hcs : Rule.categories.filter (settings.categories.contains ·) = settings.categories)
    (timestamp : String) :
    let narrow := reportOf (rules.filter (keep ·.id)) settings buffer filename timestamp
    let full := reportOf rules { settings with categories := Rule.categories } buffer filename
      timestamp
    narrow.findings =
        full.findings.filter (fun f => keep f.ruleId && settings.categories.contains f.category) ∧
      narrow.strengths = full.strengths ∧ full.summary.score ≤ narrow.summary.score := by
  intro narrow full
  have hfindings : narrow.findings =
      full.findings.filter fun f => keep f.ruleId && settings.categories.contains f.category := by
    simp only [narrow, full, reportOf, findingsIn_filter keep hcs, sortFindings_filter,
      overrideSeverities_filter fun id category => keep id && settings.categories.contains category]
  have hstrengths : narrow.strengths = full.strengths := by
    simp only [narrow, full, reportOf]
  have hnarrow : narrow.summary = summarize narrow.findings narrow.strengths.length := by
    simp only [narrow, reportOf]
  have hfull : full.summary = summarize full.findings full.strengths.length := by
    simp only [full, reportOf]
  refine ⟨hfindings, hstrengths, ?_⟩
  rw [hnarrow, hfull, hfindings, hstrengths]
  exact score_filter_le _ full.findings full.strengths.length

-- ---------------------------------------------------------------------------
-- Severities
-- ---------------------------------------------------------------------------

theorem mem_findingsIn (h : f ∈ findingsIn rules buffer filename cs) :
    ∃ rule ∈ rules, f.ruleId = rule.id ∧ f.severity = rule.severity := by
  simp only [findingsIn, scanRules, List.mem_flatMap, List.mem_filter] at h
  obtain ⟨c, -, rule, ⟨hrule, -⟩, hf⟩ := h
  obtain ⟨hid, -, hseverity⟩ := mem_scanRule hf
  exact ⟨rule, hrule, hid, hseverity⟩

/-- A reported finding has the severity that is set for its rule, or else that of the rule. -/
theorem reportOf_severity {settings : Settings}
    (h : f ∈ (reportOf rules settings buffer filename timestamp).findings) :
    ∃ rule ∈ rules, f.ruleId = rule.id ∧
      f.severity = (settings.rules.severities.lookup rule.id).getD rule.severity := by
  simp only [reportOf, sortFindings, List.mem_mergeSort, overrideSeverities, List.mem_map] at h
  obtain ⟨g, hg, rfl⟩ := h
  obtain ⟨rule, hrule, hid, hseverity⟩ := mem_findingsIn hg
  refine ⟨rule, hrule, ?_⟩
  cases hlookup : settings.rules.severities.lookup rule.id with
  | none => simp [hid, hlookup, hseverity]
  | some severity => simp [hid, hlookup]

section

variable {cat : Catalog} {settings : Settings}

theorem analyze_set_severity (hcur : cat.Current)
    (h : analyze cat settings buffer filename timestamp = .ok (report, cat'))
    (hf : f ∈ report.findings)
    (hset : settings.rules.severities.lookup f.ruleId = some severity) :
    f.severity = severity := by
  obtain ⟨rules, -, rfl⟩ := analyze_report hcur h (List.ne_nil_of_mem hf)
  obtain ⟨rule, -, hid, hseverity⟩ := reportOf_severity hf
  rw [hseverity, ← hid, hset]
  rfl

theorem analyze_own_severity (hcur : cat.Current)
    (h : analyze cat settings buffer filename timestamp = .ok (report, cat'))
    (hf : f ∈ report.findings) (hunset : settings.rules.severities.lookup f.ruleId = none)
    (hd : d ∈ cat.definitions) (hid : f.ruleId = d.id) :
    f.severity = d.severity := by
  obtain ⟨rules, hrules, rfl⟩ := analyze_report hcur h (List.ne_nil_of_mem hf)
  obtain ⟨rule, hrule, hruleId, hseverity⟩ := reportOf_severity hf
  obtain ⟨e, he, hc⟩ := compileAll_mem hrules hrule
  -- The table compiles, so no other rule of it has the same id.
  have hsame : e = d := by
    refine List.inj_on_of_nodup_map (compileAll_ok_iff.mp hrules).1 he hd ?_
    rw [← compile_id hc, ← hruleId, hid]
  rw [hseverity, ← hruleId, hunset, ← hsame, ← compile_severity hc]
  rfl

end

end CodeAudit.Scan
