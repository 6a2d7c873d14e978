import CodeAudit.Proofs.Findings
import CodeAudit.Proofs.Regrouping

/-!
# Set severities and the severities of rules

Setting severities relabels findings when the scan is over; writing them into the rules relabels
them at the start. The severity of a rule decides nothing in between: it is checked when the rule
is compiled (`compile_relabel`) and copied to what the rule finds (`scanRule_relabel`). So both give
the same report (`analyze_relabel`).
-/

namespace CodeAudit.Rule

variable {overrides : List (String × String)}

/-- A rule under the severity that is set for it, if there is one. -/
def Definition.relabel (overrides : List (String × String)) (d : Definition) : Definition :=
  { d with severity := (overrides.lookup d.id).getD d.severity }

def Compiled.relabel (overrides : List (String × String)) (rule : Compiled) : Compiled :=
  { rule with severity := (overrides.lookup rule.id).getD rule.severity }

-- ---------------------------------------------------------------------------
-- Compiling
-- ---------------------------------------------------------------------------

theorem compile_relabel
    (hset : ∀ ruleId severity, overrides.lookup ruleId = some severity → severity ∈ severities)
    (h : Definition.compile d = .ok rule) :
    (d.relabel overrides).compile = .ok (rule.relabel overrides) := by
  obtain ⟨hseverity, hcategory, ms, hms, hsome, rfl⟩ := compile_ok_iff.mp h
  refine compile_ok_iff.mpr ⟨?_, hcategory, ms, hms, hsome, rfl⟩
  cases hlookup : overrides.lookup d.id with
  | none => simpa [Definition.relabel, hlookup] using hseverity
  | some severity => simpa [Definition.relabel, hlookup] using hset d.id severity hlookup

theorem compileAll_relabel
    (hset : ∀ ruleId severity, overrides.lookup ruleId = some severity → severity ∈ severities)
    (h : compileAll ds = .ok rules) :
    compileAll (ds.map (·.relabel overrides)) = .ok (rules.map (·.relabel overrides)) := by
  obtain ⟨hnodup, hrules⟩ := compileAll_ok_iff.mp h
  refine compileAll_ok_iff.mpr ⟨by simpa [Function.comp_def, Definition.relabel] using hnodup, ?_⟩
  exact List.forall₂_map_left_iff.mpr
    (List.forall₂_map_right_iff.mpr (hrules.imp fun _ _ hc => compile_relabel hset hc))

end CodeAudit.Rule

namespace CodeAudit.Settings

def withSeverities (settings : Settings) (severities : List (String × String)) : Settings :=
  { settings with rules := { settings.rules with severities } }

end CodeAudit.Settings

namespace CodeAudit.Scan

open CodeAudit.Rule
open CodeAudit.Source (Buffer)

variable {overrides : List (String × String)} {buffer : Buffer} {filename : String}

-- ---------------------------------------------------------------------------
-- Scanning
-- ---------------------------------------------------------------------------

@[simp]
theorem overrideSeverities_nil (findings : List Finding) :
    overrideSeverities [] findings = findings := by
  simp [overrideSeverities]

theorem scanRule_relabel (rule : Compiled) :
    scanRule (rule.relabel overrides) buffer filename =
      overrideSeverities overrides (scanRule rule buffer filename) := by
  simp only [scanRule, overrideSeverities, List.map_flatMap, List.map_map]
  refine List.flatMap_congr fun matcher _ => List.map_congr_left fun m _ => ?_
  cases hlookup : overrides.lookup rule.id with
  | none => simp [findingAt, Compiled.relabel, hlookup]
  | some severity => simp [findingAt, Compiled.relabel, hlookup]

theorem scanRules_relabel (rules : List Compiled) :
    scanRules (rules.map (·.relabel overrides)) buffer filename =
      overrideSeverities overrides (scanRules rules buffer filename) := by
  simp only [scanRules, List.flatMap_map, scanRule_relabel, overrideSeverities, List.map_flatMap]

theorem findingsIn_relabel (rules : List Compiled) (cs : List String) :
    findingsIn (rules.map (·.relabel overrides)) buffer filename cs =
      overrideSeverities overrides (findingsIn rules buffer filename cs) := by
  have hgroup (c : String) : (rules.map (·.relabel overrides)).filter (·.category == c) =
      (rules.filter (·.category == c)).map (·.relabel overrides) := by
    rw [List.filter_map]
    rfl
  simp only [findingsIn, hgroup, scanRules_relabel]
  simp only [overrideSeverities, List.map_flatMap]

theorem reportOf_relabel (rules : List Compiled) (settings : Settings) (timestamp : String) :
    reportOf (rules.map (·.relabel overrides)) (settings.withSeverities []) buffer filename
        timestamp =
      reportOf rules (settings.withSeverities overrides) buffer filename timestamp := by
  simp only [reportOf, Settings.withSeverities, findingsIn_relabel, overrideSeverities_nil]

-- ---------------------------------------------------------------------------
-- Analyses
-- ---------------------------------------------------------------------------

/-- The analysis by a table that compiles, under severities that are set for rules, succeeds with
the same report as the analysis by the table with these severities written into its rules, under
none that are set. Both tables may have been used before, and the categories are arbitrary.

Premises: the severities that are set are known ones, and the text is within the limit. -/
theorem analyze_relabel {definitions : List Definition} (h : compileAll definitions = .ok rules)
    (hset : ∀ ruleId severity, overrides.lookup ruleId = some severity → severity ∈ severities)
    (settings : Settings) (hsize : (Buffer.ofString code).check settings.limit = .ok ())
    (requests requests' : List Request) (filename timestamp : String) :
    let buffer := Buffer.ofString code
    let edited := definitions.map (·.relabel overrides)
    ∃ report cat cat',
      analyze (serveAll { definitions } requests).2 (settings.withSeverities overrides) buffer
        filename timestamp = .ok (report, cat) ∧
      analyze (serveAll { definitions := edited } requests').2 (settings.withSeverities []) buffer
        filename timestamp = .ok (report, cat') := by
  intro buffer edited
  obtain ⟨hcur, hdefs⟩ := serveAll_current requests (Catalog.current_new definitions)
  obtain ⟨hcur', hdefs'⟩ := serveAll_current requests' (Catalog.current_new edited)
  obtain ⟨cat, hanalyze, -⟩ : ∃ cat, analyze _ (settings.withSeverities overrides) buffer filename
      timestamp = .ok (reportOf rules _ buffer filename timestamp, cat) ∧ _ :=
    analyze_ok hcur ((congrArg compileAll hdefs).trans h) hsize
  obtain ⟨cat', hanalyze', -⟩ : ∃ cat', analyze _ (settings.withSeverities []) buffer filename
      timestamp = .ok (reportOf (rules.map (·.relabel overrides)) _ buffer filename timestamp,
        cat') ∧ _ :=
    analyze_ok hcur' ((congrArg compileAll hdefs').trans (compileAll_relabel hset h)) hsize
  rw [reportOf_relabel] at hanalyze'
  exact ⟨_, cat, cat', hanalyze, hanalyze'⟩

theorem analyze_relabel_mixed :
    let overrides := [("E-1", "critical"), ("X-9", "info")]
    let edited := mixedTable.map (·.relabel overrides)
    let buffer := Buffer.ofString "while (true) x == y;"
    edited.map (fun d => (d.id, d.severity)) = [("E-1", "critical"), ("S-1", "high")] ∧
    ∃ report cat cat',
      analyze { definitions := mixedTable } (Settings.withSeverities {} overrides) buffer "a.js" ""
        = .ok (report, cat) ∧
      analyze { definitions := edited } {} buffer "a.js" "" = .ok (report, cat') := by
  intro overrides edited buffer
  obtain ⟨rules, hrules⟩ : ∃ rules, compileAll mixedTable = .ok rules :=
    exists_compileAll (by decide) (by decide +kernel)
  have hset : ∀ ruleId severity, overrides.lookup ruleId = some severity →
      severity ∈ severities := by
    intro ruleId severity hlookup
    simp only [overrides, List.lookup_cons] at hlookup
    grind [severities]
  have hsize : buffer.check ({} : Settings).limit = .ok () := by decide +kernel
  exact ⟨by decide, analyze_relabel hrules hset {} hsize [] [] "a.js" ""⟩

end CodeAudit.Scan
