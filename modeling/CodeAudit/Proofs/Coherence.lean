import CodeAudit.Proofs.Findings
import CodeAudit.Proofs.Regrouping
import CodeAudit.Proofs.Settings

/-!
# Reports are coherent

A report has the findings of the scan under the severities that are set, the most severe first and
otherwise as they were found. Since every severity is a known one (`reportOf_known`), the numbers by
severity add up to the number of findings (`summarize_total`). `analyze_coherent` says so of every
analysis by a table that compiles.
-/

namespace CodeAudit.Scan

open CodeAudit.Rule
open CodeAudit.Source (Buffer)

-- ---------------------------------------------------------------------------
-- Severities and numbers
-- ---------------------------------------------------------------------------

theorem reportOf_known {settings : Settings} (h : compileAll ds = .ok rules)
    (hset : ∀ ruleId severity, settings.rules.severities.lookup ruleId = some severity →
      severity ∈ severities)
    (hf : f ∈ (reportOf rules settings buffer filename timestamp).findings) :
    f.severity ∈ severities := by
  obtain ⟨rule, hrule, -, hseverity⟩ := reportOf_severity hf
  rw [hseverity]
  cases hlookup : settings.rules.severities.lookup rule.id with
  | none => exact (compileAll_sound h hrule).2.1
  | some severity => exact hset rule.id severity hlookup

theorem summarize_total {findings : List Finding} (h : ∀ f ∈ findings, f.severity ∈ severities)
    (strengths : Nat) :
    let summary := summarize findings strengths
    summary.total =
      summary.critical + summary.high + summary.medium + summary.low + summary.info := by
  have hsum := sum_countP_key Finding.severity (by decide) h
  simp only [severities, List.map_cons, List.map_nil, List.sum_cons, List.sum_nil] at hsum
  simp only [summarize, countSeverity]
  omega

theorem summarize_coherent {findings : List Finding} (h : ∀ f ∈ findings, f.severity ∈ severities)
    (strengths : Nat) :
    let summary := summarize findings strengths
    summary.total = findings.length ∧
    [summary.critical, summary.high, summary.medium, summary.low, summary.info] =
      severities.map (fun severity => (findings.countP (·.severity == severity) : Int)) ∧
    summary.total =
      summary.critical + summary.high + summary.medium + summary.low + summary.info ∧
    summary.strengths = strengths ∧
    summary.score = max 0 (min 100 (100 - 25 * summary.critical - 15 * summary.high -
      5 * summary.medium - summary.low + 2 * summary.strengths)) ∧
    0 ≤ summary.score ∧ summary.score ≤ 100 := by
  intro summary
  have hscore : summary.score = max 0 (min 100 (100 - 25 * summary.critical -
      15 * summary.high - 5 * summary.medium - summary.low + 2 * summary.strengths)) := by
    rw [summarize_score]
    simp only [summary, summarize]
    omega
  refine ⟨rfl, rfl, summarize_total h strengths, rfl, hscore, ?_⟩
  omega

-- ---------------------------------------------------------------------------
-- Analyses
-- ---------------------------------------------------------------------------

/-- The analysis that accepted settings ask for succeeds, and its report is coherent. Its findings
are those of the categories that are set, with the severities that are set; all severities are
known, the more severe findings come first, and equally severe ones are in the order in which they
were found. The total is the number of findings and the sum of the numbers by severity. The score
follows from these numbers and from the number of strengths, and is between zero and one hundred.

Premises: the table compiles, and the text is within the limit. -/
theorem analyze_coherent (hsettings : Settings.ofEntries entries = .ok settings)
    {definitions : List Definition} (h : compileAll definitions = .ok rules)
    (hsize : (Buffer.ofString code).check settings.limit = .ok ())
    (requests : List Request) (filename timestamp : String) :
    let cat := (serveAll { definitions } requests).2
    let buffer := Buffer.ofString code
    let scanned := settings.categories.flatMap fun c =>
      (rules.filter (·.category == c)).flatMap fun rule =>
        rule.matchers.flatMap fun matcher =>
          (matcher.findAll buffer.text).map (findingAt rule buffer filename)
    let found := overrideSeverities settings.rules.severities scanned
    ∃ report cat', analyze cat settings buffer filename timestamp = .ok (report, cat') ∧
      Compiles definitions rules ∧ settings.categories.Sublist Rule.categories ∧
      report.findings.Perm found ∧
      (∀ f ∈ report.findings, f.severity ∈ severities) ∧
      report.findings.Pairwise
        (fun f g => severities.idxOf f.severity ≤ severities.idxOf g.severity) ∧
      (∀ severity, report.findings.filter (·.severity == severity) =
        found.filter (·.severity == severity)) ∧
      let summary := report.summary
      summary.total = report.findings.length ∧
      [summary.critical, summary.high, summary.medium, summary.low, summary.info] =
        severities.map (fun severity => (report.findings.countP (·.severity == severity) : Int)) ∧
      summary.total =
        summary.critical + summary.high + summary.medium + summary.low + summary.info ∧
      summary.strengths = report.strengths.length ∧
      summary.score = max 0 (min 100 (100 - 25 * summary.critical - 15 * summary.high -
        5 * summary.medium - summary.low + 2 * summary.strengths)) ∧
      0 ≤ summary.score ∧ summary.score ≤ 100 := by
  intro cat buffer scanned found
  obtain ⟨hcur, hdefs⟩ : cat.Current ∧ cat.definitions = definitions :=
    serveAll_current requests (Catalog.current_new definitions)
  obtain ⟨cat', hanalyze, -⟩ := analyze_ok hcur ((congrArg compileAll hdefs).trans h) hsize
  have hknown : ∀ f ∈ (reportOf rules settings buffer filename timestamp).findings,
      f.severity ∈ severities := fun f hf =>
    reportOf_known h (fun _ _ => Settings.ofEntries_severities hsettings) hf
  refine ⟨_, cat', hanalyze, (compileAll_ok_iff.mp h).2, ?_, sortFindings_perm _, hknown,
    sortFindings_pairwise _, sortFindings_severity _, summarize_coherent hknown _⟩
  rw [← Settings.ofEntries_categories hsettings]
  exact List.filter_sublist

def raisedEntries : Entries :=
  [("rules", .table [("severity-overrides", .table [("e-1", .str "Critical")])])]

def raisedSettings : Settings where
  rules := { severities := [("E-1", "critical")] }

theorem analyze_coherent_raised :
    let code := "while (true) x == y;"
    ∃ rules report cat, Settings.ofEntries raisedEntries = .ok raisedSettings ∧
      compileAll mixedTable = .ok rules ∧
      (Buffer.ofString code).check raisedSettings.limit = .ok () ∧
      analyze { definitions := mixedTable } raisedSettings (.ofString code) "a.js" "" =
        .ok (report, cat) ∧
      report.findings.Pairwise
        (fun f g => severities.idxOf f.severity ≤ severities.idxOf g.severity) ∧
      report.summary.total = report.findings.length ∧
      report.summary.score = max 0 (min 100 (100 - 25 * report.summary.critical -
        15 * report.summary.high - 5 * report.summary.medium - report.summary.low +
        2 * report.summary.strengths)) := by
  intro code
  have hsettings : Settings.ofEntries raisedEntries = .ok raisedSettings :=
    toOption_eq_some.mp (by decide +kernel)
  obtain ⟨rules, hrules⟩ : ∃ rules, compileAll mixedTable = .ok rules :=
    exists_compileAll (by decide) (by decide +kernel)
  have hsize : (Buffer.ofString code).check raisedSettings.limit = .ok () := by decide +kernel
  obtain ⟨report, cat, hanalyze, -, -, -, -, hsorted, -, htotal, -, -, -, hscore, -⟩ :=
    analyze_coherent hsettings hrules hsize [] "a.js" ""
  exact ⟨rules, report, cat, hsettings, hrules, hsize, hanalyze, hsorted, htotal, hscore⟩

end CodeAudit.Scan
