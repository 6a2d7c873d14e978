import CodeAudit.Proofs.Catalog
import CodeAudit.Scan.Analysis

/-!
# What an analysis says

An analysis with a current catalog depends on the catalog only through its compiled table:
`analyze_ok` gives the report of a table that compiles, `analyze_error` the error of one that does
not.
-/

namespace CodeAudit.Scan

open CodeAudit.Rule
open CodeAudit.Source (Buffer)

def findingsIn (rules : List Compiled) (buffer : Buffer) (filename : String)
    (categories : List String) : List Finding :=
  categories.flatMap fun c => scanRules (rules.filter (·.category == c)) buffer filename

def reportOf (rules : List Compiled) (settings : Settings) (buffer : Buffer)
    (filename timestamp : String) : Analysis :=
  let findings := sortFindings
    (overrideSeverities settings.rules.severities
      (findingsIn rules buffer filename settings.categories))
  let strengths := Strength.findAll Strength.builtin buffer
  { filename, timestamp, findings, strengths
    language := Language.label filename
    summary := summarize findings strengths.length }

section

variable {cat : Catalog} {buffer : Buffer}

-- ---------------------------------------------------------------------------
-- A table that compiles
-- ---------------------------------------------------------------------------

theorem grouping_ok (hcur : cat.Current) (hrules : compileAll cat.definitions = .ok rules) :
    cat.grouping = .ok (groupRules rules) := by
  rw [hcur.grouping, hrules]
  rfl

theorem scan_category (hcur : cat.Current) (hrules : compileAll cat.definitions = .ok rules)
    (c : String) :
    scan cat buffer filename (some c) none =
      .ok (scanRules (rules.filter (·.category == c)) buffer filename,
        { cat with cache := some (groupRules rules) }) := by
  refine scan_ok_iff.mpr ⟨rfl, groupRules rules, grouping_ok hcur hrules, ?_, rfl⟩
  rw [select_groupRules fun rule hr => compileAll_category hrules hr]

theorem scanCategories_ok (hcur : cat.Current) (hrules : compileAll cat.definitions = .ok rules)
    (cs : List String) :
    ∃ cat', scanCategories cat buffer filename cs =
        .ok (findingsIn rules buffer filename cs, cat') ∧
      cat'.Current ∧ cat'.definitions = cat.definitions := by
  induction cs generalizing cat with
  | nil => exact ⟨cat, rfl, hcur, rfl⟩
  | cons c cs ih =>
    have hcached := hcur.cached (grouping_ok hcur hrules)
    obtain ⟨cat', hscan, hcur', hdefs⟩ := ih hcached hrules
    refine ⟨cat', ?_, hcur', hdefs⟩
    simp only [scanCategories, bind_eq_ok, pure_eq_ok, Prod.exists]
    exact ⟨_, _, scan_category hcur hrules c, _, _, hscan, rfl⟩

theorem analyze_ok (hcur : cat.Current) (hrules : compileAll cat.definitions = .ok rules)
    (hsize : buffer.check settings.limit = .ok ()) :
    ∃ cat', analyze cat settings buffer filename timestamp =
        .ok (reportOf rules settings buffer filename timestamp, cat') ∧
      cat'.Current ∧ cat'.definitions = cat.definitions := by
  obtain ⟨cat', hscan, hcur', hdefs⟩ := scanCategories_ok hcur hrules settings.categories
  refine ⟨cat', ?_, hcur', hdefs⟩
  simp only [analyze, bind_eq_ok, mapError_eq_ok, pure_eq_ok, Prod.exists]
  exact ⟨(), hsize, _, _, hscan, rfl⟩

-- ---------------------------------------------------------------------------
-- A table that does not compile
-- ---------------------------------------------------------------------------

theorem scan_error (hcur : cat.Current) (herror : compileAll cat.definitions = .error e) :
    scan cat buffer filename c none = .error (.table e) := by
  have hg : cat.grouping = .error e := by
    rw [hcur.grouping, herror]
    rfl
  simp only [scan, Catalog.compiled, hg]
  rfl

theorem analyze_error (hcur : cat.Current) (herror : compileAll cat.definitions = .error e)
    (hsize : buffer.check settings.limit = .ok ()) (hsome : settings.categories ≠ []) :
    analyze cat settings buffer filename timestamp = .error (.table e) := by
  obtain ⟨c, cs, hcs⟩ := List.exists_cons_of_ne_nil hsome
  simp only [analyze, hsize, hcs, scanCategories, scan_error hcur herror]
  rfl

-- ---------------------------------------------------------------------------
-- An analysis that succeeds
-- ---------------------------------------------------------------------------

/-- An analysis that finds something is the report by the compiled table. -/
theorem analyze_report (hcur : cat.Current)
    (h : analyze cat settings buffer filename timestamp = .ok (report, cat'))
    (hfound : report.findings ≠ []) :
    ∃ rules, compileAll cat.definitions = .ok rules ∧
      report = reportOf rules settings buffer filename timestamp := by
  have hsteps := h
  simp only [analyze, bind_eq_ok, mapError_eq_ok, pure_eq_ok, Prod.exists] at hsteps
  obtain ⟨_, hsize, found, _, hscan, hreport⟩ := hsteps
  cases hrules : compileAll cat.definitions with
  | ok rules =>
    obtain ⟨_, hok, -⟩ : ∃ after, analyze cat settings buffer filename timestamp =
        .ok (reportOf rules settings buffer filename timestamp, after) ∧ _ :=
      analyze_ok hcur hrules hsize
    rw [hok] at h
    cases h
    exact ⟨rules, rfl, rfl⟩
  | error e =>
    by_cases hnone : settings.categories = []
    · -- No category is scanned, so the rules are never compiled and nothing is found.
      rw [hnone] at hscan
      cases hscan
      obtain ⟨rfl, -⟩ := Prod.mk.inj hreport
      exact absurd (by simp [overrideSeverities, sortFindings]) hfound
    · rw [analyze_error hcur hrules hsize hnone] at h
      cases h

end

end CodeAudit.Scan
