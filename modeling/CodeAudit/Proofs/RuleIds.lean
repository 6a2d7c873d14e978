import CodeAudit.Files.Tree
import CodeAudit.Proofs.Selection

/-!
# Rule ids in files and in settings

A rule file and the settings name a rule by the same text, but read it differently: both leave out
the blanks around it, and only the settings put it in upper case. `writtenId_reaches` says what
comes of it: settings that repeat the id of a rule as its file has it reach the rule exactly if the
id has no letter in lower case.
-/

namespace CodeAudit.Rule

open CodeAudit.Text

-- ---------------------------------------------------------------------------
-- Ids in rule files
-- ---------------------------------------------------------------------------

def writtenId? : Value → Option String
  | .table entries =>
    match Entries.get? entries "id" with
    | some (.str s) => some s
    | _ => none
  | _ => none

theorem nonBlank_ok (h : nonBlank place key entries = .ok s) :
    entries.get? key = some (.str s) := by
  unfold nonBlank at h
  split at h
  · rename_i s' hget
    split at h
    · cases h
    · cases h
      exact hget
  · cases h

theorem ofValue_id (h : Definition.ofValue place data = .ok d) :
    ∃ raw, writtenId? data = some raw ∧ d.id = strip raw := by
  unfold Definition.ofValue at h
  split at h
  · rename_i entries
    dsimp only at h
    split at h
    · cases h
    · simp only [bind_eq_ok] at h
      obtain ⟨raw, hid, title, -, description, -, severity, -, category, -, severity, -, category,
        -, suggestion, -, h⟩ := h
      refine ⟨raw, by simp [writtenId?, nonBlank_ok hid], ?_⟩
      split at h
      · simp only [bind_eq_ok] at h
        obtain ⟨spec, -, h⟩ := h
        split at h
        all_goals
          simp only [bind_eq_ok, pure_eq_ok] at h
          obtain ⟨verification, -, rfl⟩ := h
          rfl
      · cases h
  · cases h

def writtenIds (text : String) : List String :=
  match Toml.parse text with
  | .ok document =>
    match document.get? "rules" with
    | some (.list items) => items.filterMap writtenId?
    | _ => []
  | .error _ => []

theorem readDefinitionsFrom_ids (h : readDefinitionsFrom source index items = .ok defs) :
    List.Forall₂ (fun raw d => d.id = strip raw) (items.filterMap writtenId?) defs := by
  induction items generalizing index defs with
  | nil =>
    cases h
    exact .nil
  | cons item items ih =>
    simp only [readDefinitionsFrom, bind_eq_ok, pure_eq_ok] at h
    obtain ⟨first, hfirst, rest, hrest, rfl⟩ := h
    obtain ⟨raw, hraw, hid⟩ := ofValue_id hfirst
    rw [List.filterMap_cons_some hraw]
    exact .cons hid (ih hrest)

theorem definitionsOfText_ids (h : definitionsOfText source text = .ok defs) :
    List.Forall₂ (fun raw d => d.id = strip raw) (writtenIds text) defs := by
  simp only [definitionsOfText, bind_eq_ok, mapError_eq_ok] at h
  obtain ⟨document, hparse, h⟩ := h
  cases hrules : document.get? "rules" with
  | none =>
    rw [hrules] at h
    cases h
    simp [writtenIds, hparse, hrules]
  | some value =>
    rw [hrules] at h
    cases value with
    | list items =>
      have hread : readDefinitions source items = .ok defs := mapError_eq_ok.mp h
      simpa only [writtenIds, hparse, hrules] using readDefinitionsFrom_ids hread
    | _ => cases h

end CodeAudit.Rule

namespace CodeAudit.Settings

open CodeAudit.Files (FileSystem Path Tree)
open CodeAudit.Rule
open CodeAudit.Scan
open CodeAudit.Text (strip lower upper)

-- ---------------------------------------------------------------------------
-- Ids in rule files and in settings
-- ---------------------------------------------------------------------------

/-- Let `raw` be the id of a rule `d` as a rule file has it. If the settings leave out `raw`, no
rule with the id of `d` is left, provided that the id is in upper case; otherwise the rule stays. If
the settings set a severity for `raw`, the last one for the same id is the severity of all findings
with the id of `d`, again provided that the id is in upper case; otherwise they keep that of the
rule.

Premises: the settings and the rule file are accepted, and the rule files that the settings name can
be read. -/
theorem writtenId_reaches (hsettings : ofEntries entries = .ok settings) {fs : FileSystem Id}
    (hfiles : (settings.fileRules fs root).run = .ok added)
    (hfile : definitionsOfText source text = .ok defs)
    (hrule : (raw, d) ∈ (writtenIds text).zip defs) (requests : List Request) :
    let shared := (serveAll builtinCatalog requests).2
    let rules := rulesTable entries
    ∃ own, (settings.ownRules fs root).run = .ok own ∧
      (raw ∈ disabledAsWritten rules →
        (upper d.id = d.id → ∀ e ∈ (catalogOf shared own).definitions, e.id ≠ d.id) ∧
        (upper d.id ≠ d.id → d ∈ added → d ∈ (catalogOf shared own).definitions)) ∧
      ∀ before key s after, severitiesAsWritten rules = before ++ (key, .str s) :: after →
        canonicalId key = canonicalId raw →
        (∀ entry ∈ after, canonicalId entry.1 ≠ canonicalId raw) →
        ∀ buffer filename timestamp report cat,
        analyze (catalogOf shared own) settings buffer filename timestamp = .ok (report, cat) →
        ∀ f ∈ report.findings, f.ruleId = d.id →
          (upper d.id = d.id → f.severity = lower (strip s)) ∧
          (upper d.id ≠ d.id → d ∈ added → f.severity = d.severity) := by
  intro shared rules
  obtain ⟨hshared, hbuiltin⟩ : shared.Current ∧ shared.definitions = builtinDefinitions :=
    serveAll_current requests (Catalog.current_new builtinDefinitions)
  obtain ⟨hcur, hdefs⟩ := catalogOf_definitions hshared hbuiltin
    fun hnone => fileRules_none hnone hfiles
  obtain ⟨hdisabled, -, hseverities⟩ := ofEntries_rules hsettings
  have hcanonical : canonicalId raw = upper d.id := by
    have hid : d.id = strip raw := (List.forall₂_iff_zip.mp (definitionsOfText_ids hfile)).2 hrule
    rw [hid, canonicalId]
  -- An id that is not in upper case is none of those that settings can leave out.
  have hstays : upper d.id ≠ d.id → d ∈ added →
      d ∈ (catalogOf shared (settings.ownOf added)).definitions := by
    intro hcase hd
    rw [hdefs, List.mem_filter]
    refine ⟨List.mem_append_right _ hd, ?_⟩
    simpa using (ofEntries_lowercase hsettings hcase).1
  refine ⟨settings.ownOf added, ownRules_ok hfiles, ?_, ?_⟩
  · refine fun hraw => ⟨fun hcase e he heq => ?_, hstays⟩
    have hleft : d.id ∈ settings.rules.disabled := by
      rw [hdisabled, ← hcase, ← hcanonical]
      exact List.mem_map_of_mem hraw
    rw [hdefs, List.mem_filter, heq] at he
    simp [hleft] at he
  · intro before key s after hgiven hkey hlast buffer filename timestamp report cat hanalyze f hf
      hid
    refine ⟨fun hcase => ?_, fun hcase hd => ?_⟩
    · rw [← hkey] at hlast
      have hset := readSeverities_last (hgiven ▸ hseverities) hlast
      rw [hkey, hcanonical, hcase, ← hid] at hset
      exact analyze_set_severity hcur hanalyze hf hset
    · have hunset := (ofEntries_lowercase hsettings hcase).2
      rw [← hid] at hunset
      exact analyze_own_severity hcur hanalyze hf hunset (hstays hcase hd) hid

def oneRuleFile (written : String) : String :=
  "[[rules]]\nid=\"" ++ written ++ "\"\ntitle=\"t\"\ndescription=\"d\"\n" ++
    "severity=\"high\"\ncategory=\"error\"\nmatch=\x7btype=\"loop_pattern\",kind=\"x\"\x7d\n"

def oneRule (id : String) : Definition :=
  { id, title := "t", description := "d", severity := "high", category := "error"
    spec := .loop "x" }

def oneRulePath : Path := .ofText "rules.toml"

def oneRuleProject (written : String) : FileSystem Id :=
  ((Tree.empty (.ofText "/project")).put oneRulePath
    (.file (oneRuleFile written).toUTF8.data.toList)).fileSystem

def oneRuleEntries (written : String) : Entries :=
  [("rules", .table [("files", .ofTexts ["rules.toml"]), ("disable", .ofTexts [written])])]

def oneRuleSettings (disabled : String) : Settings :=
  { rules := { disabled := [disabled], files := ["rules.toml"] } }

theorem writtenId_reaches_team :
    ∃ settings own, ofEntries (oneRuleEntries " TEAM-001 ") = .ok settings ∧
      (settings.ownRules (oneRuleProject " TEAM-001 ") (.ofText ".")).run = .ok own ∧
      ∀ e ∈ (catalogOf builtinCatalog own).definitions, e.id ≠ "TEAM-001" := by
  have hsettings : ofEntries (oneRuleEntries " TEAM-001 ") = .ok (oneRuleSettings "TEAM-001") :=
    toOption_eq_some.mp (by decide +kernel)
  have hread : ((oneRuleProject " TEAM-001 ").readText oneRulePath).run =
      .ok (oneRuleFile " TEAM-001 ") := by decide +kernel
  have hrules : definitionsOfText oneRulePath.text (oneRuleFile " TEAM-001 ") =
      .ok [oneRule "TEAM-001"] := toOption_eq_some.mp (by decide +kernel)
  have hwritten : writtenIds (oneRuleFile " TEAM-001 ") = [" TEAM-001 "] := by decide +kernel
  have hadded : ((oneRuleSettings "TEAM-001").fileRules (oneRuleProject " TEAM-001 ")
      (.ofText ".")).run = .ok [oneRule "TEAM-001"] :=
    fileRules_one rfl (by decide +kernel) hread hrules
  obtain ⟨own, hown, hleft, -⟩ := writtenId_reaches hsettings hadded hrules
    (by rw [hwritten]; exact List.mem_cons_self) []
  exact ⟨_, own, hsettings, hown, (hleft (by decide +kernel)).1 (by decide +kernel)⟩

/-- Settings do not reach a rule by the id that its file has, if that is in lower case. -/
theorem writtenId_misses_lowercase :
    ∃ settings own, ofEntries (oneRuleEntries "my-rule") = .ok settings ∧
      (settings.ownRules (oneRuleProject "my-rule") (.ofText ".")).run = .ok own ∧
      writtenIds (oneRuleFile "my-rule") = ["my-rule"] ∧
      "my-rule" ∈ disabledAsWritten (rulesTable (oneRuleEntries "my-rule")) ∧
      ∃ e ∈ (catalogOf builtinCatalog own).definitions, e.id = "my-rule" := by
  have hsettings : ofEntries (oneRuleEntries "my-rule") = .ok (oneRuleSettings "MY-RULE") :=
    toOption_eq_some.mp (by decide +kernel)
  have hread : ((oneRuleProject "my-rule").readText oneRulePath).run =
      .ok (oneRuleFile "my-rule") := by decide +kernel
  have hrules : definitionsOfText oneRulePath.text (oneRuleFile "my-rule") =
      .ok [oneRule "my-rule"] := toOption_eq_some.mp (by decide +kernel)
  have hadded : ((oneRuleSettings "MY-RULE").fileRules (oneRuleProject "my-rule")
      (.ofText ".")).run = .ok [oneRule "my-rule"] :=
    fileRules_one rfl (by decide +kernel) hread hrules
  refine ⟨_, _, hsettings, ownRules_ok hadded, by decide +kernel, by decide +kernel,
    oneRule "my-rule", ?_, rfl⟩
  change oneRule "my-rule" ∈ (OwnRules.select ["MY-RULE"] [oneRule "my-rule"]).definitions
  exact List.mem_filter.mpr ⟨List.mem_append_right _ List.mem_cons_self, by decide +kernel⟩

end CodeAudit.Settings
