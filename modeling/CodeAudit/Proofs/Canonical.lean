import CodeAudit.Proofs.Categories
import CodeAudit.Proofs.SettingFaults

/-!
# Canonical settings

Whatever a table of settings holds, either it is refused with a report about one of the settings, or
what is read from it is in canonical form and is read again from the table that writes it out
(`ofEntries_canonical`). The canonical settings are all that can be read (`canonical_iff`).
-/

namespace CodeAudit

open CodeAudit.Text (strip)

-- ---------------------------------------------------------------------------
-- Canonical forms and how they are written
-- ---------------------------------------------------------------------------

namespace Settings

/-- Known severities, each for another rule, by ids of the right shape. -/
structure Overrides (severities : List (String × String)) : Prop where
  valid : ∀ entry ∈ severities, ShapedAsId entry.1 ∧ entry.2 ∈ Rule.severities
  distinct : (severities.map (·.1)).Nodup

def underscored (key : String) : String := key.map fun c => if c == '-' then '_' else c

/-- A key in one of its two spellings, as is chosen for each key. -/
def spelt (dashed : String → Bool) (key : String) : String :=
  if dashed key then key else underscored key

end Settings

namespace RuleSettings

/-- Settings of rules in canonical form: ids of the right shape, files without blanks around them,
and severities that rules can have. -/
structure Canonical (rules : RuleSettings) : Prop where
  disabled : ∀ ruleId ∈ rules.disabled, Settings.ShapedAsId ruleId
  files : ∀ file ∈ rules.files, strip file = file
  severities : Settings.Overrides rules.severities

def severityEntries (severities : List (String × String)) : Entries :=
  severities.map fun (ruleId, severity) => (ruleId, .str severity)

def toEntries (dashed : String → Bool) (rules : RuleSettings) : Entries :=
  [("disable", .ofTexts rules.disabled), ("files", .ofTexts rules.files),
    (Settings.spelt dashed "severity-overrides", .table (severityEntries rules.severities))]

end RuleSettings

namespace Settings

/-- Settings in canonical form: known categories in scanning order, each once, no limit or a
positive one, a score from 0 to 100, canonical settings of rules and a known level. -/
structure Canonical (settings : Settings) : Prop where
  categories : settings.categories.Sublist Rule.categories ∧ settings.categories.Nodup
  limit : ∀ n, settings.limit = some n → 0 < n
  failUnder : 0 ≤ settings.failUnder ∧ settings.failUnder ≤ 100
  rules : settings.rules.Canonical
  level : settings.level ∈ Advice.levelFilters

/-- The table that writes out settings. No limit is written as zero. -/
def toEntries (dashed : String → Bool) (settings : Settings) : Entries :=
  [("categories", .ofTexts settings.categories),
    (spelt dashed "max-buffer-chars", .int (settings.limit.getD 0)),
    (spelt dashed "fail-under", .int settings.failUnder),
    ("rules", .table (settings.rules.toEntries dashed)),
    ("advisory", .table [("level", .str settings.level)])]

end Settings

end CodeAudit

namespace CodeAudit.Settings

open CodeAudit.RuleSettings (severityEntries)
open CodeAudit.Text (strip lower strip_strip)

-- ---------------------------------------------------------------------------
-- What is read is canonical
-- ---------------------------------------------------------------------------

theorem readLimit_ok {limit : Option Int} (h : readLimit value = .ok limit) :
    ∀ n, limit = some n → 0 < n := by
  simp only [readLimit, bind_eq_ok] at h
  obtain ⟨n, -, h⟩ := h
  split at h
  · cases h
  · rename_i hnegative
    rintro m rfl
    simp only [pure_eq_ok, beq_iff_eq] at h
    split at h
    · cases h
    · cases h
      omega

theorem readFailUnder_ok (h : readFailUnder value = .ok n) : 0 ≤ n ∧ n ≤ 100 := by
  simp only [readFailUnder, bind_eq_ok] at h
  obtain ⟨n, -, h⟩ := h
  split at h
  · cases h
  · rename_i hrange
    cases h
    simpa using hrange

theorem readRules_files {rules : RuleSettings} (h : readRules value = .ok rules) :
    ∀ file ∈ rules.files, strip file = file := by
  unfold readRules at h
  split at h
  · cases h
    simp
  · simp only [bind_eq_ok] at h
    obtain ⟨_, -, _, -, files, hfiles, h⟩ := h
    have hstripped : ∀ file ∈ files, strip file = file := by
      rw [readTexts_ok hfiles]
      exact List.forall_mem_map.mpr fun file _ => strip_strip file
    split at h
    all_goals
      simp only [bind_eq_ok, pure_eq_ok] at h
      obtain ⟨_, -, rfl⟩ := h
      exact hstripped
  · cases h

theorem readLevel_ok {level : String} (h : readLevel value = .ok level) :
    level ∈ Advice.levelFilters := by
  unfold readLevel at h
  split at h
  · cases h
    decide
  · split at h
    · dsimp only at h
      split at h
      · rename_i hknown
        exact Except.ok.inj h ▸ List.contains_iff_mem.mp hknown
      · cases h
    · cases h
  · cases h

-- A severity is set as an entry of a table is put, so what is known of `Entries.put` carries over.
theorem severityEntries_setSeverity (ruleId severity : String) (known : List (String × String)) :
    severityEntries (setSeverity ruleId severity known) =
      (severityEntries known).put ruleId (.str severity) := by
  induction known with
  | nil => rfl
  | cons entry known ih =>
    obtain ⟨key, value⟩ := entry
    simp only [severityEntries, setSeverity, List.map_cons, Entries.put] at ih ⊢
    split
    · rfl
    · rw [List.map_cons, ih]

theorem keys_severityEntries (severities : List (String × String)) :
    (severityEntries severities).keys = severities.map (·.1) := by
  simp [severityEntries, Entries.keys]

theorem mem_setSeverity (h : entry ∈ setSeverity ruleId severity known) :
    entry = (ruleId, severity) ∨ entry ∈ known := by
  induction known with
  | nil => exact .inl (List.mem_singleton.mp h)
  | cons first known ih =>
    obtain ⟨key, value⟩ := first
    unfold setSeverity at h
    split at h
    · rename_i hkey
      rw [beq_iff_eq.mp hkey] at h
      exact (List.mem_cons.mp h).imp_right (List.mem_cons_of_mem _)
    · obtain rfl | h := List.mem_cons.mp h
      · exact .inr List.mem_cons_self
      · exact (ih h).imp_right (List.mem_cons_of_mem _)

theorem Overrides.setSeverity (h : Overrides known) (hid : ShapedAsId ruleId)
    (hseverity : severity ∈ Rule.severities) : Overrides (setSeverity ruleId severity known) := by
  obtain ⟨hall, hdistinct⟩ := h
  constructor
  · intro entry hentry
    obtain rfl | hentry := mem_setSeverity hentry
    · exact ⟨hid, hseverity⟩
    · exact hall entry hentry
  · rw [← keys_severityEntries] at hdistinct ⊢
    rw [severityEntries_setSeverity]
    exact Entries.nodup_put hdistinct

theorem readSeverities_overrides (h : readSeverities known given = .ok severities)
    (hknown : Overrides known) : Overrides severities := by
  induction given generalizing known with
  | nil =>
    cases h
    exact hknown
  | cons entry given ih =>
    simp only [readSeverities, bind_eq_ok] at h
    obtain ⟨ruleId, hid, severity, hseverity, hrest⟩ := h
    have hshape : ShapedAsId ruleId := isRuleId_iff.mp (readRuleId_ok_iff.mp hid).2
    exact ih hrest (hknown.setSeverity hshape (readSeverity_known hseverity))

theorem ofEntries_ok (h : ofEntries entries = .ok settings) : settings.Canonical := by
  obtain ⟨-, hvalid, hread⟩ := ofEntries_rules h
  have hoverrides : Overrides settings.rules.severities :=
    readSeverities_overrides hread ⟨by simp, by simp⟩
  have hcategories : settings.categories.Sublist Rule.categories := by
    rw [← ofEntries_categories h]
    exact List.filter_sublist
  obtain ⟨-, hlimit, hfail, hrules, hlevel⟩ := ofEntries_ok_iff.mp h
  exact {
    categories := ⟨hcategories, hcategories.nodup (by decide)⟩
    limit := readLimit_ok hlimit
    failUnder := readFailUnder_ok hfail
    rules := {
      disabled := fun ruleId hid => isRuleId_iff.mp (hvalid ruleId hid)
      files := readRules_files hrules
      severities := hoverrides }
    level := readLevel_ok hlevel }

-- ---------------------------------------------------------------------------
-- What is canonical is read
-- ---------------------------------------------------------------------------

variable {settings : Settings} {rules : RuleSettings}

theorem find?_eq (entries : Entries) (key : String) :
    find? entries key = (entries.get? key).or (entries.get? (underscored key)) := by
  unfold find?
  split
  · rename_i value hvalue
    rw [hvalue, Option.some_or]
  · rename_i hnone
    rw [hnone, Option.none_or]
    rfl

theorem underscored_keys : underscored "categories" = "categories" ∧
    underscored "max-buffer-chars" = "max_buffer_chars" ∧
    underscored "fail-under" = "fail_under" ∧
    underscored "severity-overrides" = "severity_overrides" := by
  decide +kernel

theorem find?_toEntries (dashed : String → Bool) (settings : Settings) :
    let entries := settings.toEntries dashed
    find? entries "categories" = some (.ofTexts settings.categories) ∧
    find? entries "max-buffer-chars" = some (.int (settings.limit.getD 0)) ∧
    find? entries "fail-under" = some (.int settings.failUnder) ∧
    entries.get? "rules" = some (.table (settings.rules.toEntries dashed)) ∧
    entries.get? "advisory" = some (.table [("level", .str settings.level)]) := by
  obtain ⟨hcategories, hlimit, hfail, -⟩ := underscored_keys
  cases hl : dashed "max-buffer-chars" <;> cases hf : dashed "fail-under" <;>
    simp [find?_eq, toEntries, Entries.get?, spelt, lookup_pair, hcategories, hlimit, hfail, hl, hf]

theorem lookup_ruleEntries (dashed : String → Bool) (rules : RuleSettings) :
    let entries := rules.toEntries dashed
    entries.get? "disable" = some (.ofTexts rules.disabled) ∧
    entries.get? "files" = some (.ofTexts rules.files) ∧
    find? entries "severity-overrides" = some (.table (severityEntries rules.severities)) := by
  obtain ⟨-, -, -, hseverities⟩ := underscored_keys
  cases hs : dashed "severity-overrides" <;>
    simp [find?_eq, RuleSettings.toEntries, Entries.get?, spelt, lookup_pair, hseverities, hs]

theorem map_eq_self {f : α → α} {xs : List α} (h : ∀ x ∈ xs, f x = x) : xs.map f = xs :=
  (List.map_congr_left h).trans (List.map_id xs)

theorem readCategories_written {cs : List String} (h : cs.Sublist Rule.categories) :
    readCategories (some (.ofTexts cs)) = .ok cs := by
  have hself : ∀ c ∈ cs, lower (strip c) = c := fun c hc =>
    (Rule.labels_letters c (List.mem_append_right _ (h.subset hc))).2
  have hnames : Command.categoryNames cs = cs := map_eq_self hself
  have hknown : Command.AllKnown cs := fun name hname => h.subset (hnames ▸ hname)
  rw [Command.readCategories_ofTexts, if_pos hknown, Command.selection, hnames,
    Command.filter_contains_sublist h (by decide)]

theorem readTexts_written (field : String) {texts : List String}
    (h : ∀ text ∈ texts, strip text = text) : readTexts field (.ofTexts texts) = .ok texts := by
  rw [readTexts_ofTexts, map_eq_self h]

theorem readLimit_written {limit : Option Int} (h : ∀ n, limit = some n → 0 < n) :
    readLimit (some (.int (limit.getD 0))) = .ok limit := by
  cases limit with
  | none => rfl
  | some n =>
    have hpos : 0 < n := h n rfl
    have hnonneg : ¬ n < 0 := by omega
    have hne : n ≠ 0 := by omega
    simp [readLimit, readInteger, ok_bind, pure_ok, hnonneg, hne]

theorem readFailUnder_written {n : Int} (h : 0 ≤ n ∧ n ≤ 100) :
    readFailUnder (some (.int n)) = .ok n := by
  have hlow : ¬ n < 0 := by omega
  have hhigh : ¬ 100 < n := by omega
  simp [readFailUnder, readInteger, ok_bind, pure_ok, hlow, hhigh]

theorem readRuleId_written (field : String) (h : ShapedAsId ruleId) :
    readRuleId field ruleId = .ok ruleId := by
  have hid : isRuleId ruleId := isRuleId_iff.mpr h
  have hself : canonicalId ruleId = ruleId := by
    rw [canonicalId, strip_of_isRuleId hid, upper_of_isRuleId hid]
  exact readRuleId_ok_iff.mpr ⟨hself, hid⟩

theorem readSeverity_written (field : String) (h : severity ∈ Rule.severities) :
    readSeverity field (.str severity) = .ok severity := by
  have hself : lower (strip severity) = severity :=
    (Rule.labels_letters severity (List.mem_append_left _ h)).2
  simp [readSeverity, hself, h]

theorem setSeverity_fresh (h : ruleId ∉ known.map (·.1)) :
    setSeverity ruleId severity known = known ++ [(ruleId, severity)] := by
  induction known with
  | nil => rfl
  | cons entry known ih =>
    obtain ⟨key, value⟩ := entry
    obtain ⟨hne, hrest⟩ := not_or.mp (mt List.mem_cons.mpr h)
    rw [setSeverity, if_neg (by simpa using Ne.symm hne), ih hrest]
    rfl

theorem readSeverities_written (h : Overrides (known ++ severities)) :
    readSeverities known (severityEntries severities) = .ok (known ++ severities) := by
  induction severities generalizing known with
  | nil => simp [severityEntries, readSeverities]
  | cons entry severities ih =>
    obtain ⟨ruleId, severity⟩ := entry
    obtain ⟨hid, hseverity⟩ := h.valid (ruleId, severity) (by simp)
    have hfresh : ruleId ∉ known.map (·.1) := by
      have hdistinct := h.distinct
      rw [List.map_append, List.map_cons, List.nodup_middle, List.nodup_cons] at hdistinct
      exact fun hmem => hdistinct.1 (List.mem_append_left _ hmem)
    have hrest : readSeverities (known ++ [(ruleId, severity)]) (severityEntries severities) =
        .ok (known ++ [(ruleId, severity)] ++ severities) :=
      ih (by simpa using h)
    rw [List.append_assoc, List.singleton_append] at hrest
    rw [severityEntries, List.map_cons, readSeverities, readRuleId_written _ hid, ok_bind,
      readSeverity_written _ hseverity, ok_bind, setSeverity_fresh hfresh]
    exact hrest

theorem readRules_written (dashed : String → Bool) (h : rules.Canonical) :
    readRules (.table (rules.toEntries dashed)) = .ok rules := by
  obtain ⟨hdisable, hfiles, hseverities⟩ := lookup_ruleEntries dashed rules
  have hstripped : ∀ ruleId ∈ rules.disabled, strip ruleId = ruleId := fun ruleId hid =>
    strip_of_isRuleId (isRuleId_iff.mpr (h.disabled ruleId hid))
  have hids (field : String) :
      rules.disabled.mapM (fun text => readRuleId (field ++ "." ++ text) text) =
        .ok rules.disabled :=
    mapM_eq_ok.mpr (List.forall₂_same.mpr fun ruleId hid =>
      readRuleId_written _ (h.disabled ruleId hid))
  have hoverrides : readSeverities [] (severityEntries rules.severities) = .ok rules.severities :=
    readSeverities_written h.severities
  simp only [readRules, hdisable, hfiles, hseverities, Option.getD_some,
    readTexts_written _ hstripped, readTexts_written _ h.files, hids, hoverrides, ok_bind, pure_ok]

theorem levels_self : ∀ level ∈ Advice.levelFilters, lower (strip level) = level := by
  decide +kernel

theorem readLevel_written {level : String} (h : level ∈ Advice.levelFilters) :
    readLevel (.table [("level", .str level)]) = .ok level := by
  simp [readLevel, Entries.get?, levels_self level h, h]

theorem ofEntries_written (dashed : String → Bool) (h : settings.Canonical) :
    ofEntries (settings.toEntries dashed) = .ok settings := by
  obtain ⟨hcategories, hlimit, hfail, hrules, hlevel⟩ := find?_toEntries dashed settings
  rw [ofEntries_ok_iff, hcategories, hlimit, hfail, hrules, hlevel, Option.getD_some,
    Option.getD_some]
  exact ⟨readCategories_written h.categories.1, readLimit_written h.limit,
    readFailUnder_written h.failUnder, readRules_written dashed h.rules, readLevel_written h.level⟩

theorem canonical_iff : settings.Canonical ↔ ∃ entries, ofEntries entries = .ok settings :=
  ⟨fun h => ⟨settings.toEntries fun _ => true, ofEntries_written _ h⟩, fun ⟨_, h⟩ => ofEntries_ok h⟩

/-- Any table is either refused, with a report that starts with the name of a setting, or read as
settings in canonical form, which are read again from the table that writes them out. All settings
in canonical form are read from some table. -/
theorem ofEntries_canonical :
    (∀ entries, (∃ e, ofEntries entries = .error e ∧ ∃ key ∈ keys, e.Blames key) ∨
      ∃ settings, ofEntries entries = .ok settings ∧ settings.Canonical ∧
        ∀ dashed, ofEntries (settings.toEntries dashed) = .ok settings) ∧
    ∀ settings : Settings, settings.Canonical → ∃ entries, ofEntries entries = .ok settings := by
  refine ⟨fun entries => ?_, fun settings => canonical_iff.mp⟩
  cases h : ofEntries entries with
  | error e => exact .inl ⟨e, rfl, ofEntries_error h⟩
  | ok settings =>
    have hcanonical : settings.Canonical := ofEntries_ok h
    exact .inr ⟨settings, rfl, hcanonical, fun dashed => ofEntries_written dashed hcanonical⟩

example :
    let rules : Entries := [("disable", .ofTexts [" cs-sec001 "]),
      ("severity_overrides", .table [("cs-a", .str "LOW"), ("CS-A", .str "high")])]
    ofEntries [("categories", .ofTexts [" Error", "SECURITY"]), ("max_buffer_chars", .int 0),
        ("rules", .table rules)] =
      .ok {
        categories := ["security", "error"]
        limit := none
        rules := { disabled := ["CS-SEC001"], severities := [("CS-A", "high")] } } := by
  decide +kernel

end CodeAudit.Settings
