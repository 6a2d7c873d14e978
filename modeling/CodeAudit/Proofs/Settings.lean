import CodeAudit.Proofs.Grammar
import CodeAudit.Proofs.Lookup
import CodeAudit.Proofs.Outcome
import CodeAudit.Proofs.Text
import CodeAudit.Settings

/-!
# Settings that are accepted

What the parts of accepted settings are, by the table that they were read from: the categories are
in scanning order, whatever the order in the table (`ofEntries_categories`), the rules that are left
out are named by the canonical forms of the ids in the table (`ofEntries_rules`), which are texts of
one shape (`isRuleId_iff`), of several severities for one rule the last one counts
(`readSeverities_last`), and all severities are known ones (`ofEntries_severities`).
-/

namespace CodeAudit.Settings

open CodeAudit.Text (strip lower upper upper_eq_self isBlank stripChars stripChars_around)

theorem ofEntries_ok_iff : ofEntries entries = .ok settings ↔
    readCategories (find? entries "categories") = .ok settings.categories ∧
    readLimit (find? entries "max-buffer-chars") = .ok settings.limit ∧
    readFailUnder (find? entries "fail-under") = .ok settings.failUnder ∧
    readRules ((entries.get? "rules").getD (.table [])) = .ok settings.rules ∧
    readLevel ((entries.get? "advisory").getD (.table [])) = .ok settings.level := by
  simp only [ofEntries, bind_eq_ok, pure_eq_ok]
  constructor
  · rintro ⟨_, hcategories, _, hlimit, _, hfail, _, hrules, _, hlevel, rfl⟩
    exact ⟨hcategories, hlimit, hfail, hrules, hlevel⟩
  · rintro ⟨hcategories, hlimit, hfail, hrules, hlevel⟩
    exact ⟨_, hcategories, _, hlimit, _, hfail, _, hrules, _, hlevel, rfl⟩

-- ---------------------------------------------------------------------------
-- Categories
-- ---------------------------------------------------------------------------

theorem filter_contains_filter (named : List String) (all : List String) :
    all.filter ((all.filter (named.contains ·)).contains ·) = all.filter (named.contains ·) := by
  refine List.filter_congr fun c hc => ?_
  simp [hc]

theorem readCategories_ordered (h : readCategories value = .ok cs) :
    Rule.categories.filter (cs.contains ·) = cs := by
  unfold readCategories at h
  split at h
  · cases h
    decide
  · cases h
    decide
  · simp only [bind_eq_ok, pure_eq_ok] at h
    obtain ⟨_, -, named, -, rfl⟩ := h
    exact filter_contains_filter named Rule.categories

theorem ofEntries_categories (h : ofEntries entries = .ok settings) :
    Rule.categories.filter (settings.categories.contains ·) = settings.categories :=
  readCategories_ordered (ofEntries_ok_iff.mp h).1

-- ---------------------------------------------------------------------------
-- Rule ids
-- ---------------------------------------------------------------------------

def canonicalId (text : String) : String := upper (strip text)

theorem map_canonicalId_strip (texts : List String) :
    (texts.map strip).map canonicalId = texts.map canonicalId := by
  simp [canonicalId]

/-- The texts of the form `[A-Z][A-Z0-9]*(-[A-Z0-9]+)*`. -/
def ShapedAsId (ruleId : String) : Prop :=
  ∃ (first : Char) (rest : List Char) (parts : List (List Char)),
    ruleId.toList = first :: rest ++ parts.flatMap ('-' :: ·) ∧
    first.isUpper ∧ (∀ c ∈ rest, isIdChar c) ∧ ∀ part ∈ parts, part ≠ [] ∧ ∀ c ∈ part, isIdChar c

theorem intercalate_cons (sep : α) (part : List α) (parts : List (List α)) :
    [sep].intercalate (part :: parts) = part ++ parts.flatMap (sep :: ·) := by
  induction parts generalizing part with
  | nil => simp
  | cons next parts ih =>
    rw [List.intercalate_cons_cons, ih]
    simp

/-- The texts that are accepted as rule ids are those of the right shape. -/
theorem isRuleId_iff : isRuleId ruleId ↔ ShapedAsId ruleId := by
  constructor
  · intro h
    unfold isRuleId at h
    split at h
    · cases h
    · rename_i part parts hparts
      simp only [Bool.and_eq_true, List.all_eq_true] at h
      obtain ⟨⟨hfirst, hpart⟩, hrest⟩ := h
      obtain ⟨first, rest, rfl⟩ : ∃ first rest, part = first :: rest :=
        List.exists_cons_of_ne_nil (by rintro rfl; cases hfirst)
      refine ⟨first, rest, parts, ?_, hfirst, (List.forall_mem_cons.mp hpart).2, fun p hp => ?_⟩
      · rw [← intercalate_cons, ← hparts, List.intercalate_splitOn]
      · simpa using hrest p hp
  · rintro ⟨first, rest, parts, hchars, hfirst, hrest, hparts⟩
    have hpart : ∀ c ∈ first :: rest, isIdChar c :=
      List.forall_mem_cons.mpr ⟨by simp [isIdChar, hfirst], hrest⟩
    -- No part has a dash in it, so the text falls apart into the same parts again.
    have hdash : ∀ part ∈ (first :: rest) :: parts, '-' ∉ part := by
      have hnone {part : List Char} (h : ∀ c ∈ part, isIdChar c) : '-' ∉ part :=
        fun hmem => absurd (h _ hmem) (by decide)
      exact List.forall_mem_cons.mpr ⟨hnone hpart, fun p hp => hnone (hparts p hp).2⟩
    have hsplit : ruleId.toList.splitOn '-' = (first :: rest) :: parts := by
      rw [hchars, ← intercalate_cons, List.splitOn_intercalate _ hdash (by simp)]
    simp only [isRuleId, hsplit, Bool.and_eq_true, List.all_eq_true]
    refine ⟨⟨hfirst, hpart⟩, fun p hp => ?_⟩
    simpa using hparts p hp

theorem isRuleId_chars {ruleId : String} (h : isRuleId ruleId) :
    ∀ c ∈ ruleId.toList, c = '-' ∨ isIdChar c := by
  obtain ⟨first, rest, parts, hchars, hfirst, hrest, hparts⟩ := isRuleId_iff.mp h
  intro c hc
  rw [hchars, List.cons_append, List.mem_cons, List.mem_append, List.mem_flatMap] at hc
  obtain rfl | hc | ⟨part, hpart, hc⟩ := hc
  · exact .inr (by simp [isIdChar, hfirst])
  · exact .inr (hrest c hc)
  · exact (List.mem_cons.mp hc).imp_right ((hparts part hpart).2 c)

theorem isIdChar_plain (h : isIdChar c) : c.toNat < 128 ∧ c.isLower = false := by
  have hupper : c.isUpper = decide (c.val ≥ 65 ∧ c.val ≤ 90) := rfl
  have hlower : c.isLower = (decide (c.val ≥ 97) && decide (c.val ≤ 122)) := rfl
  have hbounds : (65 ≤ c.toNat ∧ c.toNat ≤ 90) ∨ (48 ≤ c.toNat ∧ c.toNat ≤ 57) := by
    simpa [isIdChar, hupper, Char.isDigit, UInt32.le_iff_toNat_le] using h
  have houtside : ¬ (97 ≤ c.toNat ∧ c.toNat ≤ 122) := by omega
  exact ⟨by omega, by simpa [hlower, UInt32.le_iff_toNat_le] using houtside⟩

theorem upper_of_isRuleId {ruleId : String} (h : isRuleId ruleId) : upper ruleId = ruleId := by
  refine upper_eq_self fun c hc => ?_
  rcases isRuleId_chars h c hc with rfl | hc
  · decide
  · exact isIdChar_plain hc

theorem isBlank_idChar : ∀ n < 128,
    isIdChar (Char.ofNat n) → isBlank (Char.ofNat n) = false := by decide

theorem strip_of_isRuleId {ruleId : String} (h : isRuleId ruleId) : strip ruleId = ruleId := by
  have hblank : ∀ c ∈ ruleId.toList, isBlank c = false := by
    intro c hc
    rcases isRuleId_chars h c hc with rfl | hid
    · decide
    · simpa using isBlank_idChar c.toNat (isIdChar_plain hid).1 (by simpa using hid)
  have hne : ruleId.toList ≠ [] := by
    obtain ⟨first, rest, parts, hchars, -⟩ := isRuleId_iff.mp h
    simp [hchars]
  have hcore : stripChars ([] ++ ruleId.toList ++ []) = ruleId.toList :=
    stripChars_around rfl rfl hblank hne
  rw [List.nil_append, List.append_nil] at hcore
  rw [strip, hcore, String.ofList_toList]

theorem readRuleId_ok_iff {ruleId : String} :
    readRuleId field text = .ok ruleId ↔ canonicalId text = ruleId ∧ isRuleId ruleId := by
  simp only [readRuleId, canonicalId]
  split
  · rename_i hid
    simp only [Except.ok.injEq]
    exact ⟨fun h => ⟨h, h ▸ hid⟩, fun h => h.1⟩
  · rename_i hid
    simp only [reduceCtorEq, false_iff, not_and]
    rintro rfl
    exact hid

-- ---------------------------------------------------------------------------
-- Settings that concern rules
-- ---------------------------------------------------------------------------

def rulesTable (entries : Entries) : Entries :=
  match entries.get? "rules" with
  | some (.table rules) => rules
  | _ => []

/-- The ids of the rules that are left out, as a table of rule settings has them. -/
def disabledAsWritten (rules : Entries) : List String :=
  ((rules.get? "disable").bind Value.texts?).getD []

/-- The severities that are set, by rule ids as a table of rule settings has them. -/
def severitiesAsWritten (rules : Entries) : Entries :=
  match find? rules "severity-overrides" with
  | some (.table given) => given
  | _ => []

theorem readTexts_ok (h : readTexts field value = .ok texts) :
    texts = (value.texts?.getD []).map strip := by
  cases value with
  | null =>
    cases h
    rfl
  | list items =>
    simp only [readTexts] at h
    split at h
    · rename_i given hgiven
      cases h
      simp [hgiven]
    · cases h
  | _ => cases h

theorem readTexts_ofTexts (field : String) (texts : List String) :
    readTexts field (.ofTexts texts) = .ok (texts.map strip) := by
  have htexts : (Value.ofTexts texts).texts? = some texts := Rule.texts?_eq_some.mpr rfl
  rw [readTexts, htexts]
  exact fun hnull => nomatch hnull

theorem mapM_readRuleId_ok {texts ids : List String} {field : String → String}
    (h : texts.mapM (fun text => readRuleId (field text) text) = .ok ids) :
    ids = texts.map canonicalId ∧ ∀ ruleId ∈ ids, isRuleId ruleId := by
  have hall := mapM_eq_ok.mp h
  clear h
  induction hall with
  | nil => simp
  | cons hid _ ih =>
    obtain ⟨rfl, hvalid⟩ := readRuleId_ok_iff.mp hid
    obtain ⟨rfl, hrest⟩ := ih
    exact ⟨rfl, List.forall_mem_cons.mpr ⟨hvalid, hrest⟩⟩

theorem readRules_ok {rules : Entries} {settings : RuleSettings}
    (h : readRules (.table rules) = .ok settings) :
    settings.disabled = (disabledAsWritten rules).map canonicalId ∧
      (∀ ruleId ∈ settings.disabled, isRuleId ruleId) ∧
      readSeverities [] (severitiesAsWritten rules) = .ok settings.severities := by
  simp only [readRules, bind_eq_ok] at h
  obtain ⟨texts, htexts, ids, hids, files, -, h⟩ := h
  have hdisabled : ids = (disabledAsWritten rules).map canonicalId := by
    rw [(mapM_readRuleId_ok hids).1, readTexts_ok htexts, map_canonicalId_strip, disabledAsWritten]
    cases rules.get? "disable" with
    | none => simp [Value.texts?]
    | some value => simp
  have hvalid := (mapM_readRuleId_ok hids).2
  unfold severitiesAsWritten
  split at h
  all_goals
    simp only [bind_eq_ok, pure_eq_ok] at h
    obtain ⟨severities, hseverities, rfl⟩ := h
  · rename_i hgiven
    exact ⟨hdisabled, hvalid, by rw [hgiven, ← hseverities]; rfl⟩
  · rename_i hgiven
    exact ⟨hdisabled, hvalid, by rw [hgiven, ← hseverities]; rfl⟩
  · rename_i hgiven
    exact ⟨hdisabled, hvalid, by rw [hgiven]; exact hseverities⟩
  · cases hseverities

theorem ofEntries_rules (h : ofEntries entries = .ok settings) :
    settings.rules.disabled = (disabledAsWritten (rulesTable entries)).map canonicalId ∧
      (∀ ruleId ∈ settings.rules.disabled, isRuleId ruleId) ∧
      readSeverities [] (severitiesAsWritten (rulesTable entries)) =
        .ok settings.rules.severities := by
  obtain ⟨-, -, -, hrules, -⟩ := ofEntries_ok_iff.mp h
  unfold rulesTable
  cases hvalue : entries.get? "rules" with
  | none => exact readRules_ok (by simpa [hvalue] using hrules)
  | some value =>
    rw [hvalue] at hrules
    cases value with
    | table rules => exact readRules_ok hrules
    | null =>
      have hnone : settings.rules = {} := (Except.ok.inj hrules).symm
      rw [hnone]
      exact ⟨rfl, by simp, rfl⟩
    | _ => cases hrules

-- ---------------------------------------------------------------------------
-- Severities
-- ---------------------------------------------------------------------------

theorem lookup_setSeverity (target severity ruleId : String) (known : List (String × String)) :
    (setSeverity target severity known).lookup ruleId =
      if ruleId = target then some severity else known.lookup ruleId := by
  induction known with
  | nil => exact lookup_pair target severity [] ruleId
  | cons entry known ih =>
    obtain ⟨key, value⟩ := entry
    by_cases hkey : key = target
    · simp only [setSeverity, hkey, BEq.rfl, ↓reduceIte, lookup_pair]
      split <;> rfl
    · simp only [setSeverity, beq_iff_eq, hkey, ↓reduceIte, lookup_pair, ih]
      by_cases hid : ruleId = key
      · simp [hid, hkey]
      · simp [hid]

theorem readSeverities_cons_ok (h : readSeverities known ((key, value) :: rest) = .ok severities) :
    ∃ s, value = .str s ∧ isRuleId (canonicalId key) ∧
      readSeverities (setSeverity (canonicalId key) (lower (strip s)) known) rest =
        .ok severities := by
  simp only [readSeverities, bind_eq_ok] at h
  obtain ⟨ruleId, hid, severity, hseverity, hrest⟩ := h
  obtain ⟨rfl, hvalid⟩ := readRuleId_ok_iff.mp hid
  cases value with
  | str s =>
    simp only [readSeverity] at hseverity
    split at hseverity
    · rw [← Except.ok.inj hseverity] at hrest
      exact ⟨s, rfl, hvalid, hrest⟩
    · cases hseverity
  | _ => cases hseverity

theorem readSeverities_other (h : readSeverities known given = .ok severities)
    (hother : ∀ entry ∈ given, isRuleId (canonicalId entry.1) → canonicalId entry.1 ≠ ruleId) :
    severities.lookup ruleId = known.lookup ruleId := by
  induction given generalizing known with
  | nil =>
    cases h
    rfl
  | cons entry rest ih =>
    obtain ⟨s, -, hvalid, hrest⟩ := readSeverities_cons_ok h
    obtain ⟨hne, hother⟩ := List.forall_mem_cons.mp hother
    rw [ih hrest hother, lookup_setSeverity, if_neg (hne hvalid).symm]

theorem readSeverities_last
    (h : readSeverities known (before ++ (key, .str s) :: after) = .ok severities)
    (hlast : ∀ entry ∈ after, canonicalId entry.1 ≠ canonicalId key) :
    severities.lookup (canonicalId key) = some (lower (strip s)) := by
  induction before generalizing known with
  | nil =>
    obtain ⟨s', heq, -, hrest⟩ := readSeverities_cons_ok h
    cases heq
    rw [readSeverities_other hrest fun entry hentry _ => hlast entry hentry, lookup_setSeverity,
      if_pos rfl]
  | cons entry before ih =>
    obtain ⟨s', -, -, hrest⟩ := readSeverities_cons_ok h
    exact ih hrest

theorem readSeverity_known (h : readSeverity field value = .ok severity) :
    severity ∈ Rule.severities := by
  cases value with
  | str s =>
    simp only [readSeverity] at h
    split at h
    · rename_i hknown
      exact Except.ok.inj h ▸ List.contains_iff_mem.mp hknown
    · cases h
  | _ => cases h

theorem readSeverities_known (h : readSeverities known given = .ok severities)
    (hknown : ∀ ruleId severity, known.lookup ruleId = some severity →
      severity ∈ Rule.severities) :
    ∀ ruleId severity, severities.lookup ruleId = some severity → severity ∈ Rule.severities := by
  induction given generalizing known with
  | nil =>
    cases h
    exact hknown
  | cons entry rest ih =>
    obtain ⟨key, value⟩ := entry
    simp only [readSeverities, bind_eq_ok] at h
    obtain ⟨target, -, set, hset, hrest⟩ := h
    refine ih hrest fun ruleId severity hlookup => ?_
    rw [lookup_setSeverity] at hlookup
    split at hlookup
    · cases hlookup
      exact readSeverity_known hset
    · exact hknown ruleId severity hlookup

theorem ofEntries_severities (h : ofEntries entries = .ok settings)
    (hset : settings.rules.severities.lookup ruleId = some severity) :
    severity ∈ Rule.severities :=
  readSeverities_known (ofEntries_rules h).2.2 (by simp) ruleId severity hset

theorem ofEntries_lowercase (h : ofEntries entries = .ok settings) (hcase : upper ruleId ≠ ruleId) :
    ruleId ∉ settings.rules.disabled ∧ settings.rules.severities.lookup ruleId = none := by
  obtain ⟨-, hvalid, hseverities⟩ := ofEntries_rules h
  refine ⟨fun hmem => hcase (upper_of_isRuleId (hvalid ruleId hmem)), ?_⟩
  refine readSeverities_other hseverities fun entry _ hid heq => ?_
  rw [heq] at hid
  exact hcase (upper_of_isRuleId hid)

end CodeAudit.Settings
