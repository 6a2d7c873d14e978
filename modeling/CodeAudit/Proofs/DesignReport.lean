import CodeAudit.Proofs.Idioms
import CodeAudit.Proofs.Levels

/-!
# Idioms that are there and idioms that are missing

The report on design idioms looks at an idiom in three ways: it lists the idioms that were found, it
names the ones that are missing, as those that do not have a name that was found, and it calls the
ones dominant whose confidence is high or of which many places are listed. If no two rules have one
name, the three views fit together (`analyzeDesign_partition`): each design idiom is found or
missing, by whether it shows in the code, and it is dominant by the number of lines on which it
shows.
-/

namespace CodeAudit.Advice

open CodeAudit.Rule (pattern)
open CodeAudit.Source (Buffer)

variable {code : String} {rules : List IdiomRule}

-- ---------------------------------------------------------------------------
-- Names
-- ---------------------------------------------------------------------------

def IdiomRule.showsIn (rule : IdiomRule) (code : String) : Bool :=
  rule.matchers.any (Advice.showsIn (Buffer.ofString code))

theorem IdiomRule.showsIn_eq_false_iff {rule : IdiomRule} : rule.showsIn code = false ↔
    ∀ m ∈ rule.matchers, m.Misses (Buffer.ofString code).text := by
  simp only [IdiomRule.showsIn, List.any_eq_false, Bool.not_eq_true, Rule.Matcher.misses_iff]
  rfl

theorem IdiomRule.showsIn_of_lineCount {rule : IdiomRule} (h : 1 ≤ rule.lineCount code) :
    rule.showsIn code = true := by
  rw [← Bool.not_eq_false, IdiomRule.showsIn, ← IdiomRule.places_eq_nil_iff]
  exact IdiomRule.lineCount_pos_iff.mp h

theorem detect?_cases (rule : IdiomRule) (code : String) :
    (rule.showsIn code = false ∧ rule.detect? (Buffer.ofString code) = none) ∨
    rule.showsIn code = true ∧
      ∃ d, rule.detect? (Buffer.ofString code) = some d ∧ Recognised code rule d := by
  cases hshows : rule.showsIn code with
  | false =>
    have hnone : rule.places code = [] := IdiomRule.places_eq_nil_iff.mpr hshows
    exact .inl ⟨rfl, by rw [detect?_eq, if_pos hnone]⟩
  | true =>
    refine .inr ⟨rfl, detect?_recognised fun hnone => ?_⟩
    rw [IdiomRule.showsIn, IdiomRule.places_eq_nil_iff.mp hnone] at hshows
    cases hshows

theorem exists_recognised (h : d ∈ detectIdioms rules (Buffer.ofString code)) :
    ∃ rule ∈ rules, Recognised code rule d := by
  obtain ⟨rule, hrule, hd⟩ := List.mem_filterMap.mp h
  obtain ⟨-, hnone⟩ | ⟨-, d', hd', hrecognised⟩ := detect?_cases rule code
  · cases hnone.symm.trans hd
  · obtain rfl := Option.some.inj (hd'.symm.trans hd)
    exact ⟨rule, hrule, hrecognised⟩

/-- The names of the idioms found that have a property are those of the rules that show and have the
property, if rules and idioms have it together. -/
theorem names_detectIdioms (rules : List IdiomRule) {p : DetectedIdiom → Bool}
    {q : IdiomRule → Bool} (h : ∀ rule d, Recognised code rule d → p d = q rule) :
    ((detectIdioms rules (Buffer.ofString code)).filter p).map (·.name) =
      (rules.filter fun rule => rule.showsIn code && q rule).map (·.name) := by
  induction rules with
  | nil => rfl
  | cons rule rules ih =>
    rw [detectIdioms] at ih ⊢
    obtain ⟨hshows, hnone⟩ | ⟨hshows, d, hd, hrecognised⟩ := detect?_cases rule code
    · rw [List.filterMap_cons_none hnone, List.filter_cons_of_neg (by simp [hshows]), ih]
    · rw [List.filterMap_cons_some hd]
      cases hq : q rule with
      | false =>
        rw [List.filter_cons_of_neg (by simp [h rule d hrecognised, hq]),
          List.filter_cons_of_neg (by simp [hq]), ih]
      | true =>
        rw [List.filter_cons_of_pos (by simp [h rule d hrecognised, hq]),
          List.filter_cons_of_pos (by simp [hshows, hq]), List.map_cons, List.map_cons, ih,
          hrecognised.name]

theorem mem_names_iff {table : List IdiomRule} (hnames : (table.map (·.name)).Nodup)
    (hrule : rule ∈ table) (keep : IdiomRule → Bool) :
    rule.name ∈ (table.filter keep).map (·.name) ↔ keep rule = true := by
  constructor
  · intro hmem
    obtain ⟨rule', hmem, hname⟩ := List.mem_map.mp hmem
    obtain ⟨hrule', hkeep⟩ := List.mem_filter.mp hmem
    exact List.inj_on_of_nodup_map hnames hrule' hrule hname ▸ hkeep
  · exact fun hkeep => List.mem_map_of_mem (List.mem_filter.mpr ⟨hrule, hkeep⟩)

-- ---------------------------------------------------------------------------
-- Reports
-- ---------------------------------------------------------------------------

def designRules (rules : List IdiomRule) : List IdiomRule :=
  rules.filter (·.level == "design")

theorem Recognised.isDominant {rule : IdiomRule} (h : Recognised code rule d) :
    d.isDominant = decide (3 ≤ rule.lineCount code) := by
  have hlisted : 3 ≤ d.locations.length ↔ 3 ≤ rule.lineCount code :=
    h.listed.high.symm.trans h.confidence.high
  rw [DetectedIdiom.isDominant, Bool.eq_iff_iff, Bool.or_eq_true, beq_iff_eq, decide_eq_true_eq,
    decide_eq_true_eq, h.confidence.high, hlisted, or_self]

/-- A report in which every design idiom of a table has its place. -/
structure Partitioned (code : String) (rules : List IdiomRule) (report : DesignReport) : Prop where
  perm : (report.idioms.map (·.idiom.name) ++ report.missing).Perm
    ((designRules rules).map (·.name))
  found : (report.idioms.map (·.idiom.name)).Sublist ((designRules rules).map (·.name))
  missing : report.missing.Sublist ((designRules rules).map (·.name))
  disjoint : (report.idioms.map (·.idiom.name)).Disjoint report.missing
  missing_iff : ∀ rule ∈ designRules rules, rule.name ∈ report.missing ↔
    ∀ m ∈ rule.matchers, m.Misses (Buffer.ofString code).text
  dominant : report.dominant.Sublist (report.idioms.map (·.idiom.name))
  dominant_iff : ∀ rule ∈ designRules rules, rule.name ∈ report.dominant ↔
    3 ≤ rule.lineCount code
  agree : ∀ d ∈ report.idioms, d.idiom.confidence = "high" ↔ 3 ≤ d.idiom.locations.length

theorem design_names (rules : List IdiomRule) (code : String) :
    ((detectIdioms rules (Buffer.ofString code)).filter (·.level == "design")).map (·.name) =
      ((designRules rules).filter (·.showsIn code)).map (·.name) := by
  rw [names_detectIdioms rules (q := (·.level == "design")) fun rule d h => by rw [h.level],
    designRules, List.filter_filter]

theorem design_dominant (rules : List IdiomRule) (code : String) :
    (((detectIdioms rules (Buffer.ofString code)).filter (·.level == "design")).filter
        (·.isDominant)).map (·.name) =
      ((designRules rules).filter (3 ≤ ·.lineCount code)).map (·.name) := by
  rw [List.filter_filter, names_detectIdioms rules
    (q := fun rule => decide (3 ≤ rule.lineCount code) && rule.level == "design")
    fun rule d h => by rw [h.level, h.isDominant], designRules, List.filter_filter]
  congr 1
  refine List.filter_congr fun rule _ => ?_
  by_cases hlines : 3 ≤ rule.lineCount code
  · rw [IdiomRule.showsIn_of_lineCount (by omega), Bool.true_and]
  · simp [hlines]

theorem design_missing (hnames : ((designRules rules).map (·.name)).Nodup) :
    (rules.filter fun r => r.level == "design" &&
        !(((designRules rules).filter (·.showsIn code)).map (·.name)).contains r.name) =
      (designRules rules).filter fun rule => !rule.showsIn code := by
  rw [show (designRules rules).filter (fun rule => !rule.showsIn code) =
    rules.filter fun rule => !rule.showsIn code && rule.level == "design" from List.filter_filter]
  refine List.filter_congr fun rule hrule => ?_
  cases hlevel : rule.level == "design" with
  | false => simp
  | true =>
    have hmem : rule ∈ designRules rules := List.mem_filter.mpr ⟨hrule, hlevel⟩
    rw [Bool.true_and, Bool.and_true]
    congr 1
    rw [Bool.eq_iff_iff, List.contains_iff_mem, mem_names_iff hnames hmem]

theorem partitioned_of_names {report : DesignReport}
    (hnames : ((designRules rules).map (·.name)).Nodup)
    (hfound : report.idioms.map (·.idiom.name) =
      ((designRules rules).filter (·.showsIn code)).map (·.name))
    (hmissing : report.missing =
      ((designRules rules).filter fun rule => !rule.showsIn code).map (·.name))
    (hdominant : report.dominant =
      ((designRules rules).filter (3 ≤ ·.lineCount code)).map (·.name))
    (hagree : ∀ d ∈ report.idioms, d.idiom.confidence = "high" ↔ 3 ≤ d.idiom.locations.length) :
    Partitioned code rules report := by
  have hperm : (report.idioms.map (·.idiom.name) ++ report.missing).Perm
      ((designRules rules).map (·.name)) := by
    rw [hfound, hmissing, ← List.map_append]
    exact (List.filter_append_perm _ _).map _
  constructor
  case perm => exact hperm
  case found =>
    rw [hfound]
    exact List.filter_sublist.map _
  case missing =>
    rw [hmissing]
    exact List.filter_sublist.map _
  case disjoint => exact List.disjoint_of_nodup_append (hperm.nodup_iff.mpr hnames)
  case missing_iff =>
    intro rule hrule
    rw [hmissing, mem_names_iff hnames hrule, Bool.not_eq_true', IdiomRule.showsIn_eq_false_iff]
  case dominant =>
    rw [hdominant, hfound]
    refine (List.monotone_filter_right _ fun rule hmany => ?_).map _
    have hlines : 3 ≤ rule.lineCount code := of_decide_eq_true hmany
    exact IdiomRule.showsIn_of_lineCount (by omega)
  case dominant_iff =>
    intro rule hrule
    rw [hdominant, mem_names_iff hnames hrule, decide_eq_true_eq]
  case agree => exact hagree

/-- Let the rules of a table have names of their own, and let a code be within the limit. Then there
is a report on its design idioms, and every design idiom of the table has its place in it. -/
theorem analyzeDesign_partition (hnames : (rules.map (·.name)).Nodup)
    (hcheck : (Buffer.ofString code).check limit = .ok ())
    (suggestionRules : List SuggestionRule) (filename : String) :
    ∃ report, analyzeDesign rules suggestionRules (Buffer.ofString code) filename limit =
      .ok report ∧ Partitioned code rules report := by
  have hdesign : ((designRules rules).map (·.name)).Nodup :=
    hnames.sublist (List.filter_sublist.map _)
  have hactions : ∀ s ∈ (suggest suggestionRules (Buffer.ofString code)).filter
      (·.level == "design"), ∃ item, s.action true = .ok item :=
    fun s hs => exists_action_of_mem (List.mem_filter.mp hs).1 true
  obtain ⟨items, hitems⟩ := exists_mapM_ok hactions
  simp only [analyzeDesign, hcheck, hitems, Except.mapError, ok_bind, pure_ok, design_names,
    design_dominant, design_missing hdesign]
  refine ⟨_, rfl, partitioned_of_names hdesign ?_ rfl rfl fun d hd => ?_⟩
  · simp only [List.map_map, Function.comp_def]
    exact design_names rules code
  · obtain ⟨found, hfound, rfl⟩ := List.mem_map.mp hd
    obtain ⟨rule, -, hrecognised⟩ := exists_recognised (List.mem_filter.mp hfound).1
    exact hrecognised.listed.high

/-- An idiom on six lines, of which five are listed, one that is missing, and one of another
level. -/
theorem analyzeDesign_partition_capped :
    let rules : List IdiomRule :=
      [{ id := "X-1", name := "Guards", level := "design", matchers := [pattern "g"] },
        { id := "X-2", name := "Loops", level := "implementation", matchers := [pattern "f"] },
        { id := "X-3", name := "Calls", level := "design", matchers := [pattern "f"] }]
    let buffer := Buffer.ofString "f\nf\nf\nf\nf\nf"
    (rules.map (·.name)).Nodup ∧ buffer.check (some 11) = .ok () ∧
      ∃ report, analyzeDesign rules [] buffer "a.ts" (some 11) = .ok report ∧
        Partitioned "f\nf\nf\nf\nf\nf" rules report ∧
        report.missing = ["Guards"] ∧ report.dominant = ["Calls"] := by
  intro rules buffer
  have hnames : (rules.map (·.name)).Nodup := by decide
  have hcheck : buffer.check (some 11) = .ok () := by decide
  obtain ⟨report, hreport, hpartitioned⟩ := analyzeDesign_partition hnames hcheck [] "a.ts"
  have hlists : (analyzeDesign rules [] buffer "a.ts" (some 11)).map
      (fun r => (r.missing, r.dominant)) = .ok (["Guards"], ["Calls"]) := by decide +kernel
  rw [hreport] at hlists
  obtain ⟨hmissing, hdominant⟩ := Prod.ext_iff.mp (Except.ok.inj hlists)
  exact ⟨hnames, hcheck, report, hreport, hpartitioned, hmissing, hdominant⟩

end CodeAudit.Advice
