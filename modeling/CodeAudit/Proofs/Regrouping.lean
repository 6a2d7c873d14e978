import CodeAudit.Proofs.Catalog
import Mathlib.Algebra.GroupWithZero.Nat
import Mathlib.Data.List.Perm.Basic

/-!
# Compiled tables by category

A catalog hands out the compiled rules of a table category by category. `compiled_regroups` says
that this neither loses nor repeats a rule, keeps the order of the table within a category, and
agrees with the counts, which are taken from the table before it is compiled.
-/

namespace CodeAudit.Rule

open CodeAudit.Scan (Request serveAll serveAll_current)

-- ---------------------------------------------------------------------------
-- Lists by key
-- ---------------------------------------------------------------------------

theorem filter_key_append_perm {f : α → String} {k : String} {keys : List String} (hk : k ∉ keys)
    (l : List α) :
    (l.filter (f · == k) ++ l.filter (keys.contains <| f ·)).Perm
      (l.filter ((k :: keys).contains <| f ·)) := by
  have hfirst : (l.filter ((k :: keys).contains <| f ·)).filter (f · == k) =
      l.filter (f · == k) := by
    rw [List.filter_filter]
    refine List.filter_congr fun x _ => ?_
    by_cases hx : f x = k <;> simp [hx]
  have hrest : (l.filter ((k :: keys).contains <| f ·)).filter (fun x => !f x == k) =
      l.filter (keys.contains <| f ·) := by
    rw [List.filter_filter]
    refine List.filter_congr fun x _ => ?_
    by_cases hx : f x = k <;> simp [hx, hk]
  rw [← hfirst, ← hrest]
  exact List.filter_append_perm _ _

theorem flatMap_filter_key_perm {f : α → String} {keys : List String} (hkeys : keys.Nodup)
    (l : List α) :
    (keys.flatMap fun k => l.filter (f · == k)).Perm (l.filter (keys.contains <| f ·)) := by
  induction keys with
  | nil => simp
  | cons k keys ih =>
    obtain ⟨hk, hkeys⟩ := List.nodup_cons.mp hkeys
    rw [List.flatMap_cons]
    exact ((ih hkeys).append_left _).trans (filter_key_append_perm hk l)

theorem flatMap_filter_perm {f : α → String} {keys : List String} (hkeys : keys.Nodup)
    {l : List α} (h : ∀ x ∈ l, f x ∈ keys) :
    (keys.flatMap fun k => l.filter (f · == k)).Perm l := by
  have hall : l.filter (keys.contains <| f ·) = l :=
    List.filter_eq_self.mpr fun x hx => List.contains_iff_mem.mpr (h x hx)
  have hperm := flatMap_filter_key_perm (f := f) hkeys l
  rwa [hall] at hperm

theorem sum_countP_key (f : α → String) {keys : List String} (hkeys : keys.Nodup)
    {l : List α} (h : ∀ x ∈ l, f x ∈ keys) :
    (keys.map fun k => l.countP (f · == k)).sum = l.length := by
  rw [← (flatMap_filter_perm hkeys h).length_eq, List.length_flatMap]
  simp only [List.countP_eq_length_filter]

-- ---------------------------------------------------------------------------
-- Rules by category
-- ---------------------------------------------------------------------------

theorem Compiles.filter_category (h : Compiles ds rules) (c : String) :
    Compiles (ds.filter (·.category == c)) (rules.filter (·.category == c)) := by
  refine List.rel_filter (fun d rule hc => ?_) h
  simp only [compile_category hc]

theorem Compiles.map_id (h : Compiles ds rules) : rules.map (·.id) = ds.map (·.id) := by
  induction h with
  | nil => rfl
  | cons hc _ ih => rw [List.map_cons, List.map_cons, compile_id hc, ih]

theorem compileAll_sound (h : compileAll ds = .ok rules) (hr : rule ∈ rules) :
    rule.matchers ≠ [] ∧ rule.severity ∈ severities ∧ rule.category ∈ categories := by
  obtain ⟨d, -, hc⟩ := compileAll_mem h hr
  obtain ⟨hseverity, hcategory, ms, -, hms, rfl⟩ := compile_ok_iff.mp hc
  exact ⟨hms, hseverity, hcategory⟩

theorem labels_of_compileAll (h : compileAll ds = .ok rules) (hd : d ∈ ds) :
    d.severity ∈ severities ∧ d.category ∈ categories := by
  obtain ⟨rule, -, hc⟩ := mem_compileAll h hd
  obtain ⟨hseverity, hcategory, -⟩ := compile_ok_iff.mp hc
  exact ⟨hseverity, hcategory⟩

theorem select_groupRules_none (rules : List Compiled) :
    Catalog.Grouping.select (groupRules rules) none =
      categories.flatMap fun c => rules.filter (·.category == c) := by
  simp only [Catalog.Grouping.select, groupRules]
  refine List.flatMap_congr fun c hc => ?_
  rw [List.lookup_graph _ hc]
  rfl

theorem select_none_eq (h : compileAll ds = .ok rules) :
    let listed := Catalog.Grouping.select (groupRules rules)
    listed none = listed (some "security") ++ listed (some "deceptive") ++
      listed (some "placeholder") ++ listed (some "error") := by
  intro listed
  simp only [listed, select_groupRules_none, categories, List.flatMap_cons, List.flatMap_nil,
    List.append_nil, List.append_assoc,
    select_groupRules fun rule hr => compileAll_category h hr]

theorem select_none_perm (h : compileAll ds = .ok rules) :
    (Catalog.Grouping.select (groupRules rules) none).Perm rules := by
  rw [select_groupRules_none]
  exact flatMap_filter_perm (by decide) fun rule hr => compileAll_category h hr

theorem Catalog.Current.compiled_ok {cat : Catalog} (hcur : cat.Current)
    (h : compileAll cat.definitions = .ok rules) (c : Option String) :
    ∃ cat', cat.compiled c = .ok (Catalog.Grouping.select (groupRules rules) c, cat') := by
  have hg : cat.grouping = .ok (groupRules rules) := by
    rw [hcur.grouping, h]
    rfl
  exact ⟨_, Catalog.compiled_ok_iff.mpr ⟨_, hg, rfl, rfl⟩⟩

-- ---------------------------------------------------------------------------
-- What a catalog hands out
-- ---------------------------------------------------------------------------

/-- Let a table compile, and let a catalog over it have served any requests. The catalog hands out
rules for each category and for all of them. The ids of all rules are distinct, and every rule has a
matcher and known labels. The rules of a category are the compiled forms of the rules of the table
in that category, in table order; all rules are those of the four categories one after the other,
and no others than the compiled table has. The counts by category are the numbers of rules that are
handed out, and the counts by category and by severity both add up to their total. -/
theorem compiled_regroups {definitions : List Definition}
    (h : compileAll definitions = .ok rules) (requests : List Request) :
    let cat := (serveAll { definitions } requests).2
    let stats := statsOf definitions
    ∃ listed : Option String → List Compiled,
      (∀ c, ∃ cat', cat.compiled c = .ok (listed c, cat')) ∧
      ((listed none).map (·.id)).Nodup ∧
      (∀ rule ∈ listed none,
        rule.matchers ≠ [] ∧ rule.severity ∈ severities ∧ rule.category ∈ categories) ∧
      (∀ c, Compiles (definitions.filter (·.category == c)) (listed (some c))) ∧
      listed none = listed (some "security") ++ listed (some "deceptive") ++
        listed (some "placeholder") ++ listed (some "error") ∧
      (listed none).Perm rules ∧
      stats.byCategory = categories.map (fun c => (c, (listed (some c)).length)) ∧
      stats.total = (stats.byCategory.map (·.2)).sum ∧
      stats.total = (stats.bySeverity.map (·.2)).sum ∧
      stats.total = (listed none).length := by
  intro cat stats
  obtain ⟨hcur, hdefs⟩ : cat.Current ∧ cat.definitions = definitions :=
    serveAll_current requests (Catalog.current_new definitions)
  obtain ⟨hnodup, hrules⟩ := compileAll_ok_iff.mp h
  have hperm := select_none_perm h
  have hlisted (c : String) : Compiles (definitions.filter (·.category == c))
      (Catalog.Grouping.select (groupRules rules) (some c)) := by
    rw [select_groupRules (fun rule hr => compileAll_category h hr) c]
    exact hrules.filter_category c
  refine ⟨Catalog.Grouping.select (groupRules rules), hcur.compiled_ok (hdefs ▸ h), ?_, ?_,
    hlisted, select_none_eq h, hperm, ?_, ?_, ?_, ?_⟩
  · rw [(hperm.map _).nodup_iff, hrules.map_id]
    exact hnodup
  · exact fun rule hr => compileAll_sound h (hperm.mem_iff.mp hr)
  · refine List.map_congr_left fun c _ => ?_
    rw [← (hlisted c).length_eq, List.countP_eq_length_filter]
  · have hsum : (categories.map fun c => definitions.countP (·.category == c)).sum = _ :=
      sum_countP_key Definition.category (by decide) fun d hd => (labels_of_compileAll h hd).2
    simpa [stats, statsOf, Function.comp_def] using hsum.symm
  · have hsum : (severities.map fun s => definitions.countP (·.severity == s)).sum = _ :=
      sum_countP_key Definition.severity (by decide) fun d hd => (labels_of_compileAll h hd).1
    simpa [stats, statsOf, Function.comp_def] using hsum.symm
  · rw [hperm.length_eq]
    exact hrules.length_eq

def mixedTable : List Definition :=
  [{ id := "E-1", title := "t", description := "d", severity := "low", category := "error",
      spec := .loop "infinite" },
    { id := "S-1", title := "t", description := "d", severity := "high", category := "security",
      spec := .comparison ["==", "==="] }]

theorem compiled_regroups_mixed :
    ∃ rules, ∃ listed : Option String → List Compiled, compileAll mixedTable = .ok rules ∧
      listed none = listed (some "security") ++ listed (some "deceptive") ++
        listed (some "placeholder") ++ listed (some "error") ∧
      (listed none).Perm rules ∧
      (statsOf mixedTable).byCategory = categories.map (fun c => (c, (listed (some c)).length)) ∧
      (statsOf mixedTable).total = (listed none).length := by
  obtain ⟨rules, hrules⟩ : ∃ rules, compileAll mixedTable = .ok rules :=
    exists_compileAll (by decide) (by decide +kernel)
  obtain ⟨listed, -, -, -, -, hall, hperm, hcounts, -, -, htotal⟩ := compiled_regroups hrules []
  exact ⟨rules, listed, hrules, hall, hperm, hcounts, htotal⟩

end CodeAudit.Rule
