import CodeAudit.Files.Tree
import CodeAudit.Proofs.Builtin
import CodeAudit.Proofs.Findings
import CodeAudit.Proofs.Settings
import CodeAudit.Settings.Rules

/-!
# Settings only choose among findings

The rules of a project are the built-in ones and those of its rule files, without the ones it
leaves out. `analyze_chosen` compares the analysis by these rules with the one by all of them: the
settings leave findings out and change nothing else.
-/

namespace CodeAudit.Settings

open CodeAudit.Files (FileSystem Path Tree)
open CodeAudit.Rule
open CodeAudit.Scan (Request analyze reportOf analyze_ok reportOf_filter serveAll serveAll_current)
open CodeAudit.Source (Buffer)

-- ---------------------------------------------------------------------------
-- The rules of a project
-- ---------------------------------------------------------------------------

def fileRules [Monad m] (fs : FileSystem m) (settings : Settings) (root : Path) :
    m (Except FileError (List Definition)) :=
  Rule.loadFiles fs (settings.rules.files.map fun file => root.join (.ofText file))

def ownOf (settings : Settings) (added : List Definition) : Option OwnRules :=
  if settings.sharesRules then none else some (.select settings.rules.disabled added)

theorem sharesRules_iff {settings : Settings} :
    settings.sharesRules = true ↔ settings.rules.files = [] ∧ settings.rules.disabled = [] := by
  simp [sharesRules]

/-- Files are read even if there are none to read: the shared catalog is no special case. -/
theorem ownRules_eq [Monad m] [LawfulMonad m] (fs : FileSystem m) (settings : Settings)
    (root : Path) :
    settings.ownRules fs root = (·.map settings.ownOf) <$> settings.fileRules fs root := by
  unfold ownRules fileRules ownOf
  cases hshares : settings.sharesRules with
  | true =>
    obtain ⟨hfiles, -⟩ := sharesRules_iff.mp hshares
    simp [hfiles, Rule.loadFiles, Except.map]
  | false =>
    simp only [Bool.false_eq_true, ↓reduceIte, map_eq_pure_bind]
    congr 1
    funext loaded
    cases loaded <;> rfl

theorem fileRules_none {fs : FileSystem Id} {settings : Settings}
    (hnone : settings.rules.files = []) (h : (settings.fileRules fs root).run = .ok added) :
    added = [] := by
  simpa [fileRules, hnone, Rule.loadFiles] using h.symm

theorem fileRules_one {fs : FileSystem Id} {settings : Settings}
    (hone : settings.rules.files = [file]) (hpath : root.join (.ofText file) = path)
    (hread : (fs.readText path).run = .ok text)
    (hrules : definitionsOfText path.text text = .ok added) :
    (settings.fileRules fs root).run = .ok added := by
  simp [fileRules, hone, hpath, Rule.loadFiles, Rule.loadFile, hread, hrules]

theorem catalogOf_definitions {settings : Settings} {shared : Catalog} (hshared : shared.Current)
    (hbuiltin : shared.definitions = builtinDefinitions)
    (hadded : settings.rules.files = [] → added = []) :
    (catalogOf shared (settings.ownOf added)).Current ∧
      (catalogOf shared (settings.ownOf added)).definitions =
        (builtinDefinitions ++ added).filter (!settings.rules.disabled.contains ·.id) := by
  cases hshares : settings.sharesRules with
  | true =>
    obtain ⟨hfiles, hdisabled⟩ := sharesRules_iff.mp hshares
    obtain rfl := hadded hfiles
    refine ⟨by simpa [ownOf, hshares, catalogOf] using hshared, ?_⟩
    simp [ownOf, hshares, catalogOf, hbuiltin, hdisabled]
  | false =>
    refine ⟨.inl (by simp [ownOf, hshares, catalogOf]), ?_⟩
    simp [ownOf, hshares, catalogOf, OwnRules.select]

theorem ownRules_ok {fs : FileSystem Id} {settings : Settings}
    (hfiles : (settings.fileRules fs root).run = .ok added) :
    (settings.ownRules fs root).run = .ok (settings.ownOf added) := by
  rw [ownRules_eq, Id.run_map, hfiles]
  rfl

-- ---------------------------------------------------------------------------
-- The analysis of a project
-- ---------------------------------------------------------------------------

/-- Let the built-in rules and those of the rule files compile together. Then the analysis that
accepted settings ask for succeeds on every text within the limit, with the catalog they select:
their own, or the built-in one, which others may have used before. Its findings are those of the
analysis by all rules and in all categories with the same severities, without the rules that are
left out and the categories that are not set, in the same order. The strengths are the same and the
score is no lower.

Premises: the settings are accepted, the rule files can be read, the text is within the limit. -/
theorem analyze_chosen (hsettings : ofEntries entries = .ok settings) {fs : FileSystem Id}
    (hfiles : (settings.fileRules fs root).run = .ok added)
    (hcompiles : compileAll (builtinDefinitions ++ added) = .ok compiled)
    (hsize : (Buffer.ofString code).check settings.limit = .ok ())
    (requests : List Request) (filename timestamp : String) :
    let shared := (serveAll builtinCatalog requests).2
    let all : Catalog := { definitions := builtinDefinitions ++ added }
    let buffer := Buffer.ofString code
    ∃ own chosen full cat cat',
      (settings.ownRules fs root).run = .ok own ∧
      (own = none ↔ settings.rules.files = [] ∧ settings.rules.disabled = []) ∧
      analyze (catalogOf shared own) settings buffer filename timestamp = .ok (chosen, cat) ∧
      analyze all { settings with categories := Rule.categories } buffer filename timestamp =
        .ok (full, cat') ∧
      chosen.findings = full.findings.filter (fun f =>
        !settings.rules.disabled.contains f.ruleId && settings.categories.contains f.category) ∧
      chosen.strengths = full.strengths ∧ full.summary.score ≤ chosen.summary.score := by
  intro shared all buffer
  obtain ⟨hshared, hbuiltin⟩ : shared.Current ∧ shared.definitions = builtinDefinitions :=
    serveAll_current requests (Catalog.current_new builtinDefinitions)
  obtain ⟨hcur, hdefs⟩ := catalogOf_definitions hshared hbuiltin
    fun hnone => fileRules_none hnone hfiles
  have hchosen : compileAll (catalogOf shared (settings.ownOf added)).definitions =
      .ok (compiled.filter (!settings.rules.disabled.contains ·.id)) := by
    rw [hdefs]
    exact compileAll_filter hcompiles fun id => !settings.rules.disabled.contains id
  obtain ⟨cat, hanalyze, -⟩ := analyze_ok hcur hchosen hsize
  have hall : all.Current := Catalog.current_new (builtinDefinitions ++ added)
  obtain ⟨cat', hfull, -⟩ : ∃ cat',
      analyze all { settings with categories := Rule.categories } buffer filename timestamp =
        .ok (reportOf compiled { settings with categories := Rule.categories } buffer filename
          timestamp, cat') ∧ _ :=
    analyze_ok hall hcompiles hsize
  obtain ⟨hfindings, hstrengths, hscore⟩ := reportOf_filter
    (fun id => !settings.rules.disabled.contains id) compiled (ofEntries_categories hsettings)
    timestamp
  refine ⟨settings.ownOf added, _, _, cat, cat', ownRules_ok hfiles, ?_, hanalyze, hfull, hfindings,
    hstrengths, hscore⟩
  rw [← sharesRules_iff]
  simp [ownOf]

def chosenEntries : Entries :=
  [("categories", .ofTexts ["Error", "security"]),
    ("rules", .table [("disable", .ofTexts ["cs-sec030"]),
      ("severity-overrides", .table [("CS-SEC031", .str "Low")])])]

def chosenSettings : Settings where
  categories := ["security", "error"]
  rules := { disabled := ["CS-SEC030"], severities := [("CS-SEC031", "low")] }

theorem analyze_chosen_security :
    ∃ own chosen full cat cat', ofEntries chosenEntries = .ok chosenSettings ∧
      (chosenSettings.ownRules (Tree.empty (.ofText "/project")).fileSystem (.ofText ".")).run =
        .ok own ∧
      analyze (catalogOf builtinCatalog own) chosenSettings (.ofString "eval(x)") "a.js" "" =
        .ok (chosen, cat) ∧
      analyze builtinCatalog { chosenSettings with categories := Rule.categories }
        (.ofString "eval(x)") "a.js" "" = .ok (full, cat') ∧
      chosen.findings = full.findings.filter (fun f =>
        !(["CS-SEC030"].contains f.ruleId) && ["security", "error"].contains f.category) := by
  have hsettings : ofEntries chosenEntries = .ok chosenSettings :=
    toOption_eq_some.mp (by decide +kernel)
  have hfiles : (chosenSettings.fileRules (Tree.empty (.ofText "/project")).fileSystem
      (.ofText ".")).run = .ok [] := rfl
  have hsize : (Buffer.ofString "eval(x)").check chosenSettings.limit = .ok () := by decide +kernel
  obtain ⟨compiled, hcompiles⟩ := compileAll_builtin
  rw [← List.append_nil builtinDefinitions] at hcompiles
  obtain ⟨own, chosen, full, cat, cat', hown, -, hchosen, hfull, hfindings, -⟩ :=
    analyze_chosen hsettings hfiles hcompiles hsize [] "a.js" ""
  rw [List.append_nil] at hfull
  exact ⟨own, chosen, full, cat, cat', hsettings, hown, hchosen, hfull, hfindings⟩

end CodeAudit.Settings
