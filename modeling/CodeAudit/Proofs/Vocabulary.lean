import CodeAudit.Proofs.Buildable
import CodeAudit.Rule.SpecReader

/-!
# Selectors that are not declared

Twelve kinds of description have a field that takes only declared texts, its selectors. Seven of
them give no pattern for a selector that is not declared, so that their rules are refused. The other
five accept it: empty blocks and comparisons drop it, an access chain takes it for a dot (`readAs`),
and fallbacks and assignments take it as it is written (`compile_selectors`).
-/

namespace CodeAudit.Rule

namespace Spec

/-- The texts of a description that have to be declared ones. -/
def selectors : Spec → List String
  | .emptyBlock constructs _ => constructs
  | .fallbackValue operators _ | .assignment _ _ operators | .comparison operators => operators
  | .containsText _ selector _ | .chainedAccess _ selector | .catchHandler selector
  | .promiseCatch selector _ | .commentMarker _ selector | .secret selector _ | .url selector _
  | .loop selector => [selector]
  | .functionCall .. | .returnsOnly .. | .stringLiteral .. | .suppression _ | .typeCast _ | .raw ..
  | .unspecified => []

def vocabulary : Spec → List String
  | .emptyBlock .. => ["catch", "finally", ".catch", ".then", ".finally"]
  | .containsText .. => ["comment", "single_line_comment", "block_comment", "string", "any"]
  | .fallbackValue .. => ["||", "??", "&&"]
  | .assignment .. => ["=", ":"]
  | .chainedAccess .. => ["?.", "."]
  | .catchHandler _ => ["empty", "comment_only", "log_only", "returns_value", "ignores_param"]
  | .promiseCatch .. => ["empty", "returns_silent", "ignores_param"]
  | .commentMarker .. => ["single", "block", "any"]
  | .secret .. => ["generic", "github", "openai", "aws", "stripe", "custom"]
  | .url .. => ["http", "https", "any"]
  | .comparison _ => ["==", "!=", "===", "!=="]
  | .loop _ => ["for_in", "while_true", "infinite"]
  | .functionCall .. | .returnsOnly .. | .stringLiteral .. | .suppression _ | .typeCast _ | .raw ..
  | .unspecified => []

def Declared (spec : Spec) : Prop := ∀ selector ∈ spec.selectors, selector ∈ spec.vocabulary

instance : DecidablePred Declared := fun spec =>
  inferInstanceAs (Decidable (∀ selector ∈ spec.selectors, selector ∈ spec.vocabulary))

/-- The kinds that leave undeclared selectors out or take them for another. -/
def adjustedTags : List String := ["empty_block", "chained_access", "comparison"]

def literalTags : List String := ["fallback_value", "assignment_pattern"]

def readAs : Spec → Spec
  | spec@(.emptyBlock constructs allowComments) =>
    .emptyBlock (constructs.filter (· ∈ spec.vocabulary)) allowComments
  | .chainedAccess minDepth operator =>
    .chainedAccess minDepth (if operator = "?." then "?." else ".")
  | spec@(.comparison operators) => .comparison (operators.filter (· ∈ spec.vocabulary))
  | spec => spec

variable {spec : Spec}

theorem declared_readAs (h : spec.tag ∈ adjustedTags) : spec.readAs.Declared := by
  cases spec with
  | emptyBlock constructs allowComments => simp [readAs, Declared, selectors, vocabulary]
  | chainedAccess minDepth operator =>
    by_cases hop : operator = "?." <;> simp [readAs, hop, Declared, selectors, vocabulary]
  | comparison operators => simp [readAs, Declared, selectors, vocabulary]
  | _ => simp [tag, adjustedTags] at h

theorem notMem_vocabulary (hselector : spec.selectors = [selector]) (h : ¬ spec.Declared) :
    selector ∉ spec.vocabulary := by
  rwa [Declared, hselector, List.forall_mem_singleton] at h

theorem selectsNothing_of_not_declared (hkind : spec.tag ∉ adjustedTags ++ literalTags)
    (h : ¬ spec.Declared) : spec.IsStructured ∧ spec.SelectsNothing := by
  cases spec with
  | containsText terms context ignoreCase => exact ⟨trivial, .inr (notMem_vocabulary rfl h)⟩
  | catchHandler behavior => exact ⟨trivial, notMem_vocabulary rfl h⟩
  | promiseCatch behavior silentValues => exact ⟨trivial, .inl (notMem_vocabulary rfl h)⟩
  | commentMarker markers style => exact ⟨trivial, .inr (notMem_vocabulary rfl h)⟩
  | secret kind custom =>
    have hkind := notMem_vocabulary rfl h
    refine ⟨?_, fun hmem => hkind (List.mem_append_left ["custom"] hmem)⟩
    rintro rfl
    exact hkind (by simp [vocabulary])
  | url protocol excludeLocalhost => exact ⟨trivial, notMem_vocabulary rfl h⟩
  | loop kind => exact ⟨trivial, notMem_vocabulary rfl h⟩
  | emptyBlock | fallbackValue | assignment | chainedAccess | comparison =>
    simp [tag, adjustedTags, literalTags] at hkind
  | functionCall | returnsOnly | stringLiteral | suppression | typeCast | raw | unspecified =>
    simp [Declared, selectors] at h

theorem flatMap_filter_known {known : List String} {f : String → List α}
    (h : ∀ selector, selector ∉ known → f selector = []) (given : List String) :
    (given.filter (· ∈ known)).flatMap f = given.flatMap f := by
  induction given with
  | nil => rfl
  | cons selector given ih =>
    by_cases hknown : selector ∈ known
    · simp [hknown, ih]
    · simp [hknown, h selector hknown, ih]

theorem recipes_readAs (spec : Spec) : spec.readAs.recipes = spec.recipes := by
  cases spec with
  | emptyBlock constructs allowComments =>
    exact congrArg Except.ok
      (flatMap_filter_known (fun _ => emptyBlockRecipes_eq_nil.mpr) constructs)
  | chainedAccess minDepth operator =>
    by_cases h : operator = "?." <;> simp [readAs, recipes, chainedAccessRecipes, h]
  | comparison operators =>
    simp only [readAs, recipes, List.filterMap_eq_flatMap_toList]
    refine congrArg Except.ok (flatMap_filter_known (fun operator h => ?_) operators)
    rw [comparisonRecipe?_eq_none.mpr h, Option.toList_none]
  | _ => rfl

theorem isStructured_of_literal (h : spec.tag ∈ literalTags) : spec.IsStructured := by
  cases spec with
  | fallbackValue | assignment => trivial
  | _ => simp [tag, literalTags] at h

theorem length_matchers_literal (h : spec.tag ∈ literalTags) (hsome : ¬ spec.SelectsNothing)
    (hms : spec.matchers = .ok ms) : ms.length = spec.selectors.length := by
  obtain ⟨recipes, hrecipes, hmap⟩ := bind_eq_ok.mp hms
  rw [← (mapM_eq_ok.mp hmap).length_eq]
  cases spec with
  | fallbackValue operators fallbacks =>
    obtain ⟨-, hfallbacks⟩ := not_or.mp hsome
    obtain rfl := Except.ok.inj hrecipes
    simp [fallbackRecipes, hfallbacks, selectors]
  | assignment keys values operators =>
    obtain ⟨hkeys, -⟩ := not_or.mp hsome
    obtain rfl := Except.ok.inj hrecipes
    simp [assignmentRecipes, hkeys, selectors]
  | _ => simp [tag, literalTags] at h

end Spec

variable {d : Definition}

theorem compile_readAs (d : Definition) : d.compile = { d with spec := d.spec.readAs }.compile := by
  rw [compile_eq, compile_eq, Spec.matchers, Spec.matchers, Spec.recipes_readAs]
  rfl

theorem compile_of_selectsNothing (h : d.spec.IsStructured) (hnothing : d.spec.SelectsNothing) :
    ∃ problem, d.compile = .error (.refused problem) ∧
      (d.severity ∈ severities → d.category ∈ categories → problem = .noPatterns d.id) := by
  obtain ⟨ms, hms, hnone⟩ := matchers_structured h
  obtain rfl := hnone.mpr hnothing
  by_cases hseverity : d.severity ∈ severities
  · by_cases hcategory : d.category ∈ categories
    · exact ⟨.noPatterns d.id, by simp [compile_eq, hseverity, hcategory, hms], fun _ _ => rfl⟩
    · refine ⟨.unknownCategory d.id d.category, ?_, fun _ h => absurd h hcategory⟩
      simp [compile_eq, hseverity, hcategory]
  · refine ⟨.unknownSeverity d.id d.severity, ?_, fun h _ => absurd h hseverity⟩
    simp [compile_eq, hseverity]

/-- What becomes of a rule with undeclared selectors. It is refused, and with known labels for
having no patterns, unless it is of one of five kinds. Of these, three do what a description with
declared selectors only does: the undeclared ones are left out or taken for another. The other two
compile with any selectors, and each has a pattern of its own. -/
theorem compile_selectors (d : Definition) :
    (d.spec.tag ∉ Spec.adjustedTags ++ Spec.literalTags → ¬ d.spec.Declared →
      ∃ problem, d.compile = .error (.refused problem) ∧
        (d.severity ∈ severities → d.category ∈ categories →
          problem.message = d.id ++ ": match description produced no patterns")) ∧
    d.compile = { d with spec := d.spec.readAs }.compile ∧
    (d.spec.tag ∈ Spec.adjustedTags → d.spec.readAs.Declared) ∧
    (d.spec.tag ∈ Spec.literalTags → ¬ d.spec.SelectsNothing →
      d.severity ∈ severities → d.category ∈ categories →
      ∃ rule, d.compile = .ok rule ∧ rule.matchers.length = d.spec.selectors.length) := by
  refine ⟨fun hkind hdeclared => ?_, compile_readAs d, Spec.declared_readAs, ?_⟩
  · obtain ⟨hstructured, hnothing⟩ := Spec.selectsNothing_of_not_declared hkind hdeclared
    obtain ⟨problem, hrefused, hproblem⟩ := compile_of_selectsNothing hstructured hnothing
    refine ⟨problem, hrefused, fun hseverity hcategory => ?_⟩
    rw [hproblem hseverity hcategory]
    rfl
  · intro hkind hsome hseverity hcategory
    obtain ⟨rule, hrule⟩ := exists_compile_structured (Spec.isStructured_of_literal hkind)
      hseverity hcategory hsome
    obtain ⟨-, -, ms, hms, -, rfl⟩ := compile_ok_iff.mp hrule
    exact ⟨_, hrule, Spec.length_matchers_literal hkind hsome hms⟩

theorem compile_selectors_style :
    ∃ problem, Definition.compile {
        id := "A", title := "", description := "", severity := "low", category := "error"
        spec := .commentMarker ["TODO"] "blocks" } = .error (.refused problem) ∧
      problem.message = "A: match description produced no patterns" := by
  let d : Definition := {
    id := "A", title := "", description := "", severity := "low", category := "error"
    spec := .commentMarker ["TODO"] "blocks" }
  obtain ⟨problem, hrefused, hmessage⟩ := (compile_selectors d).1 (by decide) (by decide)
  exact ⟨problem, hrefused, hmessage (by decide) (by decide)⟩

/-- One description of each of the five kinds, with a misspelt selector. -/
def misspelt : List Value :=
  [.table [("type", .str "empty_block"), ("constructs", .ofTexts ["catch", "cath"])],
    .table [("type", .str "comparison"), ("operators", .ofTexts ["==", "=!"])],
    .table [("type", .str "chained_access"), ("min_depth", .int 3), ("operator", .str "->")],
    .table [("type", .str "fallback_value"), ("operators", .ofTexts ["|"]),
      ("fallback_literals", .ofTexts ["null"])],
    .table [("type", .str "assignment_pattern"), ("keys", .ofTexts ["password"]),
      ("operators", .ofTexts ["=>"])]]

theorem compile_misspelt : misspelt.Forall fun table => ∃ spec rule,
    Spec.ofValue "match" table = .ok spec ∧ ¬ spec.Declared ∧ Definition.compile {
      id := "A", title := "", description := "", severity := "low", category := "error"
      spec } = .ok rule := by
  refine ⟨⟨.emptyBlock ["catch", "cath"] false, ?_⟩, ⟨.comparison ["==", "=!"], ?_⟩,
    ⟨.chainedAccess 3 "->", ?_⟩, ⟨.fallbackValue ["|"] ["null"], ?_⟩,
    ⟨.assignment ["password"] [] ["=>"], ?_⟩⟩
  all_goals
    refine exists_and_left.mpr ⟨rfl, exists_and_left.mpr ⟨by decide, ?_⟩⟩
    exact toBool_eq_true.mp (by decide +kernel)

end CodeAudit.Rule
