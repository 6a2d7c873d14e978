import CodeAudit.Proofs.Phrasing
import CodeAudit.Proofs.Table

/-!
# Descriptions that always build

The patterns of a description are phrases around the texts of the description, which are written so
that they stand for themselves; patterns without such texts are simply read (`selections_readable`).
So whatever the texts are, the patterns are accepted (`recipes_readable`). A description has no
pattern exactly if a list that it needs is empty or none of its selectors is known, and that is the
only reason for which its rule is refused (`structured_compiles`).
-/

namespace CodeAudit.Rule

open CodeAudit.Regex (compile_source compile_source_refer)
open Phrasing

-- ---------------------------------------------------------------------------
-- Patterns that are accepted
-- ---------------------------------------------------------------------------

def Recipe.Readable (recipe : Recipe) : Prop :=
  ∃ m, recipe.matcher = .ok m

instance (recipe : Recipe) : Decidable recipe.Readable :=
  decidable_of_iff _ toBool_eq_true

theorem readable_of_compile (h : Regex.compile source flags = .ok pattern) :
    Recipe.Readable { source, flags, repeats } :=
  ⟨{ pattern, repeats }, by simp [Recipe.matcher, h]⟩

theorem compile_of_matcher {recipe : Recipe} (h : recipe.matcher = .ok m) :
    Regex.compile recipe.source recipe.flags = .ok m.pattern := by
  unfold Recipe.matcher at h
  split at h
  · rename_i pattern hcompile
    obtain rfl := Except.ok.inj h
    exact hcompile
  · cases h

-- ---------------------------------------------------------------------------
-- Patterns without texts of their own
-- ---------------------------------------------------------------------------

theorem emptyBlockRecipes_eq_nil : emptyBlockRecipes allowComments construct = [] ↔
    construct ∉ ["catch", "finally", ".catch", ".then", ".finally"] := by
  unfold emptyBlockRecipes
  split <;> simp_all

theorem catchHandlerRecipes_eq_nil : catchHandlerRecipes behavior = [] ↔
    behavior ∉ ["empty", "comment_only", "log_only", "returns_value", "ignores_param"] := by
  unfold catchHandlerRecipes
  split <;> simp_all

theorem promiseCatchRecipes_eq_nil : promiseCatchRecipes behavior silentValues = [] ↔
    behavior ∉ ["empty", "returns_silent", "ignores_param"] ∨
      (behavior = "returns_silent" ∧ silentValues = []) := by
  unfold promiseCatchRecipes
  split <;> simp_all

theorem secretRecipes_eq_nil : secretRecipes kind = [] ↔
    kind ∉ ["generic", "github", "openai", "aws", "stripe"] := by
  unfold secretRecipes
  split <;> simp_all

theorem comparisonRecipe?_eq_none : comparisonRecipe? operator = none ↔
    operator ∉ ["==", "!=", "===", "!=="] := by
  unfold comparisonRecipe?
  split <;> simp_all

theorem loopRecipes_eq_nil : loopRecipes kind = [] ↔
    kind ∉ ["for_in", "while_true", "infinite"] := by
  unfold loopRecipes
  split <;> simp_all

theorem urlRecipes_eq_nil : urlRecipes protocol excludeLocalhost = [] ↔
    protocol ∉ ["http", "https", "any"] := by
  simp [urlRecipes]
  grind

def selections : List (List String × (String → List Recipe)) :=
  [(["catch", "finally", ".catch", ".then", ".finally"], emptyBlockRecipes true),
    (["catch", "finally", ".catch", ".then", ".finally"], emptyBlockRecipes false),
    (["empty", "comment_only", "log_only", "returns_value", "ignores_param"], catchHandlerRecipes),
    (["empty", "returns_silent", "ignores_param"], (promiseCatchRecipes · [])),
    (["generic", "github", "openai", "aws", "stripe"], secretRecipes),
    (["http", "https", "any"], (urlRecipes · true)),
    (["http", "https", "any"], (urlRecipes · false)),
    (["==", "!=", "===", "!=="], (comparisonRecipe? · |>.toList)),
    (["for_in", "while_true", "infinite"], loopRecipes)]

theorem selections_readable :
    ∀ s ∈ selections, ∀ key ∈ s.1, ∀ recipe ∈ s.2 key, recipe.Readable := by
  decide +kernel

structure Selected (P : Recipe → Prop) : Prop where
  emptyBlock : ∀ allowComments construct, ∀ r ∈ emptyBlockRecipes allowComments construct, P r
  catchHandler : ∀ behavior, ∀ r ∈ catchHandlerRecipes behavior, P r
  promiseCatch : ∀ behavior, ∀ r ∈ promiseCatchRecipes behavior [], P r
  secret : ∀ kind, ∀ r ∈ secretRecipes kind, P r
  url : ∀ protocol excludeLocalhost, ∀ r ∈ urlRecipes protocol excludeLocalhost, P r
  comparison : ∀ operator r, comparisonRecipe? operator = some r → P r
  loop : ∀ kind, ∀ r ∈ loopRecipes kind, P r

/-- A selector that is not known selects nothing, so it is enough to look at those that are known. -/
theorem selected_of_known {P : Recipe → Prop}
    (hall : ∀ s ∈ selections, ∀ key ∈ s.1, ∀ recipe ∈ s.2 key, P recipe) : Selected P := by
  have hselection (recipes : String → List Recipe) {known : List String}
      (hnone : ∀ key, key ∉ known → recipes key = []) (h : (known, recipes) ∈ selections)
      (key : String) : ∀ recipe ∈ recipes key, P recipe := by
    by_cases hkey : key ∈ known
    · exact hall _ h key hkey
    · simp [hnone key hkey]
  constructor
  case emptyBlock =>
    intro allowComments
    refine hselection _ (fun _ => emptyBlockRecipes_eq_nil.mpr) ?_
    cases allowComments <;> simp [selections]
  case catchHandler =>
    exact hselection _ (fun _ => catchHandlerRecipes_eq_nil.mpr) (by simp [selections])
  case promiseCatch =>
    exact hselection (promiseCatchRecipes · [])
      (fun _ hkey => promiseCatchRecipes_eq_nil.mpr (.inl hkey)) (by simp [selections])
  case secret => exact hselection _ (fun _ => secretRecipes_eq_nil.mpr) (by simp [selections])
  case url =>
    intro protocol excludeLocalhost
    refine hselection (urlRecipes · excludeLocalhost) (fun _ => urlRecipes_eq_nil.mpr) ?_ protocol
    cases excludeLocalhost <;> simp [selections]
  case comparison =>
    intro operator r hr
    have hnone : ∀ key, key ∉ ["==", "!=", "===", "!=="] → (comparisonRecipe? key).toList = [] :=
      fun key hkey => by simp [comparisonRecipe?_eq_none.mpr hkey]
    exact hselection _ hnone (by simp [selections]) operator r (by simp [hr])
  case loop => exact hselection _ (fun _ => loopRecipes_eq_nil.mpr) (by simp [selections])

theorem selected_readable : Selected Recipe.Readable :=
  selected_of_known selections_readable

-- ---------------------------------------------------------------------------
-- Patterns around the texts of a description
-- ---------------------------------------------------------------------------

theorem readable_of_written (h : Written e source) (hflags : flags.ordinary = true) :
    Recipe.Readable { source, flags, repeats } := by
  obtain ⟨hfine, rfl⟩ := h
  exact readable_of_compile (compile_source hfine hflags)

theorem ordinary_caseFlags (ignoreCase : Bool) : (caseFlags ignoreCase).ordinary = true := by
  cases ignoreCase <;> rfl

theorem functionCallRecipes_readable (names : List String)
    (methodForm constructorForm ignoreCase : Bool) :
    ∀ recipe ∈ functionCallRecipes names methodForm constructorForm ignoreCase,
      recipe.Readable := by
  have hflags := ordinary_caseFlags ignoreCase
  intro recipe hmem
  unfold functionCallRecipes at hmem
  split at hmem
  · cases hmem
  simp only [List.cons_append, List.mem_cons, List.mem_append, List.mem_ite_nil_right,
    List.not_mem_nil, or_false] at hmem
  rcases hmem with rfl | ⟨-, rfl⟩ | ⟨-, rfl⟩
  · exact readable_of_written (written_bareCall names) hflags
  · exact readable_of_written (written_methodCall names) hflags
  · exact readable_of_written (written_newCall names) hflags

theorem returnsOnlyRecipes_readable (values commentWords : List String) :
    ∀ recipe ∈ returnsOnlyRecipes values commentWords, recipe.Readable := by
  intro recipe hmem
  unfold returnsOnlyRecipes at hmem
  split at hmem
  · cases hmem
  dsimp only at hmem
  split at hmem
  · obtain rfl := List.mem_singleton.mp hmem
    exact readable_of_written (written_returned values) rfl
  · obtain rfl := List.mem_singleton.mp hmem
    exact readable_of_written (written_commentedReturn values commentWords) rfl

theorem containsTextRecipes_readable (terms : List String) (context : String) (ignoreCase : Bool) :
    ∀ recipe ∈ containsTextRecipes terms context ignoreCase, recipe.Readable := by
  have hflags := ordinary_caseFlags ignoreCase
  intro recipe hmem
  unfold containsTextRecipes at hmem
  split at hmem
  · cases hmem
  simp only [List.mem_append, List.mem_ite_nil_right, List.mem_singleton] at hmem
  rcases hmem with (⟨-, rfl⟩ | ⟨-, rfl⟩) | ⟨-, rfl⟩
  · exact readable_of_written (written_lineComment terms) hflags
  · exact readable_of_written (written_blockComment terms) hflags
  · rw [← source_openText]
    exact readable_of_compile
      (compile_source_refer (fine_openText terms) hflags (openText_closed terms ignoreCase))

theorem fallbackRecipes_readable (operators fallbacks : List String) :
    ∀ recipe ∈ fallbackRecipes operators fallbacks, recipe.Readable := by
  intro recipe hmem
  unfold fallbackRecipes at hmem
  split at hmem
  · cases hmem
  obtain ⟨op, -, rfl⟩ := List.mem_map.mp hmem
  exact readable_of_written (written_fallback fallbacks op) rfl

theorem assignmentRecipes_readable (keys values operators : List String) :
    ∀ recipe ∈ assignmentRecipes keys values operators, recipe.Readable := by
  intro recipe hmem
  unfold assignmentRecipes at hmem
  split at hmem
  · cases hmem
  obtain ⟨op, -, rfl⟩ := List.mem_map.mp hmem
  dsimp only
  split
  · exact readable_of_written (written_longAssignment keys op) rfl
  · exact readable_of_written (written_valueAssignment values keys op) rfl

theorem promiseCatchRecipes_of_ne (h : behavior ≠ "returns_silent") :
    promiseCatchRecipes behavior silentValues = promiseCatchRecipes behavior [] := by
  unfold promiseCatchRecipes
  split <;> simp_all

theorem promiseCatchRecipes_readable (behavior : String) (silentValues : List String) :
    ∀ recipe ∈ promiseCatchRecipes behavior silentValues, recipe.Readable := by
  by_cases hbehavior : behavior = "returns_silent"
  · subst hbehavior
    intro recipe hmem
    simp only [promiseCatchRecipes] at hmem
    split at hmem
    · cases hmem
    obtain rfl := List.mem_singleton.mp hmem
    exact readable_of_written (written_silentCatch silentValues) rfl
  · rw [promiseCatchRecipes_of_ne hbehavior]
    exact selected_readable.promiseCatch behavior

theorem commentMarkerRecipes_readable (markers : List String) (style : String) :
    ∀ recipe ∈ commentMarkerRecipes markers style, recipe.Readable := by
  intro recipe hmem
  unfold commentMarkerRecipes at hmem
  split at hmem
  · cases hmem
  simp only [List.mem_append, List.mem_ite_nil_right, List.mem_singleton] at hmem
  rcases hmem with ⟨-, rfl⟩ | ⟨-, rfl⟩
  · exact readable_of_written (written_markedLine markers) rfl
  · exact readable_of_written (written_blockComment markers) rfl

theorem stringLiteralRecipes_readable (literals : List String) (ignoreCase : Bool) :
    ∀ recipe ∈ stringLiteralRecipes literals ignoreCase, recipe.Readable := by
  intro recipe hmem
  unfold stringLiteralRecipes at hmem
  split at hmem
  · cases hmem
  obtain rfl := List.mem_singleton.mp hmem
  exact readable_of_written (written_quotedText literals) (ordinary_caseFlags ignoreCase)

-- ---------------------------------------------------------------------------
-- Descriptions
-- ---------------------------------------------------------------------------

/-- The descriptions in terms of code: not those with a pattern of their own or with a depth, which
may be too large. -/
def Spec.IsStructured : Spec → Prop
  | .chainedAccess _ _ | .raw _ _ | .unspecified => False
  | .secret kind _ => kind ≠ "custom"
  | _ => True

/-- The descriptions that ask for nothing: a list that is needed is empty, or no selector is one of
those that are known. -/
def Spec.SelectsNothing : Spec → Prop
  | .emptyBlock constructs _ =>
    ∀ construct ∈ constructs, construct ∉ ["catch", "finally", ".catch", ".then", ".finally"]
  | .functionCall names _ _ _ => names = []
  | .returnsOnly values _ => values = []
  | .containsText terms context _ =>
    terms = [] ∨
      context ∉ ["comment", "single_line_comment", "block_comment", "string", "any"]
  | .fallbackValue operators fallbacks => operators = [] ∨ fallbacks = []
  | .assignment keys _ operators => keys = [] ∨ operators = []
  | .catchHandler behavior =>
    behavior ∉ ["empty", "comment_only", "log_only", "returns_value", "ignores_param"]
  | .promiseCatch behavior silentValues =>
    behavior ∉ ["empty", "returns_silent", "ignores_param"] ∨
      (behavior = "returns_silent" ∧ silentValues = [])
  | .commentMarker markers style => markers = [] ∨ style ∉ ["single", "block", "any"]
  | .stringLiteral literals _ => literals = []
  | .secret kind _ => kind ∉ ["generic", "github", "openai", "aws", "stripe"]
  | .url protocol _ => protocol ∉ ["http", "https", "any"]
  | .suppression tools => tools = []
  | .typeCast types => types = []
  | .comparison operators => ∀ operator ∈ operators, operator ∉ ["==", "!=", "===", "!=="]
  | .loop kind => kind ∉ ["for_in", "while_true", "infinite"]
  | .chainedAccess _ _ | .raw _ _ | .unspecified => False

instance : DecidablePred Spec.IsStructured
  | .chainedAccess _ _ | .raw _ _ | .unspecified => inferInstanceAs (Decidable False)
  | .secret kind _ => inferInstanceAs (Decidable (kind ≠ "custom"))
  | .emptyBlock .. | .functionCall .. | .returnsOnly .. | .containsText .. | .fallbackValue ..
  | .assignment .. | .catchHandler _ | .promiseCatch .. | .commentMarker .. | .stringLiteral ..
  | .url .. | .suppression _ | .typeCast _ | .comparison _ | .loop _ =>
    inferInstanceAs (Decidable True)

instance : DecidablePred Spec.SelectsNothing
  | .emptyBlock .. | .comparison _ => inferInstanceAs (Decidable (∀ key ∈ _, key ∉ _))
  | .functionCall names _ _ _ => inferInstanceAs (Decidable (names = []))
  | .returnsOnly texts _ | .stringLiteral texts _ | .suppression texts | .typeCast texts =>
    inferInstanceAs (Decidable (texts = []))
  | .containsText terms _ _ => inferInstanceAs (Decidable (terms = [] ∨ _ ∉ _))
  | .fallbackValue operators fallbacks =>
    inferInstanceAs (Decidable (operators = [] ∨ fallbacks = []))
  | .assignment keys _ operators => inferInstanceAs (Decidable (keys = [] ∨ operators = []))
  | .promiseCatch _ silentValues => inferInstanceAs (Decidable (_ ∉ _ ∨ _ = _ ∧ silentValues = []))
  | .commentMarker markers _ => inferInstanceAs (Decidable (markers = [] ∨ _ ∉ _))
  | .catchHandler key | .secret key _ | .url key _ | .loop key =>
    inferInstanceAs (Decidable (key ∉ _))
  | .chainedAccess _ _ | .raw _ _ | .unspecified => inferInstanceAs (Decidable False)

variable {spec : Spec}

theorem recipes_readable (h : spec.IsStructured) :
    ∃ recipes, spec.recipes = .ok recipes ∧ ∀ recipe ∈ recipes, recipe.Readable := by
  cases spec with
  | emptyBlock constructs allowComments =>
    refine ⟨_, rfl, fun recipe hmem => ?_⟩
    obtain ⟨construct, -, hmem⟩ := List.mem_flatMap.mp hmem
    exact selected_readable.emptyBlock allowComments construct recipe hmem
  | functionCall names methodForm constructorForm ignoreCase =>
    exact ⟨_, rfl, functionCallRecipes_readable names methodForm constructorForm ignoreCase⟩
  | returnsOnly values commentWords =>
    exact ⟨_, rfl, returnsOnlyRecipes_readable values commentWords⟩
  | containsText terms context ignoreCase =>
    exact ⟨_, rfl, containsTextRecipes_readable terms context ignoreCase⟩
  | fallbackValue operators fallbacks =>
    exact ⟨_, rfl, fallbackRecipes_readable operators fallbacks⟩
  | assignment keys values operators =>
    exact ⟨_, rfl, assignmentRecipes_readable keys values operators⟩
  | chainedAccess minDepth operator => exact h.elim
  | catchHandler behavior => exact ⟨_, rfl, selected_readable.catchHandler behavior⟩
  | promiseCatch behavior silentValues =>
    exact ⟨_, rfl, promiseCatchRecipes_readable behavior silentValues⟩
  | commentMarker markers style => exact ⟨_, rfl, commentMarkerRecipes_readable markers style⟩
  | stringLiteral literals ignoreCase =>
    exact ⟨_, rfl, stringLiteralRecipes_readable literals ignoreCase⟩
  | secret kind custom =>
    have hkind : kind ≠ "custom" := h
    exact ⟨secretRecipes kind, by simp [Spec.recipes], selected_readable.secret kind⟩
  | url protocol excludeLocalhost =>
    exact ⟨_, rfl, selected_readable.url protocol excludeLocalhost⟩
  | suppression tools =>
    refine ⟨_, rfl, fun recipe hmem => ?_⟩
    split at hmem
    · cases hmem
    · obtain rfl := List.mem_singleton.mp hmem
      exact readable_of_written (written_suppression tools) rfl
  | typeCast types =>
    refine ⟨_, rfl, fun recipe hmem => ?_⟩
    split at hmem
    · cases hmem
    · obtain rfl := List.mem_singleton.mp hmem
      exact readable_of_written (written_cast types) rfl
  | comparison operators =>
    refine ⟨_, rfl, fun recipe hmem => ?_⟩
    obtain ⟨operator, -, hrecipe⟩ := List.mem_filterMap.mp hmem
    exact selected_readable.comparison operator recipe hrecipe
  | loop kind => exact ⟨_, rfl, selected_readable.loop kind⟩
  | raw source flags => exact h.elim
  | unspecified => exact h.elim

theorem containsTextRecipes_eq_nil : containsTextRecipes terms context ignoreCase = [] ↔
    terms = [] ∨
      context ∉ ["comment", "single_line_comment", "block_comment", "string", "any"] := by
  unfold containsTextRecipes
  split
  · simp_all
  · simp_all
    grind

theorem recipes_eq_nil (h : spec.IsStructured) (hrecipes : spec.recipes = .ok recipes) :
    recipes = [] ↔ spec.SelectsNothing := by
  cases spec with
  | emptyBlock constructs allowComments =>
    obtain rfl := Except.ok.inj hrecipes
    simp only [List.flatMap_eq_nil_iff, emptyBlockRecipes_eq_nil, Spec.SelectsNothing]
  | functionCall names methodForm constructorForm ignoreCase =>
    obtain rfl := Except.ok.inj hrecipes
    simp [functionCallRecipes, Spec.SelectsNothing]
  | returnsOnly values commentWords =>
    obtain rfl := Except.ok.inj hrecipes
    simp only [returnsOnlyRecipes, Spec.SelectsNothing]
    split_ifs <;> simp_all
  | containsText terms context ignoreCase =>
    obtain rfl := Except.ok.inj hrecipes
    exact containsTextRecipes_eq_nil
  | fallbackValue operators fallbacks =>
    obtain rfl := Except.ok.inj hrecipes
    simp [fallbackRecipes, Spec.SelectsNothing]
    grind
  | assignment keys values operators =>
    obtain rfl := Except.ok.inj hrecipes
    simp [assignmentRecipes, Spec.SelectsNothing]
    grind
  | chainedAccess minDepth operator => exact h.elim
  | catchHandler behavior =>
    obtain rfl := Except.ok.inj hrecipes
    exact catchHandlerRecipes_eq_nil
  | promiseCatch behavior silentValues =>
    obtain rfl := Except.ok.inj hrecipes
    exact promiseCatchRecipes_eq_nil
  | commentMarker markers style =>
    obtain rfl := Except.ok.inj hrecipes
    simp [commentMarkerRecipes, Spec.SelectsNothing]
    grind
  | stringLiteral literals ignoreCase =>
    obtain rfl := Except.ok.inj hrecipes
    simp [stringLiteralRecipes, Spec.SelectsNothing]
  | secret kind custom =>
    have hkind : kind ≠ "custom" := h
    obtain rfl : secretRecipes kind = recipes := by simpa [Spec.recipes, hkind] using hrecipes
    exact secretRecipes_eq_nil
  | url protocol excludeLocalhost =>
    obtain rfl := Except.ok.inj hrecipes
    exact urlRecipes_eq_nil
  | suppression tools =>
    obtain rfl := Except.ok.inj hrecipes
    simp [Spec.SelectsNothing]
  | typeCast types =>
    obtain rfl := Except.ok.inj hrecipes
    simp [Spec.SelectsNothing]
  | comparison operators =>
    obtain rfl := Except.ok.inj hrecipes
    simp only [List.filterMap_eq_nil_iff, comparisonRecipe?_eq_none, Spec.SelectsNothing]
  | loop kind =>
    obtain rfl := Except.ok.inj hrecipes
    exact loopRecipes_eq_nil
  | raw source flags => exact h.elim
  | unspecified => exact h.elim

theorem matchers_structured (h : spec.IsStructured) :
    ∃ ms, spec.matchers = .ok ms ∧ (ms = [] ↔ spec.SelectsNothing) := by
  obtain ⟨recipes, hrecipes, hreadable⟩ := recipes_readable h
  obtain ⟨ms, hms⟩ := exists_mapM_ok hreadable
  refine ⟨ms, by simp only [Spec.matchers, hrecipes, ok_bind, hms], ?_⟩
  rw [← recipes_eq_nil h hrecipes, ← List.length_eq_zero_iff, ← List.length_eq_zero_iff,
    (mapM_eq_ok.mp hms).length_eq]

theorem exists_compile_structured {d : Definition} (h : d.spec.IsStructured)
    (hseverity : d.severity ∈ severities) (hcategory : d.category ∈ categories)
    (hsome : ¬ d.spec.SelectsNothing) : ∃ rule, d.compile = .ok rule := by
  obtain ⟨ms, hms, hnone⟩ := matchers_structured h
  exact ⟨d.withMatchers ms,
    compile_ok_iff.mpr ⟨hseverity, hcategory, ms, hms, mt hnone.mp hsome, rfl⟩⟩

/-- A structured description is turned into patterns without an error, whatever its texts are, and
all of them are accepted. There are none exactly if it selects nothing. So a rule with a known
severity and category compiles, unless its description selects nothing; then that is what the one
message about it says. -/
theorem structured_compiles (spec : Spec) (h : spec.IsStructured) :
    (∃ recipes ms, spec.recipes = .ok recipes ∧
      (∀ recipe ∈ recipes, ∃ pattern, Regex.compile recipe.source recipe.flags = .ok pattern) ∧
      spec.matchers = .ok ms ∧ (ms = [] ↔ spec.SelectsNothing)) ∧
    ∀ d : Definition, d.spec = spec → d.severity ∈ severities → d.category ∈ categories →
      (¬ spec.SelectsNothing → ∃ rule, d.compile = .ok rule) ∧
      (spec.SelectsNothing → ∃ problem, d.compile = .error (.refused problem) ∧
        problem.message = d.id ++ ": match description produced no patterns") := by
  obtain ⟨recipes, hrecipes, hreadable⟩ := recipes_readable h
  obtain ⟨ms, hms, hnone⟩ := matchers_structured h
  refine ⟨⟨recipes, ms, hrecipes, ?_, hms, hnone⟩, ?_⟩
  · intro recipe hmem
    obtain ⟨m, hm⟩ := hreadable recipe hmem
    exact ⟨m.pattern, compile_of_matcher hm⟩
  · rintro d rfl hseverity hcategory
    refine ⟨exists_compile_structured h hseverity hcategory, fun hnothing => ?_⟩
    obtain rfl := hnone.mpr hnothing
    exact ⟨.noPatterns d.id, by simp [compile_eq, hseverity, hcategory, hms], rfl⟩

/-- Names full of characters with a meaning in patterns, and a description without names. -/
theorem structured_compiles_names :
    (∃ rule, Definition.compile {
        id := "A", title := "", description := "", severity := "low", category := "error"
        spec := .functionCall ["a(b", "[", "", "\\", "*?\n", "x|y)"] true true false } = .ok rule) ∧
      ∃ problem, Definition.compile {
          id := "A", title := "", description := "", severity := "low", category := "error"
          spec := .functionCall [] true true false } = .error (.refused problem) ∧
        problem.message = "A: match description produced no patterns" :=
  ⟨((structured_compiles (.functionCall _ true true false) trivial).2 _ rfl (by decide)
      (by decide)).1 (by simp [Spec.SelectsNothing]),
    ((structured_compiles (.functionCall [] true true false) trivial).2 _ rfl (by decide)
      (by decide)).2 rfl⟩

end CodeAudit.Rule
