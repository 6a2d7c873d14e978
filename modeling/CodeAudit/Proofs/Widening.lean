import CodeAudit.Proofs.Alternatives
import CodeAudit.Proofs.Buildable
import CodeAudit.Proofs.Searching

/-!
# Wider descriptions

A description is widened by further texts in its lists and by switches that are turned on. What the
narrower one finds in a text, some pattern of the wider one finds as well (`fires_of_widens`). The
exception are lists that are read as a set of characters only after they were widened: such a set
loses the capital letters above the basic plane (`Spec.Loses`).
-/

namespace CodeAudit.Rule

open CodeAudit.Regex (Phrase Flags Pattern Node Spelling Loses compile_source compile_source_refer)
open CodeAudit.Regex.Phrase (literal oneOf steady_literal items_literal)
open Phrasing

variable {text : Array Char}

-- ---------------------------------------------------------------------------
-- Patterns that find something
-- ---------------------------------------------------------------------------

def Recipe.Fires (recipe : Recipe) (text : Array Char) : Prop :=
  ∃ m, recipe.matcher = .ok m ∧ (m.search text).isSome = true

def AnyFires (recipes : List Recipe) (text : Array Char) : Prop :=
  ∃ recipe ∈ recipes, recipe.Fires text

def Spec.Fires (spec : Spec) (text : Array Char) : Prop :=
  ∃ ms, spec.matchers = .ok ms ∧ ∃ m ∈ ms, (m.search text).isSome = true

theorem fires_iff {spec : Spec} (h : spec.IsStructured) : spec.Fires text ↔
    ∃ recipes, spec.recipes = .ok recipes ∧ AnyFires recipes text := by
  obtain ⟨recipes, hrecipes, hreadable⟩ := recipes_readable h
  obtain ⟨ms, hms⟩ := exists_mapM_ok hreadable
  have hmatchers : spec.matchers = .ok ms := by
    simp only [Spec.matchers, hrecipes, ok_bind, hms]
  have hmap := map_eq_map_ok hms
  constructor
  · rintro ⟨ms', hms', m, hm, hsearch⟩
    obtain rfl := Except.ok.inj (hmatchers.symm.trans hms')
    obtain ⟨recipe, hrecipe, hmatcher⟩ := List.mem_map.mp (hmap ▸ List.mem_map_of_mem hm)
    exact ⟨recipes, hrecipes, recipe, hrecipe, m, hmatcher, hsearch⟩
  · rintro ⟨recipes', hrecipes', recipe, hrecipe, m, hmatcher, hsearch⟩
    obtain rfl := Except.ok.inj (hrecipes.symm.trans hrecipes')
    obtain ⟨m', hm', heq⟩ := List.mem_map.mp (hmap ▸ List.mem_map_of_mem hrecipe)
    obtain rfl := Except.ok.inj (heq.trans hmatcher)
    exact ⟨ms, hmatchers, m', hm', hsearch⟩

theorem fires_of_compile (h : Regex.compile source flags = .ok p) :
    Recipe.Fires { source, flags, repeats } text ↔ (p.search text).isSome = true := by
  simp [Recipe.Fires, Recipe.matcher, h, Matcher.search]

theorem isSome_search_of_below {p p' : Pattern} (hroot : p.root.Below text p'.root)
    (hgroups : p.groups = p'.groups) (h : (p.search text).isSome = true) :
    (p'.search text).isSome = true := by
  obtain ⟨i, hi, hne⟩ := Pattern.isSome_search.mp h
  refine Pattern.isSome_search.mpr ⟨i, hi, fun hnil => hne ?_⟩
  have hsub : p.outcomesAt text i ⊆ p'.outcomesAt text i := by
    rw [Pattern.outcomesAt, Pattern.outcomesAt, hgroups]
    exact hroot i _
  exact List.subset_nil.mp (hnil ▸ hsub)

def Phrasing.recipe (e : Phrase) (flags : Flags) : Recipe := { source := e.source, flags }

theorem fires_of_below (hbelow : Phrase.Below text f f' e e') (he : e.fine = true)
    (he' : e'.fine = true) (hf : f.ordinary = true) (hf' : f'.ordinary = true)
    (h : (recipe e f).Fires text) : (recipe e' f').Fires text := by
  have hdraft := hbelow _ _ (.start f f')
  rw [recipe, fires_of_compile (compile_source he hf)] at h
  rw [recipe, fires_of_compile (compile_source he' hf')]
  exact isSome_search_of_below hdraft.node (congrArg (·.size - 1) hdraft.widths) h

-- ---------------------------------------------------------------------------
-- Phrases around texts
-- ---------------------------------------------------------------------------

def spacedLiterals : List String := ["[]", "\x7b\x7d", "\"\"", "''"]

theorem shorthands_spelled (h : (value, e) ∈ shorthands) (hvalue : value ∉ spacedLiterals)
    (flags : Flags) : e.items flags = Regex.spelled flags value.toList := by
  have hplain : e = literal value ∨ (value, e) = ("-1", .plain '-' ++ literal "1") := by
    have hall : ∀ entry ∈ shorthands, entry.1 ∉ spacedLiterals →
        entry.2 = literal entry.1 ∨ entry = ("-1", .plain '-' ++ literal "1") := by
      decide
    exact hall (value, e) h hvalue
  rcases hplain with rfl | heq
  · exact items_literal flags value
  · obtain ⟨rfl, rfl⟩ := Prod.mk.inj heq
    rfl

theorem spelling_fragment : Spelling (· ∉ spacedLiterals) fragment where
  steady value := by
    have hall : ∀ entry ∈ shorthands, entry.2.steady = true := by decide
    rw [fragment]
    cases h : shorthands.lookup value with
    | none => exact steady_literal value
    | some e =>
      obtain ⟨before, after, hsplit, -⟩ := List.lookup_eq_some_iff.mp h
      exact hall (value, e) (by simp [hsplit])
  spelled value hvalue flags := by
    rw [fragment]
    cases h : shorthands.lookup value with
    | none => exact items_literal flags value
    | some e =>
      obtain ⟨before, after, hsplit, -⟩ := List.lookup_eq_some_iff.mp h
      exact shorthands_spelled (by simp [hsplit]) hvalue flags
  compound value hvalue flags := by
    have hvalue : value ∈ spacedLiterals := not_not.mp hvalue
    simp only [spacedLiterals, List.mem_cons, List.not_mem_nil, or_false] at hvalue
    rcases hvalue with rfl | rfl | rfl | rfl
    all_goals exact .tail _ (.head _)

section Phrases

variable {f f' : Flags} {texts texts' : List String} (hf : f.Below f') (hne : texts ≠ [])
  (hsub : texts ⊆ texts')

include hf hne hsub

theorem anyText_below (hkept : ¬ Loses (fun _ => True) f texts f' texts') :
    Phrase.Below text f f' (anyText texts) (anyText texts') :=
  .anyOf .literal hf hne hsub hkept

theorem anyLiteral_below (hkept : ¬ Loses (· ∉ spacedLiterals) f texts f' texts') :
    Phrase.Below text f f' (anyLiteral texts) (anyLiteral texts') :=
  .anyOf spelling_fragment hf hne hsub hkept

theorem call_below (hkept : ¬ Loses (fun _ => True) f texts f' texts') :
    Phrase.Below text f f' (call texts) (call texts') :=
  .append (.append (anyText_below hf hne hsub hkept) (.of_steady hf rfl)) (.of_steady hf rfl)

theorem returned_below (hkept : ¬ Loses (· ∉ spacedLiterals) f texts f' texts') :
    Phrase.Below text f f' (returned texts) (returned texts') :=
  .append (.append (.append (.of_steady hf rfl) (anyLiteral_below hf hne hsub hkept))
    (.of_steady hf rfl)) (.of_steady hf rfl)

theorem blockComment_below (hkept : ¬ Loses (fun _ => True) f texts f' texts') :
    Phrase.Below text f f' (Phrasing.blockComment texts) (Phrasing.blockComment texts') :=
  .append (.append (.append (.of_steady hf rfl) (anyText_below hf hne hsub hkept))
    (.of_steady hf rfl)) (.of_steady hf rfl)

theorem around_below (hkept : ¬ Loses (fun _ => True) f texts f' texts') :
    Phrase.Below text f f' (around texts) (around texts') :=
  .append (.append (.of_steady hf rfl) (anyText_below hf hne hsub hkept)) (.of_steady hf rfl)

end Phrases

theorem not_loses (h : f'.ignoreCase = false) : ¬ Loses plain f texts f' texts' := by
  rintro ⟨⟨hcase, -⟩, -⟩
  rw [h] at hcase
  cases hcase

theorem caseFlags_below (h : ignoreCase ≤ ignoreCase') :
    (caseFlags ignoreCase).Below (caseFlags ignoreCase') := by
  refine ⟨rfl, ?_⟩
  cases ignoreCase with
  | false =>
    cases ignoreCase' with
    | false => exact .inl rfl
    | true => exact .inr ⟨rfl, rfl⟩
  | true =>
    obtain rfl : ignoreCase' = true := Bool.eq_true_of_true_le h
    exact .inl rfl

theorem ne_nil_of_subset {texts texts' : List String} (hne : texts ≠ []) (hsub : texts ⊆ texts') :
    texts' ≠ [] := by
  rintro rfl
  exact hne (List.subset_nil.mp hsub)

-- ---------------------------------------------------------------------------
-- Patterns of wider descriptions
-- ---------------------------------------------------------------------------

theorem mem_functionCallRecipes :
    r ∈ functionCallRecipes names methodForm constructorForm ignoreCase ↔ names ≠ [] ∧
      (r = recipe (bareCall names) (caseFlags ignoreCase) ∨
        methodForm = true ∧ r = recipe (methodCall names) (caseFlags ignoreCase) ∨
        constructorForm = true ∧ r = recipe (newCall names) (caseFlags ignoreCase)) := by
  simp only [functionCallRecipes, recipe, (written_bareCall names).source,
    (written_methodCall names).source, (written_newCall names).source]
  cases names <;> simp

theorem functionCall_fires (hsub : names ⊆ names') (hmethod : methodForm ≤ methodForm')
    (hconstructor : constructorForm ≤ constructorForm') (hcase : ignoreCase ≤ ignoreCase')
    (hkept : ¬ Loses (fun _ => True) (caseFlags ignoreCase) names (caseFlags ignoreCase') names')
    (h : AnyFires (functionCallRecipes names methodForm constructorForm ignoreCase) text) :
    AnyFires (functionCallRecipes names' methodForm' constructorForm' ignoreCase') text := by
  obtain ⟨r, hr, hfires⟩ := h
  obtain ⟨hne, hr⟩ := mem_functionCallRecipes.mp hr
  have hne' := ne_nil_of_subset hne hsub
  have hf := caseFlags_below hcase
  have hcall : Phrase.Below text _ _ (call names) (call names') := call_below hf hne hsub hkept
  rcases hr with rfl | ⟨hform, rfl⟩ | ⟨hform, rfl⟩
  · refine ⟨_, mem_functionCallRecipes.mpr ⟨hne', .inl rfl⟩, ?_⟩
    exact fires_of_below (.append (.of_steady hf rfl) hcall) (written_bareCall _).fine
      (written_bareCall _).fine (ordinary_caseFlags _) (ordinary_caseFlags _) hfires
  · refine ⟨_, mem_functionCallRecipes.mpr ⟨hne', .inr (.inl ⟨hmethod hform, rfl⟩)⟩, ?_⟩
    exact fires_of_below (.append (.of_steady hf rfl) hcall) (written_methodCall _).fine
      (written_methodCall _).fine (ordinary_caseFlags _) (ordinary_caseFlags _) hfires
  · refine ⟨_, mem_functionCallRecipes.mpr ⟨hne', .inr (.inr ⟨hconstructor hform, rfl⟩)⟩, ?_⟩
    exact fires_of_below (.append (.of_steady hf rfl) hcall) (written_newCall _).fine
      (written_newCall _).fine (ordinary_caseFlags _) (ordinary_caseFlags _) hfires

theorem mem_returnsOnlyRecipes : r ∈ returnsOnlyRecipes values words ↔ values ≠ [] ∧
    r = recipe (if words = [] then returned values else commentedReturn values words)
      ignoringCase := by
  simp only [returnsOnlyRecipes, recipe]
  split_ifs <;> simp_all [(written_returned values).source,
    (written_commentedReturn values words).source]

theorem returnsOnly_fires (hsub : values ⊆ values')
    (hkept : ¬ Loses (· ∉ spacedLiterals) ignoringCase values ignoringCase values')
    (h : AnyFires (returnsOnlyRecipes values words) text) :
    AnyFires (returnsOnlyRecipes values' words) text := by
  obtain ⟨r, hr, hfires⟩ := h
  obtain ⟨hne, rfl⟩ := mem_returnsOnlyRecipes.mp hr
  have hf : ignoringCase.Below ignoringCase := ⟨rfl, .inl rfl⟩
  have hreturned : Phrase.Below text _ _ (returned values) (returned values') :=
    returned_below hf hne hsub hkept
  refine ⟨_, mem_returnsOnlyRecipes.mpr ⟨ne_nil_of_subset hne hsub, rfl⟩, ?_⟩
  by_cases hwords : words = []
  · rw [if_pos hwords] at hfires ⊢
    exact fires_of_below hreturned (written_returned _).fine (written_returned _).fine rfl rfl
      hfires
  · rw [if_neg hwords] at hfires ⊢
    have hcommented : Phrase.Below text _ _ (commentedReturn values words)
        (commentedReturn values' words) :=
      .append (.append (.append (.append (.append hreturned (.of_steady hf rfl))
        (.of_steady hf rfl)) (.of_steady hf rfl)) (.of_steady hf rfl)) (.group .plain _)
    exact fires_of_below hcommented (written_commentedReturn _ _).fine
      (written_commentedReturn _ _).fine rfl rfl hfires

theorem mem_containsTextRecipes : r ∈ containsTextRecipes terms context ignoreCase ↔ terms ≠ [] ∧
    (context ∈ ["single_line_comment", "comment", "any"] ∧
        r = recipe (lineComment terms) (caseFlags ignoreCase) ∨
      context ∈ ["block_comment", "comment", "any"] ∧
        r = recipe (Phrasing.blockComment terms) (caseFlags ignoreCase) ∨
      context ∈ ["string", "any"] ∧
        r = { source := (openText terms).source ++ "\\1", flags := caseFlags ignoreCase }) := by
  simp only [containsTextRecipes, recipe, (written_lineComment terms).source,
    (written_blockComment terms).source, source_openText]
  cases terms <;> simp

theorem containsText_fires (hsub : terms ⊆ terms') (hcase : ignoreCase ≤ ignoreCase')
    (hkept : ¬ Loses (fun _ => True) (caseFlags ignoreCase) terms (caseFlags ignoreCase') terms')
    (h : AnyFires (containsTextRecipes terms context ignoreCase) text) :
    AnyFires (containsTextRecipes terms' context ignoreCase') text := by
  obtain ⟨r, hr, hfires⟩ := h
  obtain ⟨hne, hr⟩ := mem_containsTextRecipes.mp hr
  have hne' := ne_nil_of_subset hne hsub
  have hf := caseFlags_below hcase
  have hanyText : Phrase.Below text _ _ (anyText terms) (anyText terms') :=
    anyText_below hf hne hsub hkept
  rcases hr with ⟨hcontext, rfl⟩ | ⟨hcontext, rfl⟩ | ⟨hcontext, rfl⟩
  · refine ⟨_, mem_containsTextRecipes.mpr ⟨hne', .inl ⟨hcontext, rfl⟩⟩, ?_⟩
    exact fires_of_below (.append (.of_steady hf rfl) hanyText) (written_lineComment _).fine
      (written_lineComment _).fine (ordinary_caseFlags _) (ordinary_caseFlags _) hfires
  · refine ⟨_, mem_containsTextRecipes.mpr ⟨hne', .inr (.inl ⟨hcontext, rfl⟩)⟩, ?_⟩
    exact fires_of_below (blockComment_below hf hne hsub hkept) (written_blockComment _).fine
      (written_blockComment _).fine (ordinary_caseFlags _) (ordinary_caseFlags _) hfires
  · refine ⟨_, mem_containsTextRecipes.mpr ⟨hne', .inr (.inr ⟨hcontext, rfl⟩)⟩, ?_⟩
    have hopen : Phrase.Below text _ _ (openText terms) (openText terms') :=
      .append (.capture hf rfl rfl) (around_below hf hne hsub hkept)
    have hdraft := (hopen _ _ (.start _ _)).refer hf 1 ⟨1, 1⟩ ⟨1, 1⟩
    rw [fires_of_compile (compile_source_refer (fine_openText _) (ordinary_caseFlags _)
      (openText_closed _ _))] at hfires ⊢
    exact isSome_search_of_below hdraft.node (congrArg (·.size - 1) hdraft.widths) hfires

theorem mem_fallbackRecipes : r ∈ fallbackRecipes operators values ↔
    values ≠ [] ∧ ∃ operator ∈ operators, r = recipe (fallback operator values) {} := by
  simp only [fallbackRecipes, recipe, (written_fallback values _).source]
  cases values <;> simp [eq_comm]

theorem fallback_fires (hoperators : operators ⊆ operators') (hsub : values ⊆ values')
    (h : AnyFires (fallbackRecipes operators values) text) :
    AnyFires (fallbackRecipes operators' values') text := by
  obtain ⟨r, hr, hfires⟩ := h
  obtain ⟨hne, operator, hoperator, rfl⟩ := mem_fallbackRecipes.mp hr
  have hf : Flags.Below {} {} := ⟨rfl, .inl rfl⟩
  refine ⟨_, mem_fallbackRecipes.mpr
    ⟨ne_nil_of_subset hne hsub, operator, hoperators hoperator, rfl⟩, ?_⟩
  have hbelow : Phrase.Below text _ _ (fallback operator values) (fallback operator values') :=
    .append (.append (.of_steady hf (steady_literal _)) (.of_steady hf rfl))
      (anyLiteral_below hf hne hsub (not_loses rfl))
  exact fires_of_below hbelow (written_fallback _ _).fine (written_fallback _ _).fine rfl rfl hfires

theorem mem_assignmentRecipes : r ∈ assignmentRecipes keys values operators ↔
    keys ≠ [] ∧ ∃ operator ∈ operators, r = recipe (if values = [] then longAssignment keys operator
      else valueAssignment keys operator values) ignoringCase := by
  by_cases hvalues : values = []
  · simp only [assignmentRecipes, recipe, hvalues, if_true, (written_longAssignment keys _).source]
    cases keys <;> simp [eq_comm]
  · simp only [assignmentRecipes, recipe, hvalues, if_false, List.isEmpty_iff,
      (written_valueAssignment values keys _).source]
    cases keys <;> simp [eq_comm]

theorem assignment_fires (hsub : keys ⊆ keys') (hoperators : operators ⊆ operators')
    (hkept : ¬ Loses (fun _ => True) ignoringCase keys ignoringCase keys')
    (h : AnyFires (assignmentRecipes keys values operators) text) :
    AnyFires (assignmentRecipes keys' values operators') text := by
  obtain ⟨r, hr, hfires⟩ := h
  obtain ⟨hne, operator, hoperator, rfl⟩ := mem_assignmentRecipes.mp hr
  have hf : ignoringCase.Below ignoringCase := ⟨rfl, .inl rfl⟩
  have hassigned : Phrase.Below text _ _ (assigned keys operator) (assigned keys' operator) :=
    .append (.append (.append (.append (anyText_below hf hne hsub hkept) (.of_steady hf rfl))
      (.of_steady hf (steady_literal _))) (.of_steady hf rfl)) (.of_steady hf rfl)
  refine ⟨_, mem_assignmentRecipes.mpr
    ⟨ne_nil_of_subset hne hsub, operator, hoperators hoperator, rfl⟩, ?_⟩
  by_cases hvalues : values = []
  · rw [if_pos hvalues] at hfires ⊢
    exact fires_of_below (.append (.append hassigned (.of_steady hf rfl)) (.of_steady hf rfl))
      (written_longAssignment _ _).fine (written_longAssignment _ _).fine rfl rfl hfires
  · rw [if_neg hvalues] at hfires ⊢
    exact fires_of_below (.append (.append hassigned (.group .capture _)) (.of_steady hf rfl))
      (written_valueAssignment _ _ _).fine (written_valueAssignment _ _ _).fine rfl rfl hfires

theorem AnyFires.mono (hsub : recipes ⊆ recipes') (h : AnyFires recipes text) :
    AnyFires recipes' text :=
  h.imp fun _ hr => ⟨hsub hr.1, hr.2⟩

theorem mem_promiseCatchRecipes : r ∈ promiseCatchRecipes "returns_silent" values ↔
    values ≠ [] ∧ r = recipe (silentCatch values) {} := by
  simp only [promiseCatchRecipes, recipe, (written_silentCatch values).source]
  cases values <;> simp

theorem promiseCatch_fires (hsub : values ⊆ values')
    (h : AnyFires (promiseCatchRecipes behavior values) text) :
    AnyFires (promiseCatchRecipes behavior values') text := by
  by_cases hbehavior : behavior = "returns_silent"
  · subst hbehavior
    obtain ⟨r, hr, hfires⟩ := h
    obtain ⟨hne, rfl⟩ := mem_promiseCatchRecipes.mp hr
    have hf : Flags.Below {} {} := ⟨rfl, .inl rfl⟩
    refine ⟨_, mem_promiseCatchRecipes.mpr ⟨ne_nil_of_subset hne hsub, rfl⟩, ?_⟩
    have hbelow : Phrase.Below text _ _ (silentCatch values) (silentCatch values') :=
      .append (.append (.append (.of_steady hf rfl)
        (anyLiteral_below hf hne hsub (not_loses rfl))) (.of_steady hf rfl)) (.of_steady hf rfl)
    exact fires_of_below hbelow (written_silentCatch _).fine (written_silentCatch _).fine rfl rfl
      hfires
  · rw [promiseCatchRecipes_of_ne hbehavior] at h ⊢
    exact h

theorem mem_commentMarkerRecipes : r ∈ commentMarkerRecipes markers style ↔ markers ≠ [] ∧
    (style ∈ ["single", "any"] ∧
        r = recipe (markedLine markers) { ignoreCase := true, multiLine := true } ∨
      style ∈ ["block", "any"] ∧ r = recipe (Phrasing.blockComment markers) ignoringCase) := by
  simp only [commentMarkerRecipes, recipe, (written_markedLine markers).source,
    (written_blockComment markers).source]
  cases markers <;> simp

theorem commentMarker_fires (hsub : markers ⊆ markers')
    (hkept : ¬ Loses (fun _ => True) ignoringCase markers ignoringCase markers')
    (h : AnyFires (commentMarkerRecipes markers style) text) :
    AnyFires (commentMarkerRecipes markers' style) text := by
  obtain ⟨r, hr, hfires⟩ := h
  obtain ⟨hne, hr⟩ := mem_commentMarkerRecipes.mp hr
  have hne' := ne_nil_of_subset hne hsub
  rcases hr with ⟨hstyle, rfl⟩ | ⟨hstyle, rfl⟩
  · refine ⟨_, mem_commentMarkerRecipes.mpr ⟨hne', .inl ⟨hstyle, rfl⟩⟩, ?_⟩
    have hf : Flags.Below { ignoreCase := true, multiLine := true }
        { ignoreCase := true, multiLine := true } := ⟨rfl, .inl rfl⟩
    have hbelow : Phrase.Below text _ _ (markedLine markers) (markedLine markers') :=
      .append (.append (.of_steady hf rfl) (anyText_below hf hne hsub hkept))
        (.append (.append (.group .plain _) (.of_steady hf rfl)) (.of_steady hf rfl))
    exact fires_of_below hbelow (written_markedLine _).fine (written_markedLine _).fine rfl rfl
      hfires
  · refine ⟨_, mem_commentMarkerRecipes.mpr ⟨hne', .inr ⟨hstyle, rfl⟩⟩, ?_⟩
    exact fires_of_below (blockComment_below ⟨rfl, .inl rfl⟩ hne hsub hkept)
      (written_blockComment _).fine (written_blockComment _).fine rfl rfl hfires

theorem mem_stringLiteralRecipes : r ∈ stringLiteralRecipes literals ignoreCase ↔
    literals ≠ [] ∧ r = recipe (quotedText literals) (caseFlags ignoreCase) := by
  simp only [stringLiteralRecipes, recipe, (written_quotedText literals).source]
  cases literals <;> simp

theorem stringLiteral_fires (hsub : literals ⊆ literals') (hcase : ignoreCase ≤ ignoreCase')
    (hkept : ¬ Loses (fun _ => True) (caseFlags ignoreCase) literals (caseFlags ignoreCase')
      literals')
    (h : AnyFires (stringLiteralRecipes literals ignoreCase) text) :
    AnyFires (stringLiteralRecipes literals' ignoreCase') text := by
  obtain ⟨r, hr, hfires⟩ := h
  obtain ⟨hne, rfl⟩ := mem_stringLiteralRecipes.mp hr
  have hf := caseFlags_below hcase
  refine ⟨_, mem_stringLiteralRecipes.mpr ⟨ne_nil_of_subset hne hsub, rfl⟩, ?_⟩
  have hbelow : Phrase.Below text _ _ (quotedText literals) (quotedText literals') :=
    .append (.append (.of_steady hf rfl) (around_below hf hne hsub hkept)) (.of_steady hf rfl)
  exact fires_of_below hbelow (written_quotedText _).fine (written_quotedText _).fine
    (ordinary_caseFlags _) (ordinary_caseFlags _) hfires

theorem recipes_suppression : (Spec.suppression tools).recipes =
    .ok (if tools = [] then [] else [recipe (suppression tools) {}]) := by
  simp [Spec.recipes, recipe, (written_suppression tools).source]

theorem recipes_typeCast : (Spec.typeCast types).recipes =
    .ok (if types = [] then [] else [recipe (cast types) {}]) := by
  simp [Spec.recipes, recipe, (written_cast types).source]

theorem anyFires_ite {texts : List String} : AnyFires (if texts = [] then [] else [r]) text ↔
    texts ≠ [] ∧ r.Fires text := by
  simp [AnyFires]

theorem suppression_fires (hne : tools ≠ []) (hsub : tools ⊆ tools')
    (h : (recipe (suppression tools) {}).Fires text) :
    (recipe (suppression tools') {}).Fires text := by
  have hf : Flags.Below {} {} := ⟨rfl, .inl rfl⟩
  have hbelow : Phrase.Below text _ _ (suppression tools) (suppression tools') :=
    .append (.append (.append (.group .plain _) (.of_steady hf rfl)) (.of_steady hf rfl))
      (anyText_below hf hne hsub (not_loses rfl))
  exact fires_of_below hbelow (written_suppression _).fine (written_suppression _).fine rfl rfl h

/-- The look-ahead may refuse a further type that is tried first, but then the type that was found
is tried as well. -/
theorem cast_fires (hne : types ≠ []) (hsub : types ⊆ types')
    (h : (recipe (cast types) {}).Fires text) : (recipe (cast types') {}).Fires text := by
  have hf : Flags.Below {} {} := ⟨rfl, .inl rfl⟩
  have hbelow : Phrase.Below text _ _ (cast types) (cast types') :=
    .append (.append (.of_steady hf rfl) (anyText_below hf hne hsub (not_loses rfl)))
      (.group .notAhead _)
  exact fires_of_below hbelow (written_cast _).fine (written_cast _).fine rfl rfl h

theorem emptyBlockRecipes_subset (h : allowComments ≤ allowComments') (construct : String) :
    emptyBlockRecipes allowComments construct ⊆ emptyBlockRecipes allowComments' construct := by
  unfold emptyBlockRecipes
  split
  · refine List.cons_subset_cons _ ?_
    cases allowComments with
    | false => simp
    | true => rw [h rfl]; exact List.Subset.refl _
  all_goals exact List.Subset.refl _

-- ---------------------------------------------------------------------------
-- Wider descriptions
-- ---------------------------------------------------------------------------

/-- The second description is the first one with further texts anywhere in its lists, and with
switches turned on. -/
inductive Spec.Widens : Spec → Spec → Prop where
  | emptyBlock (hconstructs : constructs.Sublist constructs')
      (hcomments : allowComments ≤ allowComments') :
      Widens (.emptyBlock constructs allowComments) (.emptyBlock constructs' allowComments')
  | functionCall (hnames : names.Sublist names') (hmethod : methodForm ≤ methodForm')
      (hconstructor : constructorForm ≤ constructorForm') (hcase : ignoreCase ≤ ignoreCase') :
      Widens (.functionCall names methodForm constructorForm ignoreCase)
        (.functionCall names' methodForm' constructorForm' ignoreCase')
  | returnsOnly (hvalues : values.Sublist values') :
      Widens (.returnsOnly values commentWords) (.returnsOnly values' commentWords)
  | containsText (hterms : terms.Sublist terms') (hcase : ignoreCase ≤ ignoreCase') :
      Widens (.containsText terms context ignoreCase) (.containsText terms' context ignoreCase')
  | fallbackValue (hoperators : operators.Sublist operators')
      (hfallbacks : fallbacks.Sublist fallbacks') :
      Widens (.fallbackValue operators fallbacks) (.fallbackValue operators' fallbacks')
  | assignment (hkeys : keys.Sublist keys') (hoperators : operators.Sublist operators') :
      Widens (.assignment keys values operators) (.assignment keys' values operators')
  | promiseCatch (hvalues : silentValues.Sublist silentValues') :
      Widens (.promiseCatch behavior silentValues) (.promiseCatch behavior silentValues')
  | commentMarker (hmarkers : markers.Sublist markers') :
      Widens (.commentMarker markers style) (.commentMarker markers' style)
  | stringLiteral (hliterals : literals.Sublist literals') (hcase : ignoreCase ≤ ignoreCase') :
      Widens (.stringLiteral literals ignoreCase) (.stringLiteral literals' ignoreCase')
  | suppression (htools : tools.Sublist tools') : Widens (.suppression tools) (.suppression tools')
  | typeCast (htypes : types.Sublist types') : Widens (.typeCast types) (.typeCast types')
  | comparison (hoperators : operators.Sublist operators') :
      Widens (.comparison operators) (.comparison operators')

/-- The wider description loses a text of the narrower one: with case ignored, its texts have become
a set of characters, and the text ends in a capital letter above the basic plane. -/
def Spec.Loses : Spec → Spec → Prop
  | .functionCall names _ _ ignoreCase, .functionCall names' _ _ ignoreCase' =>
    Regex.Loses (fun _ => True) (caseFlags ignoreCase) names (caseFlags ignoreCase') names'
  | .returnsOnly values _, .returnsOnly values' _ =>
    Regex.Loses (· ∉ spacedLiterals) ignoringCase values ignoringCase values'
  | .containsText terms _ ignoreCase, .containsText terms' _ ignoreCase' =>
    Regex.Loses (fun _ => True) (caseFlags ignoreCase) terms (caseFlags ignoreCase') terms'
  | .assignment keys _ _, .assignment keys' _ _ =>
    Regex.Loses (fun _ => True) ignoringCase keys ignoringCase keys'
  | .commentMarker markers _, .commentMarker markers' _ =>
    Regex.Loses (fun _ => True) ignoringCase markers ignoringCase markers'
  | .stringLiteral literals ignoreCase, .stringLiteral literals' ignoreCase' =>
    Regex.Loses (fun _ => True) (caseFlags ignoreCase) literals (caseFlags ignoreCase') literals'
  | _, _ => False

theorem Spec.Widens.isStructured {a b : Spec} (h : a.Widens b) : a.IsStructured ∧ b.IsStructured :=
  by cases h <;> exact ⟨trivial, trivial⟩

theorem anyFires_of_widens {a b : Spec} (h : a.Widens b) (hkept : ¬ a.Loses b)
    (ha : a.recipes = .ok recipes) (hfires : AnyFires recipes text) :
    ∃ recipes', b.recipes = .ok recipes' ∧ AnyFires recipes' text := by
  cases h with
  | emptyBlock hconstructs hcomments =>
    obtain rfl := Except.ok.inj ha
    refine ⟨_, rfl, hfires.mono fun r hr => ?_⟩
    obtain ⟨construct, hconstruct, hr⟩ := List.mem_flatMap.mp hr
    exact List.mem_flatMap.mpr ⟨construct, hconstructs.subset hconstruct,
      emptyBlockRecipes_subset hcomments construct hr⟩
  | functionCall hnames hmethod hconstructor hcase =>
    obtain rfl := Except.ok.inj ha
    exact ⟨_, rfl, functionCall_fires hnames.subset hmethod hconstructor hcase hkept hfires⟩
  | returnsOnly hvalues =>
    obtain rfl := Except.ok.inj ha
    exact ⟨_, rfl, returnsOnly_fires hvalues.subset hkept hfires⟩
  | containsText hterms hcase =>
    obtain rfl := Except.ok.inj ha
    exact ⟨_, rfl, containsText_fires hterms.subset hcase hkept hfires⟩
  | fallbackValue hoperators hfallbacks =>
    obtain rfl := Except.ok.inj ha
    exact ⟨_, rfl, fallback_fires hoperators.subset hfallbacks.subset hfires⟩
  | assignment hkeys hoperators =>
    obtain rfl := Except.ok.inj ha
    exact ⟨_, rfl, assignment_fires hkeys.subset hoperators.subset hkept hfires⟩
  | promiseCatch hvalues =>
    obtain rfl := Except.ok.inj ha
    exact ⟨_, rfl, promiseCatch_fires hvalues.subset hfires⟩
  | commentMarker hmarkers =>
    obtain rfl := Except.ok.inj ha
    exact ⟨_, rfl, commentMarker_fires hmarkers.subset hkept hfires⟩
  | stringLiteral hliterals hcase =>
    obtain rfl := Except.ok.inj ha
    exact ⟨_, rfl, stringLiteral_fires hliterals.subset hcase hkept hfires⟩
  | suppression htools =>
    obtain rfl := Except.ok.inj (recipes_suppression.symm.trans ha)
    obtain ⟨hne, hfires⟩ := anyFires_ite.mp hfires
    exact ⟨_, recipes_suppression, anyFires_ite.mpr
      ⟨ne_nil_of_subset hne htools.subset, suppression_fires hne htools.subset hfires⟩⟩
  | typeCast htypes =>
    obtain rfl := Except.ok.inj (recipes_typeCast.symm.trans ha)
    obtain ⟨hne, hfires⟩ := anyFires_ite.mp hfires
    exact ⟨_, recipes_typeCast, anyFires_ite.mpr
      ⟨ne_nil_of_subset hne htypes.subset, cast_fires hne htypes.subset hfires⟩⟩
  | comparison hoperators =>
    obtain rfl := Except.ok.inj ha
    exact ⟨_, rfl, hfires.mono (hoperators.filterMap _).subset⟩

/-- A wider description finds something in every text in which the narrower one does, unless it
loses one of its texts. -/
theorem fires_of_widens {a b : Spec} (h : a.Widens b) (hkept : ¬ a.Loses b) (text : Array Char)
    (hfires : a.Fires text) : b.Fires text := by
  obtain ⟨recipes, hrecipes, hfires⟩ := (fires_iff h.isStructured.1).mp hfires
  exact (fires_iff h.isStructured.2).mpr (anyFires_of_widens h hkept hrecipes hfires)

instance (spec : Spec) (text : Array Char) : Decidable (spec.Fires text) :=
  match h : spec.matchers with
  | .ok ms => decidable_of_iff (∃ m ∈ ms, (m.search text).isSome = true) (by simp [Spec.Fires, h])
  | .error e => isFalse (by simp [Spec.Fires, h])

/-- A capital letter above the basic plane is found in either case, next to a longer text that
begins with it. -/
theorem fires_of_widens_capital :
    (Spec.containsText ["𐐀"] "string" false).Fires #['\'', '𐐀', '\''] ∧
      (Spec.containsText ["𐐀b", "𐐀"] "string" true).Fires #['\'', '𐐀', '\''] := by
  have hfires : (Spec.containsText ["𐐀"] "string" false).Fires #['\'', '𐐀', '\''] := by
    decide +kernel
  refine ⟨hfires, fires_of_widens (.containsText (.cons _ (.refl _)) (by decide)) ?_ _ hfires⟩
  -- The texts differ in length, so that they are not read as a set.
  rintro ⟨⟨-, ⟨start, hends, -⟩, -⟩, -⟩
  obtain ⟨c, hc⟩ := hends "𐐀b" (by simp)
  obtain ⟨c', hc'⟩ := hends "𐐀" (by simp)
  have hlong : 2 = (start ++ [c]).length := congrArg List.length hc
  have hshort : 1 = (start ++ [c']).length := congrArg List.length hc'
  rw [List.length_append] at hlong hshort
  simp only [List.length_singleton] at hlong hshort
  omega

/-- A name that is a capital letter above the basic plane is found, but not if another name of one
letter is added. -/
theorem functionCall_silenced :
    (Spec.functionCall ["𐐀"] false false true).Widens (.functionCall ["𐐀", "a"] false false true) ∧
      (Spec.functionCall ["𐐀"] false false true).Fires #['𐐀', '('] ∧
      ¬ (Spec.functionCall ["𐐀", "a"] false false true).Fires #['𐐀', '('] :=
  ⟨.functionCall (.cons_cons _ (.cons _ .slnil)) (by decide) (by decide) (by decide),
    by decide +kernel, by decide +kernel⟩

end CodeAudit.Rule
