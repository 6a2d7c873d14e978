import CodeAudit.Advice.Action
import CodeAudit.Proofs.Concerns
import CodeAudit.Proofs.Sorting
import CodeAudit.Rule.Recognizer
import Mathlib.Algebra.Ring.Int.Defs

/-!
# Action items

The plan for an inconsistency converts every other variant to the one that the report recommends
(`action_standardizes`): the search for the most used variant is made once more, but there is only
one such variant. The action items of a report are those of its inconsistencies and suggestions,
put together by priority (`actionItems_merge`).
-/

namespace CodeAudit.Advice

open CodeAudit.Rule (pattern)
open CodeAudit.Source (Buffer)

-- ---------------------------------------------------------------------------
-- Numbers of steps
-- ---------------------------------------------------------------------------

/-- Steps that are numbered one after the other, from a number on. -/
def NumberedFrom (order : Int) (steps : List ActionStep) : Prop :=
  steps.map (·.order) = (List.range steps.length).map fun i : Nat => order + i

theorem NumberedFrom.nil (order : Int) : NumberedFrom order [] := rfl

theorem NumberedFrom.cons {step : ActionStep} (h : step.order = order)
    (hrest : NumberedFrom (order + 1) rest) : NumberedFrom order (step :: rest) := by
  rw [NumberedFrom, List.map_cons, hrest, List.length_cons, List.range_succ_eq_map, List.map_cons,
    List.map_map, h]
  refine congrArg₂ _ (by simp) (List.map_congr_left fun i _ => ?_)
  simp only [Function.comp_apply]
  omega

theorem NumberedFrom.le (h : NumberedFrom order steps) (hstep : step ∈ steps) :
    order ≤ step.order := by
  have hmem : step.order ∈ steps.map (·.order) := List.mem_map_of_mem hstep
  rw [h] at hmem
  obtain ⟨i, -, heq⟩ := List.mem_map.mp hmem
  omega

-- ---------------------------------------------------------------------------
-- Priorities
-- ---------------------------------------------------------------------------

/-- The rank of a priority or severity, of which one is the highest and three the lowest. -/
def rankOf (name : String) : Int :=
  if name = "high" then 1 else if name = "medium" then 2 else 3

theorem rankOf_mem (name : String) : rankOf name ∈ [1, 2, 3] := by
  unfold rankOf
  split
  · simp
  · split <;> simp

theorem getD_priorityRanks (name : String) : (priorityRanks.lookup name).getD 3 = rankOf name := by
  unfold rankOf
  split
  · next h => rw [h]; rfl
  · next hhigh =>
    split
    · next h => rw [h]; rfl
    · next hmedium =>
      have hhigh : (name == "high") = false := beq_false_of_ne hhigh
      have hmedium : (name == "medium") = false := beq_false_of_ne hmedium
      cases hlow : name == "low" <;> simp [priorityRanks, List.lookup_cons, *]

theorem lookup_priorityRanks (h : name ∈ ["high", "medium", "low"]) :
    priorityRanks.lookup name = some (rankOf name) := by
  simp only [List.mem_cons, List.not_mem_nil, or_false] at h
  obtain rfl | rfl | rfl := h <;> rfl

-- ---------------------------------------------------------------------------
-- The plan for an inconsistency
-- ---------------------------------------------------------------------------

def adopting (v : VariantUsage) : String :=
  "Adopt " ++ inQuotes v.name ++ " as the standard (most commonly used: " ++ toString v.count ++
    " instances)"

def converting (recommended : String) (u : VariantUsage) : String :=
  "Convert " ++ toString u.count ++ " instance(s) of " ++ inQuotes u.name ++ " to " ++
    inQuotes recommended

theorem instructions_convertSteps (dominant : String) (order : Int) (vs : List VariantUsage) :
    (convertSteps dominant order vs).map (·.instruction) =
      (vs.filter (·.name != dominant)).map (converting dominant) := by
  induction vs generalizing order with
  | nil => rfl
  | cons v vs ih =>
    rw [convertSteps]
    by_cases hv : v.name = dominant
    · simp [hv, ih]
    · simp [hv, ih, converting]

theorem numberedFrom_convertSteps (dominant : String) (order : Int) (vs : List VariantUsage) :
    NumberedFrom order (convertSteps dominant order vs) := by
  induction vs generalizing order with
  | nil => exact .nil order
  | cons v vs ih =>
    rw [convertSteps]
    split
    · exact ih order
    · exact .cons rfl (ih (order + 1))

theorem edit_convertSteps (h : step ∈ convertSteps dominant order vs) : step.edit = none := by
  induction vs generalizing order with
  | nil => cases h
  | cons v vs ih =>
    rw [convertSteps] at h
    split at h
    · exact ih h
    · rcases List.mem_cons.mp h with rfl | h
      · rfl
      · exact ih h

theorem occurrences_eq (f : Inconsistency) : f.occurrences = (f.variants.map (·.count)).sum := by
  rw [Inconsistency.occurrences, List.sum, List.foldr_map]

theorem filter_name_ne {before after : List VariantUsage}
    (h : ((before ++ v :: after).map (·.name)).Nodup) :
    (before ++ v :: after).filter (·.name != v.name) = before ++ after := by
  rw [List.map_append, List.map_cons, List.nodup_middle, List.nodup_cons, ← List.map_append] at h
  have hothers : ∀ u ∈ before ++ after, (u.name != v.name) = true := fun u hu =>
    bne_iff_ne.mpr fun heq => h.1 (heq ▸ List.mem_map_of_mem hu)
  rw [List.forall_mem_append] at hothers
  simp [List.filter_eq_self.mpr hothers.1, List.filter_eq_self.mpr hothers.2]

/-- A plan that fits an inconsistency. The first step adopts the variant that is recommended; each
of the other variants is converted to it in a step of its own, in the order in which they are
listed. All occurrences are accounted for. -/
structure Standardizes (f : Inconsistency) (item : ActionItem) : Prop where
  id : item.id = "ACT-" ++ f.id
  kind : item.kind = "fix_inconsistency"
  title : item.title = "Standardize: " ++ f.title
  reason : item.reason = f.description
  length : item.steps.length = f.variants.length
  numbered : NumberedFrom 1 item.steps
  steps : ∃ before v after, MostUsed f.variants before v after ∧ v.name = f.recommended ∧
    item.steps.map (·.instruction) =
      adopting v :: (before ++ after).map (converting f.recommended) ∧
    v.count + ((before ++ after).map (·.count)).sum = f.occurrences
  edits : ∀ step ∈ item.steps, step.edit = none
  prompt : item.acceptPrompt = "Shall I refactor to use " ++ inQuotes f.recommended ++
    " consistently?"
  effort : item.effort = if 10 < f.occurrences then "high" else "medium"
  priority : item.priority = if 3 ≤ f.variants.length then 2 else 3

theorem Reported.nodup_names {concern : Concern} (h : Reported code concern f)
    (hnames : (concern.variants.map (·.name)).Nodup) : (f.variants.map (·.name)).Nodup := by
  have heq : (concern.usedIn code).map (·.name) = f.variants.map (·.name) := by
    rw [← List.forall₂_eq_eq_eq, List.forall₂_map_left_iff, List.forall₂_map_right_iff]
    exact h.variants.imp fun _ _ hused => hused.name.symm
  rw [← heq]
  exact hnames.sublist (List.filter_sublist.map _)

theorem Reported.exists_standardizes {concern : Concern} (h : Reported code concern f)
    (hnames : (concern.variants.map (·.name)).Nodup) :
    ∃ item, f.action = .ok item ∧ Standardizes f item := by
  obtain ⟨before, v, after, hmost, hrecommended, -⟩ := h.recommended
  have hothers : f.variants.filter (·.name != v.name) = before ++ after := by
    have hnodup := h.nodup_names hnames
    rw [hmost.split] at hnodup ⊢
    exact filter_name_ne hnodup
  have hinstructions : (convertSteps v.name 2 f.variants).map (·.instruction) =
      (before ++ after).map (converting v.name) := by
    rw [instructions_convertSteps, hothers]
  have hlength : (convertSteps v.name 2 f.variants).length + 1 = f.variants.length := by
    have := congrArg List.length hinstructions
    simp only [List.length_map, List.length_append] at this
    rw [this, hmost.split, List.length_append, List.length_cons]
    omega
  rw [Inconsistency.action, mostUsed?_eq_some hmost]
  refine ⟨_, rfl, rfl, rfl, rfl, rfl, hlength, .cons rfl (numberedFrom_convertSteps _ _ _),
    ⟨before, v, after, hmost, hrecommended.symm, ?_, ?_⟩, ?_, ?_, rfl, ?_⟩
  · rw [List.map_cons, hinstructions, hrecommended]
    rfl
  · rw [occurrences_eq, hmost.split]
    simp only [List.map_append, List.map_cons, List.sum_append, List.sum_cons]
    omega
  · exact List.forall_mem_cons.mpr ⟨rfl, fun step hstep => edit_convertSteps hstep⟩
  · rw [hrecommended]
  · simp only [getD_priorityRanks, h.severity, ← h.variants.length_eq]
    split <;> rfl

/-- Let the variants of each concern have names of their own. Every inconsistency that is found has
an action item, and its plan fits the inconsistency. -/
theorem action_standardizes {concerns : List Concern}
    (hnames : ∀ concern ∈ concerns, (concern.variants.map (·.name)).Nodup) (code : String) :
    ∀ f ∈ detectInconsistencies concerns (Buffer.ofString code),
      ∃ item, f.action = .ok item ∧ Standardizes f item := by
  intro f hf
  obtain ⟨concern, hconcern, hreported⟩ := exists_reported hf
  exact hreported.exists_standardizes (hnames concern hconcern)

theorem action_standardizes_tied :
    let keywords : Concern :=
      { id := "X-1", title := "Keywords", level := "implementation"
        variants :=
          [⟨"var", pattern "var "⟩, ⟨"let", pattern "let "⟩, ⟨"const", pattern "const "⟩] }
    let buffer := Buffer.ofString "var a\nlet b\nconst c\nlet d\nconst e\n"
    (keywords.variants.map (·.name)).Nodup ∧
      ∃ f ∈ detectInconsistencies [keywords] buffer, f.recommended = "let" ∧
        ∃ item, f.action = .ok item ∧ Standardizes f item := by
  intro keywords buffer
  have hnames : ∀ concern ∈ [keywords], (concern.variants.map (·.name)).Nodup := by decide
  have hfound : (detectInconsistencies [keywords] buffer).map (·.recommended) = ["let"] := by
    decide +kernel
  obtain ⟨f, hf, hrecommended⟩ := List.mem_map.mp (hfound ▸ List.mem_singleton_self "let")
  exact ⟨by decide, f, hf, hrecommended, action_standardizes hnames _ f hf⟩

-- ---------------------------------------------------------------------------
-- The plan of a suggestion
-- ---------------------------------------------------------------------------

def CodeChange.edit (change : CodeChange) : CodeEdit where
  action := "replace"
  target := change.before
  content := change.after

theorem instructions_planSteps (change : Option CodeChange) (order : Int) (steps : List String) :
    (planSteps change order steps).map (·.instruction) = steps := by
  induction steps generalizing change order with
  | nil => rfl
  | cons step steps ih => rw [planSteps, List.map_cons, ih]

theorem numberedFrom_planSteps (change : Option CodeChange) (order : Int) (steps : List String) :
    NumberedFrom order (planSteps change order steps) := by
  induction steps generalizing change order with
  | nil => exact .nil order
  | cons step steps ih => exact .cons rfl (ih none (order + 1))

theorem edit_planSteps_none (h : step ∈ planSteps none order steps) : step.edit = none := by
  induction steps generalizing order with
  | nil => cases h
  | cons _ steps ih =>
    rcases List.mem_cons.mp h with rfl | h
    · rfl
    · exact ih h

theorem edit_planSteps (h : step ∈ planSteps change order steps) :
    step.edit = if step.order = order then change.map CodeChange.edit else none := by
  cases steps with
  | nil => cases h
  | cons _ steps =>
    rcases List.mem_cons.mp h with rfl | h
    · exact (if_pos rfl).symm
    · have hlater : order + 1 ≤ step.order := (numberedFrom_planSteps none _ steps).le h
      rw [edit_planSteps_none h, if_neg (by omega)]

theorem exists_edit_planSteps (change : Option CodeChange) (order : Int) (steps : List String) :
    (∃ step ∈ planSteps change order steps, step.edit ≠ none) ↔ change ≠ none ∧ steps ≠ [] := by
  cases steps with
  | nil => simp [planSteps]
  | cons first steps =>
    constructor
    · rintro ⟨step, hstep, hedit⟩
      rw [edit_planSteps hstep] at hedit
      exact ⟨fun hnone => by simp [hnone] at hedit, List.cons_ne_nil _ _⟩
    · rintro ⟨hchange, -⟩
      exact ⟨_, List.mem_cons_self, by simpa using hchange⟩

theorem effortFor_eq (steps : Nat) :
    (effortFor steps = "high" ↔ 4 < steps) ∧
      (effortFor steps = "medium" ↔ steps = 3 ∨ steps = 4) ∧
      (effortFor steps = "low" ↔ steps ≤ 2) := by
  unfold effortFor
  by_cases hmany : 4 < steps
  · simp [hmany]
    omega
  · by_cases hsome : 2 < steps
    · simp [hmany, hsome]
      omega
    · simp [hmany, hsome]
      omega

/-- An action item that fits a suggestion: it has the steps of the plan one after the other, the
change of the plan as an edit of the first step, and an effort for the number of steps. -/
structure Implements (s : Suggestion) (item : ActionItem) : Prop where
  id : item.id = "ACT-" ++ s.id
  kind : item.kind = if s.plan.kind = "refactor" then "refactor" else "implement_pattern"
  title : item.title = s.title
  reason : item.reason = s.suggested.why
  prompt : item.acceptPrompt = "Would you like me to implement the " ++ s.suggested.name ++ "?"
  priority : item.priority = rankOf s.priority
  steps : item.steps.map (·.instruction) = s.plan.steps
  numbered : NumberedFrom 1 item.steps
  edits : ∀ step ∈ item.steps,
    step.edit = if step.order = 1 then s.plan.change.map CodeChange.edit else none
  edited : (∃ step ∈ item.steps, step.edit ≠ none) ↔ s.plan.change ≠ none ∧ s.plan.steps ≠ []
  high : item.effort = "high" ↔ 4 < s.plan.steps.length
  medium : item.effort = "medium" ↔ s.plan.steps.length = 3 ∨ s.plan.steps.length = 4
  low : item.effort = "low" ↔ s.plan.steps.length ≤ 2

theorem exists_implements {s : Suggestion} (h : s.priority ∈ ["high", "medium", "low"]) :
    ∃ item, s.action false = .ok item ∧ Implements s item := by
  obtain ⟨hhigh, hmedium, hlow⟩ := effortFor_eq s.plan.steps.length
  rw [Suggestion.action, lookup_priorityRanks h]
  refine ⟨_, rfl, rfl, ?_, rfl, rfl, rfl, rfl, instructions_planSteps _ _ _,
    numberedFrom_planSteps _ _ _, fun step hstep => edit_planSteps hstep,
    exists_edit_planSteps _ _ _, hhigh, hmedium, hlow⟩
  simp [actionKind]

-- ---------------------------------------------------------------------------
-- The items of a report
-- ---------------------------------------------------------------------------

theorem Inconsistency.exists_action {f : Inconsistency} (h : f.variants ≠ []) :
    ∃ item, f.action = .ok item ∧ item.id = "ACT-" ++ f.id ∧ item.priority = rankOf f.severity := by
  obtain ⟨v, rest, hv⟩ := List.exists_cons_of_ne_nil h
  rw [Inconsistency.action, hv, mostUsed?]
  exact ⟨_, rfl, rfl, getD_priorityRanks f.severity⟩

/-- The action items of inconsistencies with variants and of suggestions with known priorities are
one for each of them. Each tells what it is made from, and they come by priority: for each of the
three ranks those of the inconsistencies and then those of the suggestions, in the order given. -/
theorem actionItems_merge {found : List Inconsistency} {suggestions : List Suggestion}
    (hfound : ∀ f ∈ found, f.variants ≠ [])
    (hsuggestions : ∀ s ∈ suggestions, s.priority ∈ ["high", "medium", "low"]) :
    ∃ fixes advice items,
      List.Forall₂ (fun f item => f.action = .ok item ∧
        item.id = "ACT-" ++ f.id ∧ item.priority = rankOf f.severity) found fixes ∧
      List.Forall₂ (fun s item => s.action false = .ok item ∧ Implements s item)
        suggestions advice ∧
      actionItems found suggestions = .ok items ∧
      items = [1, 2, 3].flatMap (fun rank =>
        fixes.filter (·.priority == rank) ++ advice.filter (·.priority == rank)) ∧
      items.Perm (fixes ++ advice) := by
  obtain ⟨fixes, hfixes, hfit⟩ :=
    exists_mapM_forall₂ fun f hf => Inconsistency.exists_action (hfound f hf)
  obtain ⟨advice, hadvice, himplement⟩ :=
    exists_mapM_forall₂ fun s hs => exists_implements (hsuggestions s hs)
  have hranks : ∀ item ∈ fixes ++ advice, item.priority ∈ [1, 2, 3] := by
    intro item hitem
    rcases List.mem_append.mp hitem with hitem | hitem
    · obtain ⟨f, -, -, -, hpriority⟩ := exists_left_of_mem hfit hitem
      exact hpriority ▸ rankOf_mem f.severity
    · obtain ⟨s, -, -, hs⟩ := exists_left_of_mem himplement hitem
      exact hs.priority ▸ rankOf_mem s.priority
  refine ⟨fixes, advice, sortActions (fixes ++ advice), hfit, himplement, ?_, ?_,
    List.mergeSort_perm _ _⟩
  · simp only [actionItems, hfixes, hadvice, ok_bind, pure_ok]
  · rw [sortActions, mergeSort_eq_flatMap ActionItem.priority (by decide) hranks]
    simp only [List.filter_append]

def bareSuggestion (id priority : String) : Suggestion where
  id := id
  title := ""
  level := "design"
  priority := priority
  occurrences := 1
  current := { name := "", description := "", codeSample := "" }
  suggested := { name := "" }
  plan := { kind := "add" }

def bareInconsistency (id severity : String) : Inconsistency where
  id := id
  title := ""
  level := "design"
  severity := severity
  description := ""
  variants := [⟨"a", [], 2⟩, ⟨"b", [], 1⟩]
  recommended := "a"
  recommendation := ""

theorem actionItems_merge_interleaved :
    let found := [bareInconsistency "F-1" "low", bareInconsistency "F-2" "medium"]
    let suggestions := [bareSuggestion "S-1" "medium", bareSuggestion "S-2" "high"]
    (∀ f ∈ found, f.variants ≠ []) ∧
      (∀ s ∈ suggestions, s.priority ∈ ["high", "medium", "low"]) ∧
      ∃ items, actionItems found suggestions = .ok items ∧
        items.map (·.id) = ["ACT-S-2", "ACT-F-2", "ACT-S-1", "ACT-F-1"] := by
  intro found suggestions
  have hfound : ∀ f ∈ found, f.variants ≠ [] := by decide
  have hsuggestions : ∀ s ∈ suggestions, s.priority ∈ ["high", "medium", "low"] := by decide
  obtain ⟨fixes, advice, items, hfixes, hadvice, hitems, heq, -⟩ :=
    actionItems_merge hfound hsuggestions
  refine ⟨hfound, hsuggestions, items, hitems, ?_⟩
  simp only [found, suggestions, List.forall₂_cons_left_iff, List.forall₂_nil_left_iff]
    at hfixes hadvice
  obtain ⟨f₁, -, ⟨-, hid₁, hrank₁⟩, ⟨f₂, -, ⟨-, hid₂, hrank₂⟩, rfl, rfl⟩, rfl⟩ := hfixes
  obtain ⟨s₁, -, ⟨-, hs₁⟩, ⟨s₂, -, ⟨-, hs₂⟩, rfl, rfl⟩, rfl⟩ := hadvice
  have hrank₁ : f₁.priority = 3 := hrank₁
  have hrank₂ : f₂.priority = 2 := hrank₂
  have hurgent₁ : s₁.priority = 2 := hs₁.priority
  have hurgent₂ : s₂.priority = 1 := hs₂.priority
  rw [heq]
  simp [hrank₁, hrank₂, hurgent₁, hurgent₂, hid₁, hid₂, hs₁.id, hs₂.id, bareInconsistency,
    bareSuggestion]

end CodeAudit.Advice
