import CodeAudit.Proofs.Counts
import CodeAudit.Proofs.Scanning
import CodeAudit.Proofs.Widening

/-!
# Patterns that consume something

The pattern of a description has something in it that does not depend on the texts of the
description and that is not empty: a quotation mark, a keyword, the start of a comment. So no matter
which texts are put in, also empty ones, no match is empty (`matches_consume`). A matcher then
contributes at most one finding for each character of the code.
-/

namespace CodeAudit.Regex

-- ---------------------------------------------------------------------------
-- Phrases that consume something
-- ---------------------------------------------------------------------------

namespace Phrase

def linear : Phrase → Bool
  | .repeated _ body => body.isAtom
  | .bar => false
  | .append a b => a.linear && b.linear
  | _ => true

/-- Whether a part of a sequence surely consumes something. Groups with alternatives in them are
not looked at. -/
def consumes : Phrase → Bool
  | .plain _ | .slashed _ | .shorthand _ _ | .any | .set _ _ _ => true
  | .repeated mark body => mark.bound.limits.1 != 0 && body.consumes
  | .group .plain body | .group .capture body => body.linear && body.consumes
  | .append a b => a.consumes || b.consumes
  | .group .notAhead _ | .empty | .wordEdge | .lineEnd | .bar => false

end Phrase

structure Draft.Consumes (d : Draft) : Prop where
  single : d.level.done = []
  some : ∃ item ∈ d.level.items, item.node.nullable = false

namespace Draft.Consumes

variable {d : Draft}

theorem nullable (h : d.Consumes) : d.level.node.nullable = false := by
  obtain ⟨item, hmem, hnull⟩ := h.some
  have hlevel : d.level = { flags := d.level.flags, items := d.level.items } := by
    rw [← h.single]
  rw [hlevel, Level.node_single]
  exact nullable_ofList ⟨item.node, List.mem_map_of_mem (List.mem_reverse.mpr hmem), hnull⟩

theorem push (h : d.Consumes) (item : Item) : (d.push item).Consumes :=
  ⟨h.single, h.some.imp fun _ hitem => ⟨List.mem_cons_of_mem _ hitem.1, hitem.2⟩⟩

end Draft.Consumes

/-- Items that a phrase adds, with one that consumes something if the phrase does. -/
def Phrase.Adds (e : Phrase) (d : Draft) (items : List Item) : Prop :=
  (e.extend d).level = { d.level with items := items ++ d.level.items } ∧
    (e.consumes = true → ∃ item ∈ items, item.node.nullable = false)

theorem Phrase.exists_push_of_atom {e : Phrase} (hatom : e.isAtom = true) (d : Draft) :
    ∃ item, (e.extend d).level = d.level.push item := by
  cases e with
  | group kind body => cases kind <;> exact ⟨_, rfl⟩
  | plain | slashed | shorthand | any | set => exact ⟨_, rfl⟩
  | _ => cases hatom

theorem Phrase.exists_adds {e : Phrase} (hlinear : e.linear = true) (d : Draft) :
    ∃ items, e.Adds d items := by
  induction e generalizing d with
  | empty => exact ⟨[], rfl, by simp [Phrase.consumes]⟩
  | plain | slashed | shorthand | any | set =>
    exact ⟨[_], rfl, fun _ => ⟨_, List.mem_cons_self, rfl⟩⟩
  | wordEdge | lineEnd => exact ⟨[_], rfl, by simp [Phrase.consumes]⟩
  | repeated mark body ih =>
    have hbody : body.linear = true := by
      cases body with
      | plain | slashed | shorthand | any | set | group => rfl
      | _ => cases hlinear
    obtain ⟨items, hlevel, hconsumes⟩ := ih hbody d
    obtain ⟨item, hitem⟩ := exists_push_of_atom hlinear d
    obtain rfl : items = [item] := by
      have heq := congrArg Level.items (hlevel.symm.trans hitem)
      exact List.append_cancel_right (heq.trans rfl)
    refine ⟨[{ node := mark.node item.node, kind := .repetition }], ?_, fun h => ?_⟩
    · simp only [Phrase.extend, Draft.repeatLast, hlevel]
      rfl
    · obtain ⟨hmin, hbody⟩ := Bool.and_eq_true_iff.mp h
      obtain ⟨_, hmem, hnull⟩ := hconsumes hbody
      obtain rfl := List.mem_singleton.mp hmem
      refine ⟨_, List.mem_cons_self, ?_⟩
      simpa [Mark.node, Node.nullable, hnull] using hmin
  | group kind body ih =>
    -- The inside is a level of its own, so what consumes something there is in its tree.
    have hinside (h : (body.linear && body.consumes) = true) (hdone : (d.inside kind).level =
        { flags := d.level.flags }) : (body.extend (d.inside kind)).level.node.nullable = false := by
      obtain ⟨hlinear, hconsumes⟩ := Bool.and_eq_true_iff.mp h
      obtain ⟨items, hlevel, hsome⟩ := ih hlinear (d.inside kind)
      refine Draft.Consumes.nullable ⟨?_, ?_⟩
      · rw [hlevel, hdone]
      · obtain ⟨item, hmem, hnull⟩ := hsome hconsumes
        exact ⟨item, by rw [hlevel]; exact List.mem_append_left _ hmem, hnull⟩
    cases kind with
    | plain => exact ⟨[_], rfl, fun h => ⟨_, List.mem_cons_self, hinside h rfl⟩⟩
    | capture => exact ⟨[_], rfl, fun h => ⟨_, List.mem_cons_self, hinside h rfl⟩⟩
    | notAhead => exact ⟨[_], rfl, by simp [Phrase.consumes]⟩
  | bar => cases hlinear
  | append a b iha ihb =>
    obtain ⟨ha, hb⟩ := Bool.and_eq_true_iff.mp hlinear
    obtain ⟨items, hlevel, hconsumes⟩ := iha ha d
    obtain ⟨items', hlevel', hconsumes'⟩ := ihb hb (a.extend d)
    refine ⟨items' ++ items, ?_, fun h => ?_⟩
    · show (b.extend (a.extend d)).level = _
      rw [hlevel', hlevel, List.append_assoc]
    · rcases Bool.or_eq_true_iff.mp h with h | h
      · obtain ⟨item, hmem, hnull⟩ := hconsumes h
        exact ⟨item, List.mem_append_right _ hmem, hnull⟩
      · obtain ⟨item, hmem, hnull⟩ := hconsumes' h
        exact ⟨item, List.mem_append_left _ hmem, hnull⟩

theorem Draft.Consumes.extend {d : Draft} {e : Phrase} (h : d.Consumes) (hlinear : e.linear = true) :
    (e.extend d).Consumes := by
  obtain ⟨items, hlevel, -⟩ := Phrase.exists_adds hlinear d
  obtain ⟨item, hmem, hnull⟩ := h.some
  refine ⟨?_, item, ?_, hnull⟩
  · rw [hlevel]
    exact h.single
  · rw [hlevel]
    exact List.mem_append_right _ hmem

theorem Draft.consumes_start {e : Phrase} (hlinear : e.linear = true)
    (hconsumes : e.consumes = true) (flags : Flags) : (e.extend (.start flags)).Consumes := by
  obtain ⟨items, hlevel, hsome⟩ := Phrase.exists_adds hlinear (.start flags)
  obtain ⟨item, hmem, hnull⟩ := hsome hconsumes
  refine ⟨?_, item, ?_, hnull⟩
  · rw [hlevel]
    rfl
  · rw [hlevel]
    exact List.mem_append_left _ hmem

namespace Phrase

@[simp]
theorem linear_append (a b : Phrase) : (a ++ b).linear = (a.linear && b.linear) := rfl

@[simp]
theorem consumes_append (a b : Phrase) : (a ++ b).consumes = (a.consumes || b.consumes) := rfl

@[simp]
theorem linear_group (kind : GroupKind) (body : Phrase) : (group kind body).linear = true := rfl

@[simp]
theorem consumes_group (body : Phrase) :
    (group .plain body).consumes = (body.linear && body.consumes) := rfl

@[simp]
theorem consumes_capture (body : Phrase) :
    (group .capture body).consumes = (body.linear && body.consumes) := rfl

theorem linear_of_steady {e : Phrase} (h : e.steady = true) : e.linear = true := by
  induction e with
  | repeated mark body => exact (Bool.and_eq_true_iff.mp h).1
  | append a b iha ihb =>
    obtain ⟨ha, hb⟩ := Bool.and_eq_true_iff.mp h
    exact Bool.and_eq_true_iff.mpr ⟨iha ha, ihb hb⟩
  | bar => cases h
  | _ => rfl

@[simp]
theorem linear_literal (s : String) : (literal s).linear = true :=
  linear_of_steady (steady_literal s)

@[simp]
theorem consumes_literal (s : String) : (literal s).consumes = (s != "") := by
  have hexactly (c : Char) : (exactly c).consumes = true := by
    unfold exactly
    split <;> rfl
  have hlist : ∀ cs : List Char, (sequence (cs.map exactly)).consumes = !cs.isEmpty := by
    intro cs
    cases cs with
    | nil => rfl
    | cons c cs => simp [sequence, hexactly]
  rw [literal, hlist, Bool.eq_iff_iff]
  simp [String.toList_eq_nil_iff]

end Phrase

end CodeAudit.Regex

namespace CodeAudit.Rule

open CodeAudit.Regex (Phrase Flags Draft compile_source compile_source_refer)
open Phrasing

-- ---------------------------------------------------------------------------
-- Patterns of descriptions
-- ---------------------------------------------------------------------------

def Recipe.Consumes (recipe : Recipe) : Prop :=
  ∀ m, recipe.matcher = .ok m → m.pattern.root.nullable = false

instance (recipe : Recipe) : Decidable recipe.Consumes :=
  decidable_of_iff (recipe.matcher.toOption.all (!·.pattern.root.nullable) = true) <| by
    simp [Recipe.Consumes, Option.all_eq_true, toOption_eq_some]

theorem consumes_of_compile {p : Regex.Pattern} (h : Regex.compile source flags = .ok p)
    (hconsumes : p.root.nullable = false) : Recipe.Consumes { source, flags, repeats } := by
  intro m hm
  rw [Recipe.matcher, h] at hm
  obtain rfl := Except.ok.inj hm
  exact hconsumes

theorem consumes_of_draft {e : Phrase} (hfine : e.fine = true) (hflags : flags.ordinary = true)
    (h : (e.extend (.start flags)).Consumes) : (recipe e flags).Consumes :=
  consumes_of_compile (compile_source hfine hflags) h.nullable

theorem consumes_of_phrase {e : Phrase} (hfine : e.fine = true) (hflags : flags.ordinary = true)
    (hlinear : e.linear = true) (hconsumes : e.consumes = true) : (recipe e flags).Consumes :=
  consumes_of_draft hfine hflags (Draft.consumes_start hlinear hconsumes flags)

theorem selected_consumes : Selected Recipe.Consumes := by
  refine selected_of_known ?_
  decide +kernel

@[simp] theorem linear_blanks : blanks.linear = true := rfl
@[simp] theorem linear_quote : quote.linear = true := rfl
@[simp] theorem linear_longText : longText.linear = true := rfl
@[simp] theorem linear_anyText (items : List String) : (anyText items).linear = true := rfl
@[simp] theorem linear_anyLiteral (items : List String) : (anyLiteral items).linear = true := rfl

@[simp] theorem consumes_quote : quote.consumes = true := rfl
@[simp] theorem consumes_name : name.consumes = true := rfl
@[simp] theorem consumes_castHead : castHead.consumes = true := rfl
@[simp] theorem linear_name : name.linear = true := rfl

theorem functionCall_consumes
    (h : r ∈ functionCallRecipes names methodForm constructorForm ignoreCase) : r.Consumes := by
  have hflags := ordinary_caseFlags ignoreCase
  obtain ⟨-, rfl | ⟨-, rfl⟩ | ⟨-, rfl⟩⟩ := mem_functionCallRecipes.mp h
  · exact consumes_of_phrase (written_bareCall _).fine hflags rfl (by simp [bareCall, call])
  · exact consumes_of_phrase (written_methodCall _).fine hflags rfl (by simp [methodCall])
  · exact consumes_of_phrase (written_newCall _).fine hflags rfl (by simp [newCall])

theorem returnsOnly_consumes (h : r ∈ returnsOnlyRecipes values words) : r.Consumes := by
  obtain ⟨-, rfl⟩ := mem_returnsOnlyRecipes.mp h
  split
  · exact consumes_of_phrase (written_returned _).fine rfl rfl (by simp [returned])
  · exact consumes_of_phrase (written_commentedReturn _ _).fine rfl rfl
      (by simp [commentedReturn, returned])

theorem containsText_consumes (h : r ∈ containsTextRecipes terms context ignoreCase) :
    r.Consumes := by
  have hflags := ordinary_caseFlags ignoreCase
  obtain ⟨-, ⟨-, rfl⟩ | ⟨-, rfl⟩ | ⟨-, rfl⟩⟩ := mem_containsTextRecipes.mp h
  · exact consumes_of_phrase (written_lineComment _).fine hflags rfl (by simp [lineComment])
  · exact consumes_of_phrase (written_blockComment _).fine hflags rfl
      (by simp [Phrasing.blockComment])
  · -- The reference behind the phrase may be to anything: its first group consumes something.
    refine consumes_of_compile (compile_source_refer (fine_openText _) hflags
      (openText_closed _ _)) (Draft.Consumes.nullable (.push ?_ _))
    exact Draft.consumes_start rfl (by simp [openText]) _

theorem fallback_consumes (hoperators : ∀ operator ∈ operators, operator ∈ ["||", "??", "&&"])
    (h : r ∈ fallbackRecipes operators values) : r.Consumes := by
  obtain ⟨-, operator, hoperator, rfl⟩ := mem_fallbackRecipes.mp h
  have hsome : operator ≠ "" := by
    rintro rfl
    exact absurd (hoperators _ hoperator) (by decide)
  exact consumes_of_phrase (written_fallback _ _).fine rfl (by simp [fallback])
    (by simp [fallback, hsome])

theorem assignment_consumes (h : r ∈ assignmentRecipes keys values operators) : r.Consumes := by
  obtain ⟨-, operator, -, rfl⟩ := mem_assignmentRecipes.mp h
  split
  · exact consumes_of_phrase (written_longAssignment _ _).fine rfl
      (by simp [longAssignment, assigned]) (by simp [longAssignment])
  · exact consumes_of_phrase (written_valueAssignment _ _ _).fine rfl
      (by simp [valueAssignment, assigned]) (by simp [valueAssignment])

/-- Whatever the operator is, an access has a name in it. A chain that is too long for a count is no
pattern. -/
theorem chainedAccess_consumes (hwritten : isLongInteger (max minDepth 1) = false)
    (h : r ∈ chainedAccessRecipes minDepth operator) : r.Consumes := by
  rw [chainedAccessRecipes_eq, List.mem_singleton] at h
  subst h
  have hfine := fine_access operator
  by_cases hdepth : (max minDepth 1).toNat < Regex.countLimit
  · have hmin : (max minDepth 1).toNat ≠ 0 := by omega
    refine consumes_of_phrase (Regex.fine_atLeast hfine rfl hdepth) rfl rfl ?_
    simp [Phrase.atLeast, Phrase.consumes, Regex.Bound.limits, access, hmin]
  · intro m hm
    have hlarge : Regex.countLimit ≤ (max minDepth 1).toNat := by omega
    have hdigits := length_toDigits_of_not_long (by omega) hwritten
    have hfault := Regex.compile_tooLarge hfine rfl (show Flags.ordinary {} = true from rfl) hlarge
      hdigits
    simp [Recipe.matcher, hfault] at hm

theorem promiseCatch_consumes (h : r ∈ promiseCatchRecipes behavior values) : r.Consumes := by
  by_cases hbehavior : behavior = "returns_silent"
  · subst hbehavior
    obtain ⟨-, rfl⟩ := mem_promiseCatchRecipes.mp h
    exact consumes_of_phrase (written_silentCatch _).fine rfl rfl (by simp [silentCatch])
  · rw [promiseCatchRecipes_of_ne hbehavior] at h
    exact selected_consumes.promiseCatch behavior r h

theorem commentMarker_consumes (h : r ∈ commentMarkerRecipes markers style) : r.Consumes := by
  obtain ⟨-, ⟨-, rfl⟩ | ⟨-, rfl⟩⟩ := mem_commentMarkerRecipes.mp h
  · exact consumes_of_phrase (written_markedLine _).fine rfl rfl (by simp [markedLine])
  · exact consumes_of_phrase (written_blockComment _).fine rfl rfl
      (by simp [Phrasing.blockComment])

theorem stringLiteral_consumes (h : r ∈ stringLiteralRecipes literals ignoreCase) :
    r.Consumes := by
  obtain ⟨-, rfl⟩ := mem_stringLiteralRecipes.mp h
  exact consumes_of_phrase (written_quotedText _).fine (ordinary_caseFlags _) rfl
    (by simp [quotedText])

theorem suppression_consumes (tools : List String) : (recipe (suppression tools) {}).Consumes := by
  have hstart : (toolComment.extend (.start {})).Consumes := ⟨rfl, by decide⟩
  exact consumes_of_draft (written_suppression _).fine rfl (hstart.extend rfl)

theorem cast_consumes (types : List String) : (recipe (Phrasing.cast types) {}).Consumes :=
  consumes_of_phrase (written_cast _).fine rfl rfl (by simp [Phrasing.cast])

-- ---------------------------------------------------------------------------
-- Descriptions
-- ---------------------------------------------------------------------------

/-- The descriptions whose patterns are put together from their texts: not those that bring a pattern
with them, and not those of an unknown operator, which may be empty. -/
def Spec.IsPhrased : Spec → Prop
  | .raw _ _ => False
  | .secret kind _ => kind ≠ "custom"
  | .fallbackValue operators _ => ∀ operator ∈ operators, operator ∈ ["||", "??", "&&"]
  | _ => True

variable {spec : Spec}

theorem recipes_consume (h : spec.IsPhrased) (hrecipes : spec.recipes = .ok recipes) :
    ∀ r ∈ recipes, r.Consumes := by
  intro r hr
  cases spec with
  | emptyBlock constructs allowComments =>
    obtain rfl := Except.ok.inj hrecipes
    obtain ⟨construct, -, hr⟩ := List.mem_flatMap.mp hr
    exact selected_consumes.emptyBlock allowComments construct r hr
  | functionCall names methodForm constructorForm ignoreCase =>
    obtain rfl := Except.ok.inj hrecipes
    exact functionCall_consumes hr
  | returnsOnly values commentWords =>
    obtain rfl := Except.ok.inj hrecipes
    exact returnsOnly_consumes hr
  | containsText terms context ignoreCase =>
    obtain rfl := Except.ok.inj hrecipes
    exact containsText_consumes hr
  | fallbackValue operators fallbacks =>
    obtain rfl := Except.ok.inj hrecipes
    exact fallback_consumes h hr
  | assignment keys values operators =>
    obtain rfl := Except.ok.inj hrecipes
    exact assignment_consumes hr
  | chainedAccess minDepth operator =>
    cases hwritten : isLongInteger (max minDepth 1) with
    | true => simp [Spec.recipes, hwritten] at hrecipes
    | false =>
      obtain rfl : chainedAccessRecipes minDepth operator = recipes := by
        simpa [Spec.recipes, hwritten] using hrecipes
      exact chainedAccess_consumes hwritten hr
  | catchHandler behavior =>
    obtain rfl := Except.ok.inj hrecipes
    exact selected_consumes.catchHandler behavior r hr
  | promiseCatch behavior silentValues =>
    obtain rfl := Except.ok.inj hrecipes
    exact promiseCatch_consumes hr
  | commentMarker markers style =>
    obtain rfl := Except.ok.inj hrecipes
    exact commentMarker_consumes hr
  | stringLiteral literals ignoreCase =>
    obtain rfl := Except.ok.inj hrecipes
    exact stringLiteral_consumes hr
  | secret kind custom =>
    have hkind : kind ≠ "custom" := h
    obtain rfl : secretRecipes kind = recipes := by simpa [Spec.recipes, hkind] using hrecipes
    exact selected_consumes.secret kind r hr
  | url protocol excludeLocalhost =>
    obtain rfl := Except.ok.inj hrecipes
    exact selected_consumes.url protocol excludeLocalhost r hr
  | suppression tools =>
    obtain rfl := Except.ok.inj (recipes_suppression.symm.trans hrecipes)
    obtain ⟨-, rfl⟩ : tools ≠ [] ∧ r = recipe (suppression tools) {} := by simpa using hr
    exact suppression_consumes tools
  | typeCast types =>
    obtain rfl := Except.ok.inj (recipes_typeCast.symm.trans hrecipes)
    obtain ⟨-, rfl⟩ : types ≠ [] ∧ r = recipe (Phrasing.cast types) {} := by simpa using hr
    exact cast_consumes types
  | comparison operators =>
    obtain rfl := Except.ok.inj hrecipes
    obtain ⟨operator, -, hr⟩ := List.mem_filterMap.mp hr
    exact selected_consumes.comparison operator r hr
  | loop kind =>
    obtain rfl := Except.ok.inj hrecipes
    exact selected_consumes.loop kind r hr
  | raw source flags => exact h.elim
  | unspecified => cases hrecipes

theorem matchers_consume (h : spec.IsPhrased) (hms : spec.matchers = .ok ms) :
    ∀ matcher ∈ ms, matcher.pattern.root.nullable = false := by
  obtain ⟨recipes, hrecipes, hms⟩ := bind_eq_ok.mp hms
  intro matcher hmem
  obtain ⟨recipe, hr, hmatcher⟩ :=
    List.mem_map.mp (map_eq_map_ok hms ▸ List.mem_map_of_mem hmem)
  exact recipes_consume h hrecipes recipe hr matcher hmatcher

/-- No matcher of a description that is put together from texts reports an empty match, in any text.
So the block of findings of each matcher of its rule has at most one finding for each character of
the code, and there is none in an empty code. -/
theorem matches_consume (spec : Spec) (h : spec.IsPhrased) (ms : List Matcher)
    (hms : spec.matchers = .ok ms) :
    (∀ matcher ∈ ms, ∀ text, (∀ m ∈ matcher.findAll text, m.start < m.stop) ∧
      matcher.count text ≤ text.size) ∧
    ∀ rule : Compiled, rule.matchers = ms → ∀ code filename : String,
      (∃ blocks, Scan.scanRule rule (.ofString code) filename = blocks.flatten ∧
        List.Forall₂ (fun matcher block =>
          block = (matcher.findAll code.toList.toArray).map
            (Scan.findingAt rule (.ofString code) filename) ∧ block.length ≤ code.length)
          ms blocks) ∧
      Scan.scanRule rule (.ofString "") filename = [] := by
  have hconsumes : ∀ matcher ∈ ms, ∀ text, (∀ m ∈ matcher.findAll text, m.start < m.stop) ∧
      matcher.count text ≤ text.size := fun matcher hmem =>
    Matcher.findAll_consuming (matchers_consume h hms matcher hmem)
  refine ⟨hconsumes, ?_⟩
  rintro rule rfl code filename
  let block (matcher : Matcher) : List Scan.Finding :=
    (matcher.findAll code.toList.toArray).map (Scan.findingAt rule (.ofString code) filename)
  refine ⟨⟨rule.matchers.map block, List.flatMap_def, ?_⟩, ?_⟩
  · refine List.forall₂_map_right_iff.mpr (List.forall₂_same.mpr fun matcher hmem => ⟨rfl, ?_⟩)
    obtain ⟨-, hcount⟩ := hconsumes matcher hmem code.toList.toArray
    simpa [block, Matcher.count, String.length_toList] using hcount
  · refine List.flatMap_eq_nil_iff.mpr fun matcher hmem => ?_
    obtain ⟨-, hcount⟩ := hconsumes matcher hmem #[]
    have hnone : matcher.findAll #[] = [] := List.length_eq_zero_iff.mp (Nat.le_zero.mp hcount)
    exact List.map_eq_nil_iff.mpr hnone

/-- Keys, values and operators that are all empty leave the quotation marks to be found. -/
theorem matches_consume_emptyTexts : (Spec.assignment [""] [""] [""]).IsPhrased ∧
    ∃ matcher ms, (Spec.assignment [""] [""] [""]).matchers = .ok (matcher :: ms) ∧
      ∀ text, ∀ m ∈ matcher.findAll text, m.start < m.stop := by
  refine ⟨trivial, ?_⟩
  have hstructured : (Spec.assignment [""] [""] [""]).IsStructured := trivial
  obtain ⟨ms, hms, hnone⟩ := matchers_structured hstructured
  have hsome : ms ≠ [] := mt hnone.mp (by simp [Spec.SelectsNothing])
  obtain ⟨matcher, ms, rfl⟩ := List.exists_cons_of_ne_nil hsome
  obtain ⟨hconsumes, -⟩ := matches_consume (.assignment [""] [""] [""]) trivial _ hms
  exact ⟨matcher, ms, hms, fun text => (hconsumes matcher List.mem_cons_self text).1⟩

end CodeAudit.Rule
