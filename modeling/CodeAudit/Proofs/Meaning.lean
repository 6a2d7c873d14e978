import CodeAudit.Proofs.Alternatives
import CodeAudit.Proofs.Phrasing
import CodeAudit.Proofs.Searching
import Mathlib.Logic.Relation

/-!
# What phrases mean

A phrase without switches stands for a relation between the positions of a text: where it starts
and where it ends. The relation of a literal, of a repeated class or of alternatives is said of the
text alone (`Stands`, `AllBetween`), a sequence composes the relations of its parts
(`Phrase.Means.append`), and the matcher that is made of a phrase finds what its relation says
(`exists_matcher_of_means`).
-/

namespace CodeAudit.Regex

variable {text : Array Char}

-- ---------------------------------------------------------------------------
-- Stretches of a text
-- ---------------------------------------------------------------------------

/-- Something that starts at one position of a text and ends at another one. -/
abbrev Stretch := Nat → Nat → Prop

def Stands (text : Array Char) (s : String) : Stretch := fun i j =>
  s.toList <+: text.toList.drop i ∧ j = i + s.length

def AllBetween (text : Array Char) (kind : Char → Bool) : Stretch := fun i j =>
  i ≤ j ∧ ∀ k, i ≤ k → k < j → ∃ c, text[k]? = some c ∧ kind c = true

instance : Decidable (Stands text s i j) := inferInstanceAs (Decidable (_ ∧ _))

instance : Decidable (AllBetween text kind i j) :=
  decidable_of_iff (i ≤ j ∧ ∀ k, i ≤ k → k < j → text[k]?.any kind = true) (by
    simp only [AllBetween, Option.any_eq_true])

def WordAt (text : Array Char) (i : Nat) : Prop :=
  ∃ c, text[i]? = some c ∧ Text.isWord c = true

/-- Of the characters around a position, exactly one is a word character. -/
def AtWordEdge (text : Array Char) (i : Nat) : Prop :=
  ¬ ((∃ k c, i = k + 1 ∧ text[k]? = some c ∧ Text.isWord c = true) ↔
    ∃ c, text[i]? = some c ∧ Text.isWord c = true)

theorem cons_prefix_drop {l : List Char} :
    c :: cs <+: l.drop i ↔ l[i]? = some c ∧ cs <+: l.drop (i + 1) := by
  rw [← List.tail_drop, ← List.head?_drop]
  cases l.drop i with
  | nil => simp
  | cons d rest => simp [List.cons_prefix_cons, eq_comm]

theorem Stands.char (h : Stands text s i j) (hk : s.toList[k]? = some c) :
    text[i + k]? = some c := by
  obtain ⟨rest, hrest⟩ := h.1
  have hlt : k < s.toList.length := (List.getElem?_eq_some_iff.mp hk).1
  rw [← Array.getElem?_toList, ← List.getElem?_drop, ← hrest, List.getElem?_append_left hlt, hk]

theorem Stands.lt_size (h : Stands text s i j) (hs : s ≠ "") : i < text.size := by
  by_contra hi
  have hnil : text.toList.drop i = [] := List.drop_eq_nil_of_le (by simpa using hi)
  have hempty : s.toList = [] := by simpa [hnil] using h.1
  exact hs (String.toList_eq_nil_iff.mp hempty)

theorem Stands.le (h : Stands text s i j) : i ≤ j := by
  rw [h.2]
  exact Nat.le_add_right i _

theorem stands_unique (s : String) : Relator.RightUnique (Stands text s) :=
  fun _ _ _ h h' => h.2.trans h'.2.symm

theorem exists_between (text : Array Char) (kind : Char → Bool) (i : Nat) :
    ∃ j, AllBetween text kind i j ∧ ¬ ∃ c, text[j]? = some c ∧ kind c = true := by
  by_cases h : ∃ c, text[i]? = some c ∧ kind c = true
  · obtain ⟨c, hc, hkind⟩ := h
    have hi : i < text.size := (Array.getElem?_eq_some_iff.mp hc).1
    obtain ⟨j, ⟨hle, hall⟩, hend⟩ := exists_between text kind (i + 1)
    refine ⟨j, ⟨by omega, fun k hk hlt => ?_⟩, hend⟩
    obtain rfl | hk := Nat.eq_or_lt_of_le hk
    · exact ⟨c, hc, hkind⟩
    · exact hall k hk hlt
  · exact ⟨i, ⟨Nat.le_refl i, fun k hk hlt => by omega⟩, h⟩
termination_by text.size - i

theorem AllBetween.imp {kind kind' : Char → Bool} (h : AllBetween text kind i j)
    (himp : ∀ x, kind x = true → kind' x = true) : AllBetween text kind' i j :=
  ⟨h.1, fun k hk hlt => (h.2 k hk hlt).imp fun x hx => ⟨hx.1, himp x hx.2⟩⟩

theorem AllBetween.le_size (h : AllBetween text kind i j) (hi : i ≤ text.size) : j ≤ text.size := by
  obtain ⟨hle, hall⟩ := h
  obtain rfl | hlt := Nat.eq_or_lt_of_le hle
  · exact hi
  · obtain ⟨c, hc, -⟩ := hall (j - 1) (by omega) (by omega)
    have := (Array.getElem?_eq_some_iff.mp hc).1
    omega

theorem wordAt_iff : wordAt text false i = true ↔
    ∃ c, text[i]? = some c ∧ Text.isWord c = true := by
  unfold wordAt
  cases text[i]? with
  | none => simp
  | some c => simp [CharKind.contains]

theorem atWordEdge_iff : atWordEdge text false i = true ↔ AtWordEdge text i := by
  have hbefore : (decide (0 < i) && wordAt text false (i - 1)) = true ↔
      ∃ k c, i = k + 1 ∧ text[k]? = some c ∧ Text.isWord c = true := by
    cases i with
    | zero => simp
    | succ k => simp [wordAt_iff]
  rw [AtWordEdge, ← hbefore, ← wordAt_iff, atWordEdge, bne_iff_ne, ne_eq, Bool.eq_iff_iff]

-- ---------------------------------------------------------------------------
-- Trees
-- ---------------------------------------------------------------------------

/-- A tree leads from where a stretch starts to where it ends, and leaves alone what groups
recorded. -/
def Node.Means (text : Array Char) (node : Node) (r : Stretch) : Prop :=
  ∀ i marks o, o ∈ outcomes text node i marks ↔ r i o.1 ∧ o.2 = marks

namespace Node.Means

theorem of_iff (h : Node.Means text node r) (hiff : ∀ i j, r i j ↔ r' i j) :
    Node.Means text node r' := by
  intro i marks o
  rw [h, hiff]

theorem char (set : Charset) :
    Node.Means text (.char set) fun i j => ∃ c, text[i]? = some c ∧ set.accepts c = true ∧
      j = i + 1 := by
  rintro i marks ⟨j, later⟩
  rw [mem_char]
  constructor
  · rintro ⟨c, hc, haccepts, ho⟩
    obtain ⟨rfl, rfl⟩ := Prod.mk.inj ho
    exact ⟨⟨c, hc, haccepts, rfl⟩, rfl⟩
  · rintro ⟨⟨c, hc, haccepts, rfl⟩, rfl⟩
    exact ⟨c, hc, haccepts, rfl⟩

theorem anchor (place : Anchor) :
    Node.Means text (.anchor place) fun i j => place.holds text i = true ∧ j = i := by
  rintro i marks ⟨j, later⟩
  simp [outcomes, and_assoc]

theorem append (ha : Node.Means text (.ofList front) r) (hb : Node.Means text (.ofList back) r') :
    Node.Means text (.ofList (front ++ back)) (Relation.Comp r r') := by
  intro i marks o
  rw [mem_ofList_append]
  constructor
  · rintro ⟨o', ho', ho⟩
    obtain ⟨hr, hmarks⟩ := (ha i marks o').mp ho'
    obtain ⟨hr', hmarks'⟩ := (hb _ _ o).mp ho
    exact ⟨⟨o'.1, hr, hr'⟩, hmarks'.trans hmarks⟩
  · rintro ⟨⟨k, hr, hr'⟩, rfl⟩
    exact ⟨(k, o.2), (ha i o.2 _).mpr ⟨hr, rfl⟩, (hb k o.2 o).mpr ⟨hr', rfl⟩⟩

theorem unique (h : Node.Means text node r) (h' : Node.Means text node r') (i j : Nat) :
    r i j ↔ r' i j := by
  have hiff := (h i (.blank 0) (j, .blank 0)).symm.trans (h' i (.blank 0) (j, .blank 0))
  simpa using hiff

theorem oneOf {node : α → Node} {r : α → Stretch} {choices : List α} (hne : choices ≠ [])
    (h : ∀ x ∈ choices, Node.Means text (node x) (r x)) :
    Node.Means text (.oneOf (choices.map node)) fun i j => ∃ x ∈ choices, r x i j := by
  intro i marks o
  rw [mem_oneOf (by simpa using hne)]
  constructor
  · rintro ⟨_, hmem, ho⟩
    obtain ⟨x, hx, rfl⟩ := List.mem_map.mp hmem
    obtain ⟨hr, hmarks⟩ := (h x hx i marks o).mp ho
    exact ⟨⟨x, hx, hr⟩, hmarks⟩
  · rintro ⟨⟨x, hx, hr⟩, hmarks⟩
    exact ⟨node x, List.mem_map_of_mem hx, (h x hx i marks o).mpr ⟨hr, hmarks⟩⟩

end Node.Means

theorem Node.Means.notAhead (h : Node.Means text body r) :
    Node.Means text (.ahead true body) fun i j => (¬ ∃ k, r i k) ∧ j = i := by
  rintro i marks ⟨j, later⟩
  have hnone : (∃ k, r i k) ↔ outcomes text body i marks ≠ [] := by
    constructor
    · rintro ⟨k, hr⟩
      exact List.ne_nil_of_mem ((h i marks (k, marks)).mpr ⟨hr, rfl⟩)
    · intro hne
      obtain ⟨o, ho⟩ := List.exists_mem_of_ne_nil _ hne
      exact ⟨o.1, ((h i marks o).mp ho).1⟩
  simp only [hnone, outcomes]
  cases outcomes text body i marks with
  | nil => simp
  | cons o rest => simp

/-- A set that is repeated without an upper bound can end wherever enough of its characters have
been passed. -/
theorem mem_setEnds_iff {set : Charset} {min : Nat} (hgreed : greed ≠ .possessive) :
    j ∈ setEnds text greed min none set i ↔
      ∃ k, j = i + k ∧ min ≤ k ∧ ∀ t < k, acceptsAt text set (i + t) = true := by
  refine ⟨mem_setEnds, ?_⟩
  rintro ⟨k, rfl, hmin, haccepts⟩
  have hroom : k ≤ text.size - i := by
    by_contra hroom
    have hlast := acceptsAt_lt (haccepts (k - 1) (by omega))
    omega
  cases greed with
  | possessive => exact absurd rfl hgreed
  | greedy =>
    have hrun : k ≤ runLength text set (capAt none (text.size - i)) i 0 :=
      le_runLength.mpr ⟨hroom, haccepts⟩
    simp only [setEnds]
    rw [if_neg (by omega)]
    refine List.mem_map.mpr ⟨k - min, ?_, by omega⟩
    rw [List.mem_reverse, List.mem_range]
    omega
  | reluctant =>
    have hfirst : min ≤ runLength text set min i 0 :=
      le_runLength.mpr ⟨Nat.le_refl _, fun t ht => haccepts t (by omega)⟩
    have hrest : k - min ≤ runLength text set (text.size - i - min) (i + min) 0 := by
      refine le_runLength.mpr ⟨by omega, fun t ht => ?_⟩
      rw [Nat.add_assoc]
      exact haccepts (min + t) (by omega)
    simp only [setEnds, Bool.or_eq_true, decide_eq_true_eq]
    rw [if_neg (by omega)]
    refine List.mem_map.mpr ⟨k - min, ?_, by omega⟩
    rw [List.mem_range]
    exact Nat.lt_succ_of_le hrest

theorem Node.Means.repeated {set : Charset} (hgreed : greed ≠ .possessive) (min : Nat) :
    Node.Means text (.repeated greed min none (.char set)) fun i j =>
      i + min ≤ j ∧ AllBetween text set.accepts i j := by
  rintro i marks ⟨j, later⟩
  simp only [outcomes, List.mem_map, Prod.mk.injEq, mem_setEnds_iff hgreed, acceptsAt_iff]
  constructor
  · rintro ⟨_, ⟨k, rfl, hmin, haccepts⟩, rfl, rfl⟩
    refine ⟨⟨by omega, by omega, fun t hi ht => ?_⟩, rfl⟩
    obtain ⟨x, rfl⟩ := Nat.exists_eq_add_of_le hi
    exact haccepts x (by omega)
  · rintro ⟨⟨hmin, hle, haccepts⟩, rfl⟩
    exact ⟨j, ⟨j - i, by omega, by omega, fun t ht => haccepts _ (by omega) (by omega)⟩, rfl, rfl⟩

theorem Node.Means.letters_of {flags : Flags} {rel : Char → Char → Prop}
    (haccepts : ∀ c x, (Charset.literal flags.fold c.toNat false).accepts x = true ↔ rel c x)
    (cs : List Char) :
    Node.Means text (.ofList (cs.map (.letter flags))) fun i j =>
      ∃ xs, List.Forall₂ rel cs xs ∧ xs <+: text.toList.drop i ∧ j = i + xs.length := by
  induction cs with
  | nil =>
    rintro i marks ⟨j, later⟩
    simp [Node.ofList, outcomes]
  | cons c cs ih =>
    have hletter : Node.Means text (.ofList [Node.letter flags c]) _ := .char _
    refine (hletter.append ih).of_iff fun i j => ?_
    simp only [Relation.Comp, haccepts, List.forall₂_cons_left_iff]
    constructor
    · rintro ⟨_, ⟨x, hx, hrel, rfl⟩, xs, hxs, hrest, rfl⟩
      refine ⟨x :: xs, ⟨x, xs, hrel, hxs, rfl⟩, ?_, by rw [List.length_cons]; omega⟩
      exact cons_prefix_drop.mpr ⟨by simpa using hx, hrest⟩
    · rintro ⟨_, ⟨x, xs, hrel, hxs, rfl⟩, hprefix, rfl⟩
      obtain ⟨hx, hrest⟩ := cons_prefix_drop.mp hprefix
      refine ⟨i + 1, ⟨x, by simpa using hx, hrel, rfl⟩, xs, hxs, hrest, ?_⟩
      rw [List.length_cons]
      omega

theorem Node.Means.letters (s : String) :
    Node.Means text (.ofList (s.toList.map (.letter {}))) (Stands text s) := by
  have hexact (c x : Char) : (Charset.literal (Flags.fold {}) c.toNat false).accepts x = true ↔
      c = x := by
    rw [show Flags.fold {} = .exact from rfl, Charset.accepts_literal_exact, Char.toNat_inj,
      eq_comm]
  refine (Node.Means.letters_of hexact s.toList).of_iff fun i j => ?_
  simp only [List.forall₂_eq_eq_eq, exists_eq_left', Stands, String.length_toList]

-- ---------------------------------------------------------------------------
-- Phrases
-- ---------------------------------------------------------------------------

/-- A phrase that is read under some switches adds items, whatever has been read before, and these
stand for a stretch. -/
def Phrase.Means (text : Array Char) (e : Phrase) (r : Stretch) (flags : Flags := {}) : Prop :=
  ∀ d : Draft, d.level.flags = flags → ∃ items,
    e.extend d = { d with level := { d.level with items := items ++ d.level.items } } ∧
      Node.Means text (Item.sequence items) r

namespace Phrase.Means

theorem of_iff (h : Phrase.Means text e r flags) (hiff : ∀ i j, r i j ↔ r' i j) :
    Phrase.Means text e r' flags := by
  intro d hd
  obtain ⟨items, hextend, hmeans⟩ := h d hd
  exact ⟨items, hextend, hmeans.of_iff hiff⟩

theorem append (ha : Phrase.Means text a r flags) (hb : Phrase.Means text b r' flags) :
    Phrase.Means text (a ++ b) (Relation.Comp r r') flags := by
  intro d hd
  obtain ⟨items, hextend, hmeans⟩ := ha d hd
  obtain ⟨items', hextend', hmeans'⟩ :=
    hb { d with level := { d.level with items := items ++ d.level.items } } hd
  refine ⟨items' ++ items, ?_, ?_⟩
  · show b.extend (a.extend d) = _
    rw [hextend, hextend', List.append_assoc]
  · rw [Item.sequence, List.reverse_append, List.map_append]
    exact hmeans.append hmeans'

theorem of_steady (hsteady : e.steady = true)
    (h : Node.Means text (Item.sequence (e.items flags)) r) : Phrase.Means text e r flags := by
  intro d hd
  have hextend := Phrase.extend_steady hsteady d
  rw [hd] at hextend
  exact ⟨_, hextend, h⟩

theorem literal (s : String) : Phrase.Means text (.literal s) (Stands text s) := by
  refine .of_steady (Phrase.steady_literal s) ?_
  rw [Phrase.items_literal, sequence_spelled]
  exact .letters s

theorem wordEdge :
    Phrase.Means text .wordEdge fun i j => text.size ≠ 0 ∧ AtWordEdge text i ∧ j = i := by
  have hnode : Node.Means text (Item.sequence (Phrase.wordEdge.items {})) _ :=
    .anchor (.wordEdge false)
  refine .of_steady rfl (hnode.of_iff fun i j => ?_)
  simp [Anchor.holds, atWordEdge_iff, and_assoc]

theorem notAhead (h : Phrase.Means text e r flags) :
    Phrase.Means text (.group .notAhead e) (fun i j => (¬ ∃ k, r i k) ∧ j = i) flags := by
  intro d hd
  obtain ⟨items, hextend, hmeans⟩ := h (d.inside .notAhead) hd
  have hlevel : (e.extend (d.inside .notAhead)).level.node = Item.sequence items := by
    rw [hextend, ← Level.node_single d.level.flags items]
    exact congrArg (fun items => Level.node { flags := d.level.flags, items }) (List.append_nil _)
  refine ⟨[{ node := .ahead true (Item.sequence items) }], ?_, hmeans.notAhead⟩
  simp only [Phrase.extend, Draft.close, hlevel]
  rw [hextend]
  rfl

theorem charset {set : Charset} (hset : e.charset? flags = some set) :
    Phrase.Means text e (fun i j => ∃ c, text[i]? = some c ∧ set.accepts c = true ∧ j = i + 1)
      flags := by
  intro d hd
  obtain ⟨item, hextend, hnode⟩ := Phrase.extend_charset (hd ▸ hset)
  refine ⟨[item], hextend, ?_⟩
  show Node.Means text item.node _
  rw [hnode]
  exact .char set

theorem repeatedSet {set : Charset} (hset : e.charset? flags = some set) (mark : Mark)
    (hmax : mark.bound.limits.2 = none) :
    Phrase.Means text (.repeated mark e)
      (fun i j => i + mark.bound.limits.1 ≤ j ∧ AllBetween text set.accepts i j) flags := by
  have hgreed : mark.greed ≠ .possessive := by
    unfold Mark.greed
    split <;> simp
  intro d hd
  obtain ⟨item, hextend, hnode⟩ := Phrase.extend_charset (hd ▸ hset)
  refine ⟨[{ node := mark.node item.node, kind := .repetition }], ?_, ?_⟩
  · simp only [Phrase.extend, hextend]
    rfl
  · show Node.Means text (mark.node item.node) _
    rw [hnode, Mark.node, hmax]
    exact .repeated hgreed _

theorem charset?_shorthand (hascii : flags.ascii = false) (kind : CharKind) :
    ∃ set, (Phrase.shorthand kind false).charset? flags = some set ∧
      set.accepts = kind.contains false := by
  refine ⟨{ items := [.kind kind false false] }, ?_, ?_⟩
  · show some (bracketCharset flags.fold false [.kind kind flags.ascii false]) = _
    rw [hascii]
    cases flags.fold <;> cases kind <;> rfl
  · funext c
    simp [Charset.accepts, Fold.apply, ClassItem.contains]

theorem shorthand (hascii : flags.ascii = false) (kind : CharKind) :
    Phrase.Means text (.shorthand kind false) (fun i j =>
      ∃ c, text[i]? = some c ∧ kind.contains false c = true ∧ j = i + 1) flags := by
  obtain ⟨set, hset, haccepts⟩ := charset?_shorthand hascii kind
  rw [← haccepts]
  exact .charset hset

theorem repeatedKind (hascii : flags.ascii = false) (kind : CharKind) (mark : Mark)
    (hmax : mark.bound.limits.2 = none) :
    Phrase.Means text (.repeated mark (.shorthand kind false)) (fun i j =>
      i + mark.bound.limits.1 ≤ j ∧ AllBetween text (kind.contains false) i j) flags := by
  obtain ⟨set, hset, haccepts⟩ := charset?_shorthand hascii kind
  rw [← haccepts]
  exact .repeatedSet hset mark hmax

theorem group {e : Phrase} (h : ∀ d : Draft, d.level.flags = flags →
    (e.extend (d.inside .plain)).widths = d.widths ∧
      Node.Means text (e.extend (d.inside .plain)).level.node r) :
    Phrase.Means text (.group .plain e) r flags := by
  intro d hd
  obtain ⟨hwidths, hnode⟩ := h d hd
  let level := (e.extend (d.inside .plain)).level
  refine ⟨[{ node := level.node, pieces := level.pieces }], ?_, hnode⟩
  simp only [Phrase.extend, Draft.close, hwidths]
  rfl

theorem anyOf {names : List String} (hne : names ≠ []) :
    Phrase.Means text (.group .plain (.oneOf (names.map Phrase.literal))) fun i j =>
      ∃ name ∈ names, Stands text name i j := by
  refine .group fun d hd => ?_
  obtain ⟨hoffers, hwidths⟩ := Spelling.literal.offers hne hd
  refine ⟨hwidths, ?_⟩
  obtain ⟨-, hnode⟩ | ⟨⟨hcase, -⟩, -⟩ := hoffers.node_cases Spelling.literal
  · rw [hnode]
    refine .oneOf hne fun name _ => ?_
    rw [Phrase.items_literal, sequence_spelled]
    exact .letters name
  · cases hcase

theorem node_start (h : Phrase.Means text e r flags) :
    Node.Means text (e.extend (.start flags)).level.node r := by
  obtain ⟨items, hextend, hmeans⟩ := h (.start flags) rfl
  have hlevel : (e.extend (.start flags)).level = { flags, items } := by
    rw [hextend]
    exact congrArg (fun items => ({ flags, items } : Level)) (List.append_nil items)
  rwa [hlevel, Level.node_single]

end Phrase.Means

end CodeAudit.Regex

namespace CodeAudit.Rule

open CodeAudit.Regex
open CodeAudit.Text (isBlank)
open Phrasing (blanks space)

theorem means_blanks (hascii : flags.ascii = false) :
    blanks.Means text (AllBetween text isBlank) flags := by
  refine (Phrase.Means.repeatedKind hascii .blank ⟨.any, false⟩ rfl).of_iff fun i j => ?_
  exact and_iff_right_of_imp And.left

theorem means_space (hascii : flags.ascii = false) :
    space.Means text (fun i j => i < j ∧ AllBetween text isBlank i j) flags :=
  .repeatedKind hascii .blank ⟨.some, false⟩ rfl

-- ---------------------------------------------------------------------------
-- Matchers
-- ---------------------------------------------------------------------------

/-- A matcher finds something in a text exactly if it occurs there, and nothing else. -/
structure Finds (matcher : Matcher) (text : Array Char) (occurs : Stretch) : Prop where
  some_iff : matcher.findAll text ≠ [] ↔ ∃ i j, occurs i j
  only : ∀ m ∈ matcher.findAll text, occurs m.start m.stop

/-- The matcher of a phrase finds what the phrase means. -/
theorem exists_matcher_of_means {e : Phrase} {occurs : Array Char → Stretch}
    (hwritten : Phrasing.Written e source) (hmeans : ∀ text, e.Means text (occurs text))
    (hinside : ∀ text i j, occurs text i j → i ≤ text.size) :
    ∃ matcher, Recipe.matcher { source } = .ok matcher ∧
      ∀ text, Finds matcher text (occurs text) := by
  obtain ⟨hfine, rfl⟩ := hwritten
  refine ⟨{ pattern := _ }, by rw [Recipe.matcher, compile_source hfine rfl], fun text => ?_⟩
  have hroot := (hmeans text).node_start
  constructor
  case some_iff =>
    rw [Matcher.findAll_ne_nil_iff, Matcher.search, Pattern.isSome_search]
    constructor
    · rintro ⟨i, -, hne⟩
      obtain ⟨o, ho⟩ := List.exists_mem_of_ne_nil _ hne
      exact ⟨i, o.1, ((hroot _ _ o).mp ho).1⟩
    · rintro ⟨i, j, hoccurs⟩
      refine ⟨i, hinside text i j hoccurs, ?_⟩
      exact List.ne_nil_of_mem ((hroot i _ (j, _)).mpr ⟨hoccurs, rfl⟩)
  case only =>
    intro m hm
    obtain ⟨-, hmem⟩ := Matcher.mem_findAll hm
    exact ((hroot _ _ _).mp hmem).1

end CodeAudit.Rule
