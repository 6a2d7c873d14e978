import CodeAudit.Proofs.Covering

/-!
# More alternatives

Alternatives that differ in their last character only are read as a set of characters, others one
by one. So further alternatives may change how the ones that were there before are compared, if
case is ignored: a text that ends in a capital letter above the basic plane is lost when the
alternatives around it become a set. Nothing else is lost (`Phrase.Below.anyOf`).
-/

namespace CodeAudit.Regex

open CodeAudit.Text

variable {text : Array Char}

-- ---------------------------------------------------------------------------
-- Items
-- ---------------------------------------------------------------------------

namespace Phrase

def items (flags : Flags) (e : Phrase) : List Item :=
  (e.extend (.start flags)).level.items

theorem extend_steady {e : Phrase} (hsteady : e.steady = true) (d : Draft) : e.extend d =
    { d with level := { d.level with items := e.items d.level.flags ++ d.level.items } } := by
  induction e generalizing d with
  | empty | plain | slashed | shorthand | any | wordEdge | lineEnd | set => rfl
  | repeated mark body ih =>
    obtain ⟨hbody, hsteady⟩ := Bool.and_eq_true_iff.mp hsteady
    cases body with
    | plain | slashed | shorthand | any | set => rfl
    | group => cases hsteady
    | _ => cases hbody
  | append a b iha ihb =>
    obtain ⟨ha, hb⟩ := Bool.and_eq_true_iff.mp hsteady
    have hitems (flags : Flags) : (append a b).items flags = b.items flags ++ a.items flags := by
      show (b.extend (a.extend (.start flags))).level.items = _
      rw [iha ha (.start flags), ihb hb]
      exact congrArg (b.items flags ++ ·) (List.append_nil _)
    show b.extend (a.extend d) = _
    rw [iha ha d, ihb hb, hitems, List.append_assoc]
  | group | bar => cases hsteady

theorem items_append {a b : Phrase} (ha : a.steady = true) (hb : b.steady = true) :
    (a ++ b).items flags = b.items flags ++ a.items flags := by
  show (b.extend (a.extend (.start flags))).level.items = _
  rw [extend_steady ha (.start flags), extend_steady hb]
  exact congrArg (b.items flags ++ ·) (List.append_nil _)

theorem extend_oneOf {es : List Phrase} (hne : es ≠ []) (hsteady : ∀ e ∈ es, e.steady = true)
    (d : Draft) (hitems : d.level.items = []) :
    ((oneOf es).extend d).level.alternatives =
        d.level.done.reverse ++ es.map (·.items d.level.flags) ∧
      ((oneOf es).extend d).level.flags = d.level.flags ∧
      ((oneOf es).extend d).widths = d.widths := by
  fun_induction oneOf es generalizing d with
  | case1 => exact absurd rfl hne
  | case2 e =>
    rw [extend_steady (hsteady e List.mem_cons_self)]
    simp [Level.alternatives, hitems]
  | case3 e rest hrest ih =>
    obtain ⟨he, hsteady⟩ := List.forall_mem_cons.mp hsteady
    have hbar : (e ++ (.bar ++ oneOf rest)).extend d = (oneOf rest).extend { d with
        level := { d.level with done := e.items d.level.flags :: d.level.done, items := [] } } := by
      show (oneOf rest).extend { e.extend d with level := (e.extend d).level.bar } = _
      rw [extend_steady he]
      simp [Level.bar, hitems]
    rw [hbar]
    obtain ⟨halternatives, hflags, hwidths⟩ := ih hrest hsteady { d with
      level := { d.level with done := e.items d.level.flags :: d.level.done, items := [] } } rfl
    exact ⟨by simp [halternatives], hflags, hwidths⟩

end Phrase

-- ---------------------------------------------------------------------------
-- Spelled texts
-- ---------------------------------------------------------------------------

def Item.letter (flags : Flags) (c : Char) : Item := .ofSet flags.fold false [.single c.toNat]

def Piece.letter (c : Char) : Piece := .set false [.single c.toNat]

def Node.letter (flags : Flags) (c : Char) : Node := .char (.literal flags.fold c.toNat false)

def spelled (flags : Flags) (cs : List Char) : List Item := (cs.map (.letter flags)).reverse

theorem sequence_spelled (flags : Flags) (cs : List Char) :
    Item.sequence (spelled flags cs) = .ofList (cs.map (.letter flags)) := by
  simp only [Item.sequence, spelled, List.reverse_reverse, List.map_map]
  rfl

theorem allPieces_spelled (flags : Flags) (cs : List Char) :
    Item.allPieces (spelled flags cs) = cs.map .letter := by
  rw [Item.allPieces, spelled, List.reverse_reverse, List.flatMap_map]
  exact (List.map_eq_flatMap ..).symm

theorem pieceLetter_injective : Function.Injective Piece.letter := by
  intro c c' h
  simp only [Piece.letter, Piece.set.injEq, List.cons.injEq, ClassItem.single.injEq] at h
  exact Char.toNat_inj.mp h.2.1

namespace Phrase

theorem steady_sequence {es : List Phrase} (h : ∀ e ∈ es, e.steady = true) :
    (sequence es).steady = true := by
  induction es with
  | nil => rfl
  | cons e rest ih =>
    obtain ⟨he, hrest⟩ := List.forall_mem_cons.mp h
    exact Bool.and_eq_true_iff.mpr ⟨he, ih hrest⟩

theorem steady_exactly (c : Char) : (exactly c).steady = true := by
  unfold exactly
  split <;> rfl

@[simp]
theorem steady_literal (s : String) : (literal s).steady = true := by
  refine steady_sequence fun e he => ?_
  obtain ⟨c, -, rfl⟩ := List.mem_map.mp he
  exact steady_exactly c

theorem items_exactly (flags : Flags) (c : Char) : (exactly c).items flags = [.letter flags c] := by
  unfold exactly
  split <;> rfl

theorem items_literal (flags : Flags) (s : String) :
    (literal s).items flags = spelled flags s.toList := by
  unfold literal
  induction s.toList with
  | nil => rfl
  | cons c cs ih =>
    have hrest : (sequence (cs.map exactly)).steady = true := by
      refine steady_sequence fun e he => ?_
      obtain ⟨c, -, rfl⟩ := List.mem_map.mp he
      exact steady_exactly c
    rw [List.map_cons, sequence, items_append (steady_exactly c) hrest, ih, items_exactly]
    simp [spelled]

end Phrase

/-- A way of writing texts as phrases. Those that are plain are spelled; the others have a
repetition in them. -/
structure Spelling (plain : String → Prop) (phrase : String → Phrase) : Prop where
  steady : ∀ s, (phrase s).steady = true
  spelled : ∀ s, plain s → ∀ flags, (phrase s).items flags = spelled flags s.toList
  compound : ∀ s, ¬ plain s → ∀ flags, .compound ∈ Item.allPieces ((phrase s).items flags)

theorem Spelling.literal : Spelling (fun _ => True) Phrase.literal where
  steady := Phrase.steady_literal
  spelled s _ flags := Phrase.items_literal flags s
  compound _ h := absurd trivial h

-- ---------------------------------------------------------------------------
-- What alternatives have in common
-- ---------------------------------------------------------------------------

namespace Piece

theorem compound_notMem_shared (first : List Piece) (others : List (List Piece)) :
    .compound ∉ shared first others := by
  fun_induction shared first others with
  | case1 => simp
  | case2 p rest others hp ih =>
    have hne : p ≠ .compound := by simpa using (Bool.and_eq_true_iff.mp hp).1
    simp [ih, hne.symm]
  | case3 => simp

theorem shared_append (hcompound : .compound ∉ start) (h : ∀ pieces ∈ others, start <+: pieces) :
    shared (start ++ rest) others = start ++ shared rest (others.map (·.drop start.length)) := by
  induction start generalizing others with
  | nil => simp
  | cons p start ih =>
    obtain ⟨hp, hcompound⟩ := not_or.mp (mt List.mem_cons.mpr hcompound)
    have hheads : others.all (·.head? == some p) = true := by
      refine List.all_eq_true.mpr fun pieces hpieces => ?_
      obtain ⟨tail, rfl⟩ := h pieces hpieces
      simp
    have htails : ∀ pieces ∈ others.map List.tail, start <+: pieces := by
      intro pieces hpieces
      obtain ⟨pieces, hmem, rfl⟩ := List.mem_map.mp hpieces
      obtain ⟨tail, rfl⟩ := h pieces hmem
      exact ⟨tail, rfl⟩
    rw [List.cons_append, shared, if_pos (by simpa [hheads] using Ne.symm hp), ih hcompound htails]
    simp [List.map_map, Function.comp_def]

theorem members?_eq_some : members? pieces = some members ↔ pieces = [.set false members] := by
  unfold members?
  split <;> simp_all

theorem shared_isPrefix (first : List Piece) (others : List (List Piece)) :
    shared first others <+: first ∧ ∀ pieces ∈ others, shared first others <+: pieces := by
  fun_induction shared first others with
  | case1 => simp
  | case2 p rest others hp ih =>
    obtain ⟨hfirst, hothers⟩ := ih
    refine ⟨List.cons_prefix_cons.mpr ⟨rfl, hfirst⟩, fun pieces hpieces => ?_⟩
    have hhead : pieces.head? = some p := by
      simpa using List.all_eq_true.mp (Bool.and_eq_true_iff.mp hp).2 pieces hpieces
    obtain ⟨tail, rfl⟩ := List.head?_eq_some_iff.mp hhead
    exact List.cons_prefix_cons.mpr ⟨rfl, hothers tail (List.mem_map.mpr ⟨_, hpieces, rfl⟩)⟩
  | case3 => simp

/-- If alternatives are read as a set, each of them is the common start and a member of the set. -/
theorem factor_eq_some (h : factor alternatives = (start, some members)) :
    .compound ∉ start ∧
      (∀ pieces ∈ alternatives, ∃ ms, pieces = start ++ [.set false ms] ∧ ms ⊆ members) ∧
      ∀ m ∈ members, ∃ ms, start ++ [.set false ms] ∈ alternatives ∧ m ∈ ms := by
  cases alternatives with
  | nil => cases congrArg Prod.snd h
  | cons first others =>
    obtain ⟨rfl, hends⟩ := Prod.mk.inj h
    obtain ⟨found, hfound, rfl⟩ := Option.map_eq_some_iff.mp hends
    obtain ⟨hfirst, hothers⟩ := shared_isPrefix first others
    have hstart : ∀ pieces ∈ first :: others, ∀ ms,
        members? (pieces.drop (shared first others).length) = some ms →
          pieces = shared first others ++ [.set false ms] := by
      intro pieces hpieces ms hms
      obtain ⟨tail, rfl⟩ := List.forall_mem_cons.mpr ⟨hfirst, hothers⟩ pieces hpieces
      rw [List.drop_left, members?_eq_some] at hms
      rw [hms]
    rw [mapM_eq_some] at hfound
    refine ⟨compound_notMem_shared first others, fun pieces hpieces => ?_, fun m hm => ?_⟩
    · obtain ⟨ms, hms, heq⟩ := List.mem_map.mp (hfound ▸ List.mem_map_of_mem hpieces)
      refine ⟨ms, hstart pieces hpieces ms heq.symm, fun m hm => ?_⟩
      exact List.mem_eraseDups.mpr (List.mem_flatten.mpr ⟨ms, hms, hm⟩)
    · obtain ⟨ms, hms, hm⟩ := List.mem_flatten.mp (List.mem_eraseDups.mp hm)
      obtain ⟨pieces, hpieces, heq⟩ := List.mem_map.mp (hfound ▸ List.mem_map_of_mem hms)
      exact ⟨ms, hstart pieces hpieces ms heq ▸ hpieces, hm⟩

end Piece

-- ---------------------------------------------------------------------------
-- Texts that differ in their last character
-- ---------------------------------------------------------------------------

/-- The texts agree up to their last characters, and these are not all the same. -/
def DifferAtEnd (texts : List String) : Prop :=
  ∃ start, (∀ s ∈ texts, ∃ c, s.toList = start ++ [c]) ∧ ∃ s ∈ texts, ∃ s' ∈ texts, s ≠ s'

/-- The last character is a capital letter above the basic plane. -/
def EndsHigh (s : String) : Prop :=
  ∃ start c, s.toList = start ++ [c] ∧ IsHighCapital c.toNat

theorem factor_of_differ (h : DifferAtEnd texts) :
    (Piece.factor (texts.map fun s => s.toList.map .letter)).2 ≠ none := by
  obtain ⟨cs, hends, s, hs, s', hs', hne⟩ := h
  cases texts with
  | nil => cases hs
  | cons first others =>
    obtain ⟨⟨c, hfirst⟩, hothers⟩ := List.forall_mem_cons.mp hends
    -- The common start ends where the texts differ.
    have hdiffer : ∃ other ∈ others, other ≠ first := by
      by_contra hsame
      have hsame : ∀ other ∈ first :: others, other = first := by simpa using hsame
      exact hne ((hsame s hs).trans (hsame s' hs').symm)
    have hshared : Piece.shared (first.toList.map .letter)
        (others.map fun s => s.toList.map .letter) = cs.map .letter := by
      rw [hfirst, List.map_append, Piece.shared_append]
      · obtain ⟨other, hother, hne⟩ := hdiffer
        obtain ⟨c', hc'⟩ := hothers other hother
        have hletter : Piece.letter c' ≠ .letter c := by
          intro heq
          obtain rfl := pieceLetter_injective heq
          exact hne (String.toList_inj.mp (hc'.trans hfirst.symm))
        simp only [List.map_cons, List.map_nil, Piece.shared]
        rw [if_neg, List.append_nil]
        simp only [Bool.and_eq_true, List.all_eq_true, not_and, not_forall]
        intro _
        refine ⟨[.letter c'], ?_, by simpa using hletter⟩
        simp only [List.map_map, List.mem_map]
        exact ⟨other, hother, by simp [hc']⟩
      · simp [Piece.letter]
      · intro pieces hpieces
        obtain ⟨other, hother, rfl⟩ := List.mem_map.mp hpieces
        obtain ⟨c', hc'⟩ := hothers other hother
        exact ⟨[.letter c'], by simp [hc']⟩
    have hmembers : ((first :: others).map fun s => s.toList.map Piece.letter).mapM (fun pieces =>
        Piece.members? (pieces.drop (cs.map Piece.letter).length)) = some ((first :: others).map
          fun s => (s.toList.drop cs.length).map fun c => .single c.toNat) := by
      rw [mapM_eq_some, List.map_map, List.map_map]
      refine List.map_congr_left fun s hs => ?_
      obtain ⟨c, hc⟩ := hends s hs
      simp [hc, Piece.members?_eq_some, Piece.letter]
    rw [List.map_cons] at hmembers ⊢
    simp only [Piece.factor, hshared, hmembers, Option.map_some]
    exact Option.some_ne_none _

variable {plain : String → Prop} {phrase : String → Phrase}

/-- If texts are read as a set, they are plain and differ in their last character, and these
characters make the set. -/
theorem Spelling.of_factor (hspelling : Spelling plain phrase)
    (h : Piece.factor (texts.map fun s => Item.allPieces ((phrase s).items flags)) =
      (start, some members)) :
    (∀ s ∈ texts, plain s) ∧ DifferAtEnd texts ∧ ∃ cs : List Char, start = cs.map .letter ∧
      (∀ s ∈ texts, ∃ c, s.toList = cs ++ [c] ∧ .single c.toNat ∈ members) ∧
      ∀ m ∈ members, ∃ s ∈ texts, ∃ c, s.toList = cs ++ [c] ∧ m = .single c.toNat := by
  obtain ⟨hcompound, hpieces, hmembers⟩ := Piece.factor_eq_some h
  have hplain : ∀ s ∈ texts, plain s := by
    intro s hs
    by_contra hs'
    obtain ⟨ms, heq, -⟩ := hpieces _ (List.mem_map.mpr ⟨s, hs, rfl⟩)
    have hmem := hspelling.compound s hs' flags
    rw [heq] at hmem
    exact hcompound (by simpa using hmem)
  have hletters : ∀ s ∈ texts, Item.allPieces ((phrase s).items flags) = s.toList.map .letter :=
    fun s hs => by rw [hspelling.spelled s (hplain s hs), allPieces_spelled]
  have hsplit : ∀ s ∈ texts, ∃ cs c, s.toList = cs ++ [c] ∧ cs.map .letter = start ∧
      .single c.toNat ∈ members := by
    intro s hs
    obtain ⟨ms, heq, hms⟩ := hpieces _ (List.mem_map.mpr ⟨s, hs, rfl⟩)
    rw [hletters s hs] at heq
    obtain ⟨cs, rest, hs, hcs, hrest⟩ := List.map_eq_append_iff.mp heq
    obtain ⟨c, rfl, hc⟩ := List.map_eq_singleton_iff.mp hrest
    simp only [Piece.letter, Piece.set.injEq, true_and] at hc
    exact ⟨cs, c, hs, hcs, hms (hc ▸ List.mem_singleton_self _)⟩
  cases texts with
  | nil => cases congrArg Prod.snd h
  | cons first others =>
    obtain ⟨cs, c, hfirst, rfl, -⟩ := hsplit first List.mem_cons_self
    have hends : ∀ s ∈ first :: others, ∃ c, s.toList = cs ++ [c] ∧ .single c.toNat ∈ members := by
      intro s hs
      obtain ⟨cs', c, hc, hcs', hmem⟩ := hsplit s hs
      obtain rfl := List.map_injective_iff.mpr pieceLetter_injective hcs'
      exact ⟨c, hc, hmem⟩
    refine ⟨hplain, ⟨cs, fun s hs => (hends s hs).imp fun c hc => hc.1, ?_⟩, cs, rfl, hends, ?_⟩
    · -- Texts that are all the same have nothing left after their common start.
      by_contra hsame
      have hsame : ∀ other ∈ others, other = first := by
        intro other hother
        by_contra hne
        exact hsame ⟨other, List.mem_cons_of_mem _ hother, first, List.mem_cons_self, hne⟩
      have hshared : Piece.shared (first.toList.map .letter ++ [])
          (others.map fun s => Item.allPieces ((phrase s).items flags)) =
            first.toList.map .letter ++ [] := by
        refine Piece.shared_append (by simp [Piece.letter]) fun pieces hpieces => ?_
        obtain ⟨other, hother, rfl⟩ := List.mem_map.mp hpieces
        have heq := hletters other (List.mem_cons_of_mem _ hother)
        rw [hsame other hother] at heq ⊢
        exact heq ▸ List.prefix_rfl
      have hstart : Piece.shared (first.toList.map .letter)
          (others.map fun s => Item.allPieces ((phrase s).items flags)) = cs.map .letter := by
        rw [← hletters first List.mem_cons_self]
        exact congrArg Prod.fst h
      rw [List.append_nil, hstart, hfirst] at hshared
      simpa using congrArg List.length hshared
    · intro m hm
      obtain ⟨ms, hms, hm⟩ := hmembers m hm
      obtain ⟨s, hs, heq⟩ := List.mem_map.mp hms
      obtain ⟨c, hc, -⟩ := hends s hs
      rw [hletters s hs, hc, List.map_append] at heq
      have hms : ms = [.single c.toNat] := by
        simpa [Piece.letter, eq_comm] using heq
      rw [hms] at hm
      exact ⟨s, hs, c, hc, List.mem_singleton.mp hm⟩

-- ---------------------------------------------------------------------------
-- Trees of alternatives
-- ---------------------------------------------------------------------------

/-- Whether texts are read as a set of characters: case is ignored, they are plain, and they differ
in their last character. -/
def ReadAsSet (plain : String → Prop) (f : Flags) (texts : List String) : Prop :=
  f.ignoreCase = true ∧ DifferAtEnd texts ∧ ∀ s ∈ texts, plain s

theorem Flags.Below.unicode (hf : Flags.Below f f') (h : f'.ignoreCase = true) :
    f'.fold = .unicode := by
  have hascii : f'.ascii = false := hf.same.1.trans hf.1
  simp [Flags.fold, Level.fold, h, hascii]

theorem mem_char {set : Charset} : o ∈ outcomes text (.char set) i marks ↔
    ∃ c, text[i]? = some c ∧ set.accepts c = true ∧ o = (i + 1, marks) := by
  simp only [outcomes, List.mem_ite_nil_right, List.mem_singleton, acceptsAt_iff]
  constructor
  · rintro ⟨⟨c, hc, hset⟩, ho⟩
    exact ⟨c, hc, hset, ho⟩
  · rintro ⟨c, hc, hset, ho⟩
    exact ⟨⟨c, hc, hset⟩, ho⟩

structure Level.Offers (phrase : String → Phrase) (f : Flags) (texts : List String)
    (level : Level) : Prop where
  flags : level.flags = f
  alternatives : level.alternatives = texts.map fun s => (phrase s).items f

/-- Texts that are read as a set become a set behind their common start. Others are tried one by
one. -/
theorem Level.Offers.node_cases {level : Level} (hspelling : Spelling plain phrase)
    (h : level.Offers phrase f texts) :
    ¬ ReadAsSet plain f texts ∧
        level.node = .oneOf (texts.map fun s => Item.sequence ((phrase s).items f)) ∨
      ReadAsSet plain f texts ∧ ∃ (cs : List Char) (members : List ClassItem),
        (∀ s ∈ texts, ∃ c, s.toList = cs ++ [c] ∧ .single c.toNat ∈ members) ∧
        (∀ m ∈ members, ∃ s ∈ texts, ∃ c, s.toList = cs ++ [c] ∧ m = .single c.toNat) ∧
        level.node = .ofList
          (cs.map (.letter f) ++ [.char (.ofItems f.fold members false)]) := by
  have hfold : level.fold = f.fold := congrArg Flags.fold h.flags
  have hpieces : level.alternatives.map Item.allPieces =
      texts.map fun s => Item.allPieces ((phrase s).items f) := by
    rw [h.alternatives, List.map_map]
    rfl
  have hseparate : level.alternatives.map Item.sequence =
      texts.map fun s => Item.sequence ((phrase s).items f) := by
    rw [h.alternatives, List.map_map]
    rfl
  simp only [Level.node, h.flags, hfold, hpieces, hseparate]
  cases hcase : f.ignoreCase with
  | false => exact .inl ⟨by simp [ReadAsSet, hcase], rfl⟩
  | true =>
    rcases hfactor : Piece.factor (texts.map fun s => Item.allPieces ((phrase s).items f))
      with ⟨start, _ | members⟩
    · refine .inl ⟨?_, rfl⟩
      rintro ⟨-, hdiffer, hplain⟩
      have hletters : (texts.map fun s => Item.allPieces ((phrase s).items f)) =
          texts.map fun s => s.toList.map .letter :=
        List.map_congr_left fun s hs => by rw [hspelling.spelled s (hplain s hs), allPieces_spelled]
      exact factor_of_differ hdiffer (hletters ▸ congrArg Prod.snd hfactor)
    · obtain ⟨hplain, hdiffer, cs, rfl, hends, hmembers⟩ := hspelling.of_factor hfactor
      refine .inr ⟨⟨hcase, hdiffer, hplain⟩, cs, members, hends, hmembers, ?_⟩
      simp only [if_true, List.map_map]
      rfl

/-- Texts of which one is lost when they and further ones are read as alternatives: only then are
they read as a set, and one of them ends in a letter that sets lose. -/
def Loses (plain : String → Prop) (f : Flags) (texts : List String) (f' : Flags)
    (texts' : List String) : Prop :=
  ReadAsSet plain f' texts' ∧ ¬ ReadAsSet plain f texts ∧ ∃ s ∈ texts, EndsHigh s

theorem Item.sequence_below {e : Phrase} (hsteady : e.steady = true) (hf : f.Below f') :
    Node.Below text (Item.sequence (e.items f)) (Item.sequence (e.items f')) :=
  Item.Below.sequence (Phrase.Below.of_steady hf hsteady _ _ (.start f f')).items

section Levels

variable {level level' : Level}

theorem Level.Offers.below_of_separate (hspelling : Spelling plain phrase) (hf : f.Below f')
    (h' : level'.Offers phrase f' texts') (hs : s ∈ texts')
    (hkept : ReadAsSet plain f' texts' → ¬ EndsHigh s) :
    Node.Below text (Item.sequence ((phrase s).items f)) level'.node := by
  intro i marks o ho
  obtain ⟨-, hnode⟩ | ⟨hset, cs, members, hends, hmembers, hnode⟩ := h'.node_cases hspelling
  · rw [hnode, mem_oneOf (by simpa using List.ne_nil_of_mem hs)]
    exact ⟨_, List.mem_map.mpr ⟨s, hs, rfl⟩,
      Item.sequence_below (hspelling.steady s) hf i marks ho⟩
  · obtain ⟨c, hc, hmem⟩ := hends s hs
    have hfold : f'.fold = .unicode := hf.unicode hset.1
    have hlast : (Charset.literal f.fold c.toNat false).Below
        (.ofItems f'.fold members false) := by
      intro x hx
      have hfolded : Folded c.toNat x.toNat :=
        Charset.accepts_literal_unicode.mp (hfold ▸ hf.literal c.toNat x hx)
      rw [hfold, Charset.accepts_ofItems_unicode fun m hm => ?_]
      · exact ⟨c.toNat, hmem, caught_of_folded hfolded fun hhigh =>
          hkept hset ⟨cs, c, hc, hhigh⟩⟩
      · obtain ⟨-, -, c, -, rfl⟩ := hmembers m hm
        exact ⟨_, rfl⟩
    have hletters : List.Forall₂ (Node.Below text) (cs.map (.letter f)) (cs.map (.letter f')) := by
      rw [List.forall₂_map_left_iff, List.forall₂_map_right_iff]
      exact List.forall₂_same.mpr fun c _ => .char (hf.literal c.toNat)
    rw [hspelling.spelled s (hset.2.2 s hs), sequence_spelled, hc, List.map_append] at ho
    rw [hnode]
    exact Node.Below.ofList (List.rel_append hletters (.cons (.char hlast) .nil)) i marks ho

/-- A set of alternatives is kept: it becomes a greater set, or its members are tried one by one
and then accept no less. -/
theorem Level.Offers.below_of_set (hspelling : Spelling plain phrase) (hf : Flags.Below f f)
    (h : level.Offers phrase f texts) (h' : level'.Offers phrase f texts')
    (hsub : texts ⊆ texts') (hset : ReadAsSet plain f texts) :
    Node.Below text level.node level'.node := by
  intro i marks o ho
  have hfold : f.fold = .unicode := hf.unicode hset.1
  obtain ⟨hnot, -⟩ | ⟨-, cs, members, hends, hmembers, hnode⟩ := h.node_cases hspelling
  · exact absurd hset hnot
  · rw [hnode, mem_ofList_append] at ho
    obtain ⟨o', ho', hlast⟩ := ho
    obtain ⟨x, hx, haccepts, ho⟩ := mem_char.mp hlast
    rw [hfold, Charset.accepts_ofItems_unicode fun m hm => ?single] at haccepts
    case single =>
      obtain ⟨-, -, c, -, rfl⟩ := hmembers m hm
      exact ⟨_, rfl⟩
    obtain ⟨code, hmem, hcaught⟩ := haccepts
    obtain ⟨s, hs, c, hc, hcode⟩ := hmembers _ hmem
    obtain rfl := ClassItem.single.inj hcode
    obtain ⟨-, hnode'⟩ | ⟨-, cs', members', hends', hmembers', hnode'⟩ := h'.node_cases hspelling
    · have hliteral : (Charset.literal f.fold c.toNat false).accepts x = true := by
        rw [hfold, Charset.accepts_literal_unicode]
        exact folded_of_caught hcaught
      rw [hnode', mem_oneOf (by simpa using List.ne_nil_of_mem (hsub hs))]
      refine ⟨_, List.mem_map.mpr ⟨s, hsub hs, rfl⟩, ?_⟩
      rw [hspelling.spelled s (hset.2.2 s hs), sequence_spelled, hc, List.map_append,
        mem_ofList_append]
      exact ⟨o', ho', mem_char.mpr ⟨x, hx, hliteral, ho⟩⟩
    · obtain ⟨c', hc', hmem'⟩ := hends' s (hsub hs)
      obtain ⟨rfl, hlast⟩ := List.append_inj' (hc'.symm.trans hc) rfl
      obtain rfl : c' = c := List.head_eq_of_cons_eq hlast
      have hgreater : (Charset.ofItems f.fold members' false).accepts x = true := by
        rw [hfold, Charset.accepts_ofItems_unicode fun m hm => ?single]
        case single =>
          obtain ⟨-, -, c, -, rfl⟩ := hmembers' m hm
          exact ⟨_, rfl⟩
        exact ⟨c'.toNat, hmem', hcaught⟩
      rw [hnode', mem_ofList_append]
      exact ⟨o', ho', mem_char.mpr ⟨x, hx, hgreater, ho⟩⟩

theorem Level.Offers.below (hspelling : Spelling plain phrase) (hf : f.Below f')
    (h : level.Offers phrase f texts) (h' : level'.Offers phrase f' texts') (hne : texts ≠ [])
    (hsub : texts ⊆ texts') (hkept : ¬ Loses plain f texts f' texts') :
    Node.Below text level.node level'.node := by
  obtain ⟨hset, hnode⟩ | ⟨hset, -⟩ := h.node_cases hspelling
  · intro i marks o ho
    rw [hnode, mem_oneOf (by simpa using hne)] at ho
    obtain ⟨node, hmem, ho⟩ := ho
    obtain ⟨s, hs, rfl⟩ := List.mem_map.mp hmem
    exact below_of_separate hspelling hf h' (hsub hs)
      (fun hset' hhigh => hkept ⟨hset', hset, s, hs, hhigh⟩) i marks ho
  · -- Case is ignored already, so the switches are the same.
    obtain ⟨hascii, rfl | ⟨hcase, -⟩⟩ := hf
    · exact below_of_set hspelling ⟨hascii, .inl rfl⟩ h h' hsub hset
    · exact absurd hset.1 (by simp [hcase])

end Levels

theorem Spelling.offers (hspelling : Spelling plain phrase) (hne : texts ≠ []) {d : Draft}
    (hflags : d.level.flags = f) :
    Level.Offers phrase f texts
        ((Phrase.oneOf (texts.map phrase)).extend (d.inside .plain)).level ∧
      ((Phrase.oneOf (texts.map phrase)).extend (d.inside .plain)).widths = d.widths := by
  have hsteady : ∀ e ∈ texts.map phrase, e.steady = true := by
    intro e he
    obtain ⟨s, -, rfl⟩ := List.mem_map.mp he
    exact hspelling.steady s
  obtain ⟨halternatives, hlevel, hwidths⟩ :=
    Phrase.extend_oneOf (by simpa using hne) hsteady (d.inside .plain) rfl
  refine ⟨⟨hlevel.trans hflags, ?_⟩, hwidths⟩
  rw [halternatives, List.map_map]
  simp only [Draft.inside, hflags]
  rfl

theorem Phrase.Below.anyOf (hspelling : Spelling plain phrase) (hf : f.Below f') (hne : texts ≠ [])
    (hsub : texts ⊆ texts') (hkept : ¬ Loses plain f texts f' texts') :
    Phrase.Below text f f' (.group .plain (.oneOf (texts.map phrase)))
      (.group .plain (.oneOf (texts'.map phrase))) := by
  intro d d' h
  have hne' : texts' ≠ [] := fun hnil => hne (List.subset_nil.mp (hnil ▸ hsub))
  obtain ⟨hlevel, hwidths⟩ := hspelling.offers hne h.flags
  obtain ⟨hlevel', hwidths'⟩ := hspelling.offers hne' h.flags'
  refine h.pushClosed ?_ (hwidths.trans (h.widths.trans hwidths'.symm))
  exact hlevel.below hspelling hf hlevel' hne hsub hkept

end CodeAudit.Regex
