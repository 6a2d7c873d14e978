import CodeAudit.Proofs.Backtracking
import CodeAudit.Proofs.Compiling
import CodeAudit.Proofs.Folding

/-!
# Patterns that match more

A tree lies below another one if whatever it leads to, the other one leads to as well. Sequences,
groups and repeated sets keep this order, and so does reading: a phrase that is read into the
greater of two drafts, or with case ignored, gives something greater (`Phrase.Below.of_steady`).
-/

namespace CodeAudit.Regex

open CodeAudit.Text

variable {text : Array Char}

-- ---------------------------------------------------------------------------
-- Sets
-- ---------------------------------------------------------------------------

def Charset.Below (s s' : Charset) : Prop :=
  ∀ c, s.accepts c = true → s'.accepts c = true

theorem acceptsAt_mono {s s' : Charset} (h : s.Below s') (haccepts : acceptsAt text s i = true) :
    acceptsAt text s' i = true := by
  unfold acceptsAt at haccepts ⊢
  split
  · next c hc =>
    rw [hc] at haccepts
    exact h c haccepts
  · next hnone =>
    rw [hnone] at haccepts
    cases haccepts

theorem runLength_mono {s s' : Charset} (h : s.Below s') (text : Array Char) (limit i : Nat) :
    runLength text s limit i 0 ≤ runLength text s' limit i 0 := by
  obtain ⟨hlimit, haccepts⟩ := le_runLength.mp (Nat.le_refl (runLength text s limit i 0))
  exact le_runLength.mpr ⟨hlimit, fun t ht => acceptsAt_mono h (haccepts t ht)⟩

theorem setEnds_subset {s s' : Charset} {min : Nat} {max : Option Nat} (h : s.Below s')
    (hgreed : greed ≠ .possessive) :
    setEnds text greed min max s i ⊆ setEnds text greed min max s' i := by
  intro j hj
  cases greed with
  | possessive => exact absurd rfl hgreed
  | greedy =>
    have hle := runLength_mono h text (capAt max (text.size - i)) i
    simp only [setEnds] at hj ⊢
    split at hj
    · cases hj
    · obtain ⟨x, hx, rfl⟩ := List.mem_map.mp hj
      rw [List.mem_reverse, List.mem_range] at hx
      rw [if_neg (by omega)]
      refine List.mem_map.mpr ⟨x, ?_, rfl⟩
      rw [List.mem_reverse, List.mem_range]
      omega
  | reluctant =>
    have hfirst := runLength_mono h text min i
    have hrest := runLength_mono h text
      (capAt (max.map (· - min)) (text.size - i - min)) (i + min)
    simp only [setEnds, Bool.or_eq_true, decide_eq_true_eq] at hj ⊢
    split at hj
    · cases hj
    · obtain ⟨x, hx, rfl⟩ := List.mem_map.mp hj
      rw [List.mem_range] at hx
      rw [if_neg (by omega)]
      refine List.mem_map.mpr ⟨x, ?_, rfl⟩
      rw [List.mem_range]
      omega

theorem sameText_mono {fold : Fold} (h : sameText text .exact source length i = true) :
    sameText text fold source length i = true := by
  induction length generalizing source i with
  | zero => rfl
  | succ length ih =>
    simp only [sameText] at h ⊢
    split at h
    · simp only [Fold.apply, Bool.and_eq_true, beq_iff_eq] at h ⊢
      exact ⟨congrArg fold.apply h.1, ih h.2⟩
    · cases h

-- ---------------------------------------------------------------------------
-- Trees
-- ---------------------------------------------------------------------------

def Node.Below (text : Array Char) (a b : Node) : Prop :=
  ∀ i marks, outcomes text a i marks ⊆ outcomes text b i marks

theorem mem_ofList_cons : o ∈ outcomes text (.ofList (a :: rest)) i marks ↔
    ∃ o' ∈ outcomes text a i marks, o ∈ outcomes text (.ofList rest) o'.1 o'.2 := by
  cases rest with
  | nil => simp [Node.ofList, outcomes]
  | cons b rest => simp [Node.ofList, outcomes]

theorem mem_ofList_append : o ∈ outcomes text (.ofList (front ++ back)) i marks ↔
    ∃ o' ∈ outcomes text (.ofList front) i marks, o ∈ outcomes text (.ofList back) o'.1 o'.2 := by
  induction front generalizing i marks with
  | nil => simp [Node.ofList, outcomes]
  | cons a front ih =>
    simp only [List.cons_append, mem_ofList_cons, ih]
    constructor
    · rintro ⟨o₁, h₁, o₂, h₂, h⟩
      exact ⟨o₂, ⟨o₁, h₁, h₂⟩, h⟩
    · rintro ⟨o₂, ⟨o₁, h₁, h₂⟩, h⟩
      exact ⟨o₁, h₁, o₂, h₂, h⟩

theorem mem_oneOf (hne : nodes ≠ []) : o ∈ outcomes text (.oneOf nodes) i marks ↔
    ∃ node ∈ nodes, o ∈ outcomes text node i marks := by
  fun_induction Node.oneOf nodes with
  | case1 => exact absurd rfl hne
  | case2 node => simp
  | case3 node rest hrest ih => simp [outcomes, ih hrest]

namespace Node.Below

theorem refl (node : Node) : Node.Below text node node := fun _ _ => List.Subset.refl _

theorem char {s s' : Charset} (h : s.Below s') : Node.Below text (.char s) (.char s') := by
  intro i marks o ho
  simp only [outcomes, List.mem_ite_nil_right] at ho ⊢
  exact ⟨acceptsAt_mono h ho.1, ho.2⟩

theorem repeated {s s' : Charset} (h : s.Below s') (mark : Mark) :
    Node.Below text (mark.node (.char s)) (mark.node (.char s')) := by
  intro i marks o ho
  have hgreed : mark.greed ≠ .possessive := by
    unfold Mark.greed
    split <;> simp
  simp only [Mark.node, outcomes, List.mem_map] at ho ⊢
  obtain ⟨j, hj, rfl⟩ := ho
  exact ⟨j, setEnds_subset h hgreed hj, rfl⟩

theorem group (h : Node.Below text a b) (index : Nat) :
    Node.Below text (.group index a) (.group index b) := by
  intro i marks
  exact List.map_subset _ (h i _)

theorem backref {fold fold' : Fold} (h : fold' = fold ∨ fold = .exact ∧ fold' = .unicode)
    (index : Nat) (width width' : Width) :
    Node.Below text (.backref index fold width) (.backref index fold' width') := by
  intro i marks o ho
  rcases h with rfl | ⟨rfl, -⟩
  · exact ho
  · simp only [outcomes] at ho ⊢
    split
    · next hspan =>
      simp only [hspan, List.mem_ite_nil_right] at ho ⊢
      exact ⟨sameText_mono ho.1, ho.2⟩
    · next hspan =>
      rw [hspan] at ho
      cases ho

theorem ofList (h : List.Forall₂ (Node.Below text) nodes nodes') :
    Node.Below text (.ofList nodes) (.ofList nodes') := by
  induction h with
  | nil => exact refl _
  | cons hnode _ ih =>
    intro i marks o ho
    obtain ⟨o', ho', hrest⟩ := mem_ofList_cons.mp ho
    exact mem_ofList_cons.mpr ⟨o', hnode _ _ ho', ih _ _ hrest⟩

end Node.Below

def Item.Below (text : Array Char) (a b : Item) : Prop :=
  a.node.Below text b.node

theorem Item.Below.sequence (h : List.Forall₂ (Item.Below text) items items') :
    Node.Below text (Item.sequence items) (Item.sequence items') := by
  refine Node.Below.ofList ?_
  rw [List.forall₂_map_left_iff, List.forall₂_map_right_iff]
  exact List.rel_reverse h

-- ---------------------------------------------------------------------------
-- Switches
-- ---------------------------------------------------------------------------

def Flags.fold (flags : Flags) : Fold := Level.fold { flags }

def Flags.Below (f f' : Flags) : Prop :=
  f.ascii = false ∧ (f' = f ∨ f.ignoreCase = false ∧ f' = { f with ignoreCase := true })

theorem Flags.Below.fold (h : Flags.Below f f') :
    f'.fold = f.fold ∨ f.fold = .exact ∧ f'.fold = .unicode := by
  obtain ⟨hascii, rfl | ⟨hcase, rfl⟩⟩ := h
  · exact .inl rfl
  · exact .inr ⟨by simp [Flags.fold, Level.fold, hcase], by simp [Flags.fold, Level.fold, hascii]⟩

theorem Flags.Below.same (h : Flags.Below f f') :
    f'.ascii = f.ascii ∧ f'.multiLine = f.multiLine ∧ f'.dotAll = f.dotAll := by
  obtain ⟨-, rfl | ⟨-, rfl⟩⟩ := h <;> exact ⟨rfl, rfl, rfl⟩

def ClassItem.isCaseless (item : ClassItem) : Bool :=
  Charset.foldItem .unicode item == ([item], false)

theorem isCasedCode_of_isCaseless (h : (ClassItem.single code).isCaseless = true) :
    isCasedCode code = false := by
  rw [ClassItem.isCaseless, beq_iff_eq, Charset.foldItem_single] at h
  split at h
  · exact congrArg Prod.snd h
  · cases congrArg Prod.snd h

theorem bracketCharset_caseless {members : List ClassItem}
    (h : ∀ m ∈ members, m.isCaseless = true) :
    bracketCharset .unicode negated members = bracketCharset .exact negated members := by
  have hdistinct : ∀ m ∈ members.eraseDups, m.isCaseless = true :=
    fun m hm => h m (List.mem_eraseDups.mp hm)
  unfold bracketCharset
  generalize members.eraseDups = distinct at hdistinct
  split
  · next code =>
    have hcased : isCasedCode code = false :=
      isCasedCode_of_isCaseless (hdistinct _ List.mem_cons_self)
    simp [Charset.literal, hcased]
  · have hprepared : distinct.map (Charset.foldItem .unicode) =
        distinct.map (Charset.foldItem .exact) := by
      refine List.map_congr_left fun m hm => ?_
      have hm : Charset.foldItem .unicode m = ([m], false) := by
        simpa [ClassItem.isCaseless] using hdistinct m hm
      rw [hm]
      rfl
    simp only [Charset.ofItems, hprepared, ite_self]
    simp [Charset.foldItem]

theorem Flags.Below.literal (h : Flags.Below f f') (code : Nat) :
    (Charset.literal f.fold code false).Below (Charset.literal f'.fold code false) := by
  intro c hc
  rcases h.fold with heq | ⟨hexact, hunicode⟩
  · rwa [heq]
  · rw [hexact, Charset.accepts_literal_exact] at hc
    rw [hunicode, Charset.accepts_literal_unicode, hc]
    exact folded_self code

theorem Flags.Below.bracketCharset {members : List ClassItem} (h : Flags.Below f f')
    (hcaseless : ∀ m ∈ members, m.isCaseless = true) (negated : Bool) :
    Regex.bracketCharset f'.fold negated members = Regex.bracketCharset f.fold negated members := by
  rcases h.fold with heq | ⟨hexact, hunicode⟩
  · rw [heq]
  · rw [hexact, hunicode, bracketCharset_caseless hcaseless]

-- ---------------------------------------------------------------------------
-- Phrases that ignoring case only widens
-- ---------------------------------------------------------------------------

namespace Phrase

def charset? (flags : Flags) : Phrase → Option Charset
  | .plain c | .slashed c => some (.literal flags.fold c.toNat false)
  | .shorthand kind negated =>
    some (bracketCharset flags.fold false [.kind kind flags.ascii negated])
  | .any => some (if flags.dotAll then .all else .notNewline)
  | .set negated members dash =>
    some (bracketCharset flags.fold negated (setItems flags.ascii members dash))
  | _ => none

/-- Whether a phrase consists of items that match the same or more if case is ignored: there are no
groups and alternatives in it, and no letters in its sets. -/
def steady : Phrase → Bool
  | .empty | .plain _ | .slashed _ | .shorthand _ _ | .any | .wordEdge | .lineEnd => true
  | .set _ members dash => (setItems false members dash).all ClassItem.isCaseless
  | .repeated _ body => body.isAtom && body.steady
  | .append a b => a.steady && b.steady
  | .group _ _ | .bar => false

theorem extend_charset {d : Draft} (h : charset? d.level.flags e = some s) :
    ∃ item, e.extend d = d.push item ∧ item.node = .char s := by
  cases e with
  | plain c => exact ⟨_, rfl, congrArg Node.char (Option.some.inj h)⟩
  | slashed c => exact ⟨_, rfl, congrArg Node.char (Option.some.inj h)⟩
  | shorthand kind negated => exact ⟨_, rfl, congrArg Node.char (Option.some.inj h)⟩
  | any => exact ⟨_, rfl, congrArg Node.char (Option.some.inj h)⟩
  | set negated members dash => exact ⟨_, rfl, congrArg Node.char (Option.some.inj h)⟩
  | _ => cases h

theorem charset?_below (hf : f.Below f') (hatom : e.isAtom = true) (hsteady : e.steady = true) :
    ∃ s s', charset? f e = some s ∧ charset? f' e = some s' ∧ s.Below s' := by
  obtain ⟨hascii, hsame⟩ := hf.same
  cases e with
  | plain c => exact ⟨_, _, rfl, rfl, hf.literal _⟩
  | slashed c => exact ⟨_, _, rfl, rfl, hf.literal _⟩
  | shorthand kind negated =>
    refine ⟨_, _, rfl, rfl, ?_⟩
    rw [hascii, hf.bracketCharset (by simp [ClassItem.isCaseless, Charset.foldItem])]
    exact fun _ => id
  | any =>
    refine ⟨_, _, rfl, rfl, ?_⟩
    rw [hsame.2]
    exact fun _ => id
  | set negated members dash =>
    refine ⟨_, _, rfl, rfl, ?_⟩
    rw [hascii, hf.bracketCharset (by simpa [steady, hf.1] using hsteady)]
    exact fun _ => id
  | group => cases hsteady
  | _ => cases hatom

end Phrase

-- ---------------------------------------------------------------------------
-- Drafts
-- ---------------------------------------------------------------------------

/-- Two drafts of a sequence, read under the given switches, of which the second one matches more
item by item. -/
structure Draft.Below (text : Array Char) (f f' : Flags) (d d' : Draft) : Prop where
  level : d.level = { flags := f, items := d.level.items }
  level' : d'.level = { flags := f', items := d'.level.items }
  widths : d.widths = d'.widths
  items : List.Forall₂ (Item.Below text) d.level.items d'.level.items

/-- Reading the second phrase instead of the first one gives a draft that matches more. -/
def Phrase.Below (text : Array Char) (f f' : Flags) (e e' : Phrase) : Prop :=
  ∀ d d', Draft.Below text f f' d d' → Draft.Below text f f' (e.extend d) (e'.extend d')

namespace Draft.Below

variable {d d' : Draft}

theorem start (f f' : Flags) : Draft.Below text f f' (.start f) (.start f') :=
  ⟨rfl, rfl, rfl, .nil⟩

theorem flags (h : Draft.Below text f f' d d') : d.level.flags = f := by
  rw [h.level]

theorem flags' (h : Draft.Below text f f' d d') : d'.level.flags = f' := by
  rw [h.level']

theorem push (h : Draft.Below text f f' d d') (hitem : Item.Below text item item') :
    Draft.Below text f f' (d.push item) (d'.push item') where
  level := by
    simp only [Draft.push, Level.push]
    rw [h.level]
  level' := by
    simp only [Draft.push, Level.push]
    rw [h.level']
  widths := h.widths
  items := .cons hitem h.items

theorem pushClosed (h : Draft.Below text f f' d d') (hitem : Item.Below text item item')
    {ws ws' : Array (Option Width)} (hwidths : ws = ws') :
    Draft.Below text f f' { d.push item with widths := ws } { d'.push item' with widths := ws' } :=
  ⟨(h.push hitem).level, (h.push hitem).level', hwidths, (h.push hitem).items⟩

theorem repeatLast (h : Draft.Below text f f' (d.push item) (d'.push item'))
    (hrepeated : Node.Below text (mark.node item.node) (mark.node item'.node)) :
    Draft.Below text f f' ((d.push item).repeatLast mark) ((d'.push item').repeatLast mark) where
  level := by
    have hlevel := h.level
    simp only [Draft.push, Level.push, Draft.repeatLast, Level.mk.injEq] at hlevel ⊢
    exact ⟨hlevel.1, hlevel.2.1, trivial⟩
  level' := by
    have hlevel := h.level'
    simp only [Draft.push, Level.push, Draft.repeatLast, Level.mk.injEq] at hlevel ⊢
    exact ⟨hlevel.1, hlevel.2.1, trivial⟩
  widths := h.widths
  items := .cons hrepeated (List.forall₂_cons.mp h.items).2

theorem refer (hf : f.Below f') (h : Draft.Below text f f' d d') (group : Nat)
    (width width' : Width) :
    Draft.Below text f f' (d.refer group width) (d'.refer group width') := by
  refine h.push (.backref ?_ group width width')
  have hfold : d.level.fold = f.fold := congrArg Flags.fold h.flags
  have hfold' : d'.level.fold = f'.fold := congrArg Flags.fold h.flags'
  rw [hfold, hfold']
  exact hf.fold

end Draft.Below

theorem members?_shared (pieces : List Piece) :
    Piece.members? (pieces.drop (Piece.shared pieces []).length) = none := by
  induction pieces with
  | nil => rfl
  | cons p rest ih =>
    simp only [Piece.shared]
    split
    · exact ih
    · next hp =>
      obtain rfl : p = .compound := by simpa using hp
      rfl

/-- A level with one alternative is a sequence: nothing is left of it to make a set of. -/
theorem Level.node_single (flags : Flags) (items : List Item) :
    Level.node { flags, items } = Item.sequence items := by
  simp [Level.node, Level.alternatives, Piece.factor, members?_shared, Node.oneOf]

theorem Draft.Below.node {d d' : Draft} (h : Draft.Below text f f' d d') :
    d.level.node.Below text d'.level.node := by
  rw [h.level, h.level', Level.node_single, Level.node_single]
  exact Item.Below.sequence h.items

-- ---------------------------------------------------------------------------
-- Reading phrases
-- ---------------------------------------------------------------------------

namespace Phrase.Below

theorem append (ha : Phrase.Below text f f' a a') (hb : Phrase.Below text f f' b b') :
    Phrase.Below text f f' (a ++ b) (a' ++ b') :=
  fun d d' h => hb _ _ (ha d d' h)

theorem exists_push {e : Phrase} (hf : f.Below f') (hatom : e.isAtom = true)
    (hsteady : e.steady = true) (h : Draft.Below text f f' d d') :
    ∃ item item' s s', e.extend d = d.push item ∧ e.extend d' = d'.push item' ∧
      item.node = .char s ∧ item'.node = .char s' ∧ s.Below s' := by
  obtain ⟨s, s', hs, hs', hbelow⟩ := charset?_below hf hatom hsteady
  obtain ⟨item, hitem, hnode⟩ := extend_charset (h.flags ▸ hs)
  obtain ⟨item', hitem', hnode'⟩ := extend_charset (h.flags' ▸ hs')
  exact ⟨item, item', s, s', hitem, hitem', hnode, hnode', hbelow⟩

theorem of_atom (hf : f.Below f') (hatom : e.isAtom = true) (hsteady : e.steady = true) :
    Phrase.Below text f f' e e := by
  intro d d' h
  obtain ⟨item, item', s, s', hitem, hitem', hnode, hnode', hbelow⟩ :=
    exists_push hf hatom hsteady h
  rw [hitem, hitem']
  refine h.push ?_
  rw [Item.Below, hnode, hnode']
  exact .char hbelow

theorem of_steady (hf : f.Below f') (hsteady : e.steady = true) : Phrase.Below text f f' e e := by
  obtain ⟨hascii, hlines, -⟩ := hf.same
  induction e with
  | empty => exact fun d d' h => h
  | plain | slashed | shorthand | any | set => exact of_atom hf rfl hsteady
  | wordEdge =>
    intro d d' h
    refine h.push ?_
    rw [h.flags, h.flags', hascii]
    exact .refl _
  | lineEnd =>
    intro d d' h
    refine h.push ?_
    rw [h.flags, h.flags', hlines]
    exact .refl _
  | repeated mark body ih =>
    intro d d' h
    obtain ⟨hbody, hsteady⟩ := Bool.and_eq_true_iff.mp hsteady
    obtain ⟨item, item', s, s', hitem, hitem', hnode, hnode', hbelow⟩ :=
      exists_push hf hbody hsteady h
    have hpushed := ih hsteady d d' h
    simp only [Phrase.extend]
    rw [hitem, hitem'] at hpushed ⊢
    refine hpushed.repeatLast ?_
    rw [hnode, hnode']
    exact .repeated hbelow mark
  | append a b iha ihb =>
    obtain ⟨ha, hb⟩ := Bool.and_eq_true_iff.mp hsteady
    exact append (iha ha) (ihb hb)
  | group | bar => cases hsteady

theorem group (kind : GroupKind) (body : Phrase) :
    Phrase.Below text f f (.group kind body) (.group kind body) := by
  intro d d' h
  have hinside : d.inside kind = d'.inside kind := by
    cases kind <;> simp only [Draft.inside, h.flags, h.flags', h.widths]
  simp only [Phrase.extend, hinside]
  cases kind with
  | plain => exact h.pushClosed (.refl _) rfl
  | capture =>
    simp only [Draft.close, h.widths]
    exact h.pushClosed (.refl _) rfl
  | notAhead => exact h.pushClosed (.refl _) rfl

theorem capture (hf : f.Below f') (hatom : e.isAtom = true) (hsteady : e.steady = true) :
    Phrase.Below text f f' (.group .capture e) (.group .capture e) := by
  intro d d' h
  have hinside : Draft.Below text f f' (d.inside .capture) (d'.inside .capture) := by
    simp only [Draft.inside, h.flags, h.flags', h.widths]
    exact ⟨rfl, rfl, rfl, .nil⟩
  obtain ⟨item, item', s, s', hitem, hitem', hnode, hnode', hbelow⟩ :=
    exists_push hf hatom hsteady hinside
  have hlevel : ((d.inside .capture).push item).level.node = .char s := by
    have hsingle := Level.node_single d.level.flags [item]
    rwa [Item.sequence, List.reverse_singleton, List.map_singleton, hnode] at hsingle
  have hlevel' : ((d'.inside .capture).push item').level.node = .char s' := by
    have hsingle := Level.node_single d'.level.flags [item']
    rwa [Item.sequence, List.reverse_singleton, List.map_singleton, hnode'] at hsingle
  have hgroup : Item.Below text { node := .group d.widths.size (.char s) }
      { node := .group d.widths.size (.char s') } := .group (.char hbelow) _
  simp only [Phrase.extend, Draft.close, hitem, hitem', hlevel, hlevel']
  rw [← h.widths]
  refine h.pushClosed hgroup ?_
  simp only [Draft.push, Draft.inside, h.widths]
  rfl

end Phrase.Below

end CodeAudit.Regex
