import CodeAudit.Proofs.Reading

/-!
# Patterns that are phrases

A pattern that is written as a phrase is accepted, and its tree is the one that the phrase describes
(`compile_source`).
-/

namespace CodeAudit.Regex

open CodeAudit.Text

variable {e : Phrase}

-- ---------------------------------------------------------------------------
-- Trees without problems
-- ---------------------------------------------------------------------------

theorem problem?_ofList {nodes : List Node} (h : ∀ node ∈ nodes, node.problem? template = none) :
    (Node.ofList nodes).problem? template = none := by
  fun_induction Node.ofList nodes with
  | case1 => rfl
  | case2 node => exact h node List.mem_cons_self
  | case3 node rest _ ih =>
    obtain ⟨hnode, hrest⟩ := List.forall_mem_cons.mp h
    simp [Node.problem?, hnode, ih hrest]

theorem problem?_oneOf {nodes : List Node} (h : ∀ node ∈ nodes, node.problem? template = none) :
    (Node.oneOf nodes).problem? template = none := by
  fun_induction Node.oneOf nodes with
  | case1 => rfl
  | case2 node => exact h node List.mem_cons_self
  | case3 node rest _ ih =>
    obtain ⟨hnode, hrest⟩ := List.forall_mem_cons.mp h
    simp [Node.problem?, hnode, ih hrest]

structure Item.Sound (item : Item) : Prop where
  node : item.node.problem? false = none
  pieces : ∀ p ∈ item.pieces, ∀ fold, (p.node fold).problem? false = none

structure Level.Sound (level : Level) : Prop where
  done : ∀ items ∈ level.done, ∀ item ∈ items, item.Sound
  items : ∀ item ∈ level.items, item.Sound

theorem Item.Sound.compound {node : Node} {kind : ItemKind} (h : node.problem? false = none) :
    Item.Sound { node, kind } :=
  ⟨h, by simp [Piece.node, Node.problem?]⟩

theorem Item.Sound.ofSet {fold : Fold} {negated : Bool} {members : List ClassItem} :
    (Item.ofSet fold negated members).Sound :=
  ⟨rfl, by simp [Item.ofSet, Piece.node, Node.problem?]⟩

theorem Item.Sound.simple {node : Node} {kind : ItemKind} (h : node.problem? false = none) :
    (Item.simple node kind).Sound :=
  ⟨h, by simpa [Item.simple, Piece.node] using h⟩

theorem Item.Sound.sequence {items : List Item} (h : ∀ item ∈ items, item.Sound) :
    (Item.sequence items).problem? false = none := by
  refine problem?_ofList fun node hnode => ?_
  obtain ⟨item, hitem, rfl⟩ := List.mem_map.mp hnode
  exact (h item (List.mem_reverse.mp hitem)).node

theorem Item.Sound.allPieces {items : List Item} (h : ∀ item ∈ items, item.Sound) :
    ∀ p ∈ Item.allPieces items, ∀ fold, (p.node fold).problem? false = none := by
  intro p hp
  obtain ⟨item, hitem, hp⟩ := List.mem_flatMap.mp hp
  exact (h item (List.mem_reverse.mp hitem)).pieces p hp

theorem shared_subset (first : List Piece) (others : List (List Piece)) :
    Piece.shared first others ⊆ first := by
  fun_induction Piece.shared first others with
  | case1 => simp
  | case2 p rest others _ ih => exact List.cons_subset_cons p ih
  | case3 => simp

theorem factor_subset {alternatives : List (List Piece)} (hp : p ∈ (Piece.factor alternatives).1) :
    ∃ pieces ∈ alternatives, p ∈ pieces := by
  cases alternatives with
  | nil => simp [Piece.factor] at hp
  | cons first others => exact ⟨first, List.mem_cons_self, shared_subset first others hp⟩

theorem Level.Sound.alternatives {level : Level} (h : level.Sound) :
    ∀ items ∈ level.alternatives, ∀ item ∈ items, item.Sound := by
  intro items hitems
  rcases List.mem_cons.mp (List.mem_reverse.mp hitems) with rfl | hdone
  · exact h.items
  · exact h.done items hdone

theorem Level.Sound.start {level : Level} (h : level.Sound)
    (hp : p ∈ (Piece.factor (level.alternatives.map Item.allPieces)).1) (fold : Fold) :
    (p.node fold).problem? false = none := by
  obtain ⟨pieces, hpieces, hp⟩ := factor_subset hp
  obtain ⟨items, hitems, rfl⟩ := List.mem_map.mp hpieces
  exact Item.Sound.allPieces (h.alternatives items hitems) p hp fold

theorem Level.Sound.node {level : Level} (h : level.Sound) : level.node.problem? false = none := by
  have hseparate : (Node.oneOf (level.alternatives.map Item.sequence)).problem? false = none := by
    refine problem?_oneOf fun node hnode => ?_
    obtain ⟨items, hitems, rfl⟩ := List.mem_map.mp hnode
    exact Item.Sound.sequence (h.alternatives items hitems)
  have hstart : ∀ p ∈ (Piece.factor (level.alternatives.map Item.allPieces)).1,
      ∀ fold, (p.node fold).problem? false = none := fun p hp => h.start hp
  simp only [Level.node]
  split
  · split
    · rename_i start members hfactor
      rw [hfactor] at hstart
      refine problem?_ofList fun node hnode => ?_
      rcases List.mem_append.mp hnode with hnode | hnode
      · obtain ⟨p, hp, rfl⟩ := List.mem_map.mp hnode
        exact hstart p hp level.fold
      · obtain rfl := List.mem_singleton.mp hnode
        rfl
    · exact hseparate
  · exact hseparate

theorem Level.Sound.pieces {level : Level} (h : level.Sound) :
    ∀ p ∈ level.pieces, ∀ fold, (p.node fold).problem? false = none := by
  have hstart : ∀ p ∈ (Piece.factor (level.alternatives.map Item.allPieces)).1,
      ∀ fold, (p.node fold).problem? false = none := fun p hp => h.start hp
  have hset : ∀ members fold, (Piece.node fold (.set false members)).problem? false = none :=
    fun _ _ => rfl
  intro p hp fold
  unfold Level.pieces at hp
  split at hp
  · rename_i items hitems
    exact Item.Sound.allPieces (h.alternatives items (by simp [hitems])) p hp fold
  · split at hp <;> rename_i hfactor <;> rw [hfactor] at hstart <;>
      rcases List.mem_append.mp hp with hp | hp
    · exact hstart p hp fold
    · obtain rfl := List.mem_singleton.mp hp
      rfl
    · exact hstart p hp fold
    · obtain rfl := List.mem_singleton.mp hp
      rfl

theorem Level.Sound.push {level : Level} {item : Item} (h : level.Sound) (hitem : item.Sound) :
    (level.push item).Sound :=
  ⟨h.done, List.forall_mem_cons.mpr ⟨hitem, h.items⟩⟩

theorem Level.Sound.nil {flags : Flags} : Level.Sound { flags } :=
  ⟨by simp, by simp⟩

theorem Level.Sound.extend {d : Draft} (h : d.level.Sound) (e : Phrase) :
    (e.extend d).level.Sound := by
  induction e generalizing d with
  | empty => exact h
  | repeated mark body ih =>
    have hbody := ih h
    simp only [Phrase.extend, Draft.repeatLast]
    split
    · exact hbody
    · rename_i item before hitems
      have hall := hbody.items
      rw [hitems] at hall
      obtain ⟨hitem, hbefore⟩ := List.forall_mem_cons.mp hall
      have hrepeated : (mark.node item.node).problem? false = none := by
        simpa [Mark.node, Node.problem?] using hitem.node
      exact ⟨hbody.done, List.forall_mem_cons.mpr ⟨.compound hrepeated, hbefore⟩⟩
  | group kind body ih =>
    cases kind with
    | plain =>
      have hinner := ih (d := d.inside .plain) .nil
      exact h.push ⟨hinner.node, hinner.pieces⟩
    | capture => exact h.push (.compound (ih (d := d.inside .capture) .nil).node)
    | notAhead => exact h.push (.compound (ih (d := d.inside .notAhead) .nil).node)
  | bar => exact ⟨List.forall_mem_cons.mpr ⟨h.items, h.done⟩, by simp [Phrase.extend, Level.bar]⟩
  | append a b iha ihb => exact ihb (iha h)
  | plain c => exact h.push .ofSet
  | slashed c => exact h.push .ofSet
  | shorthand kind negated => exact h.push .ofSet
  | set negated members dash => exact h.push .ofSet
  | any => exact h.push (.simple rfl)
  | wordEdge => exact h.push (.simple rfl)
  | lineEnd => exact h.push (.simple rfl)

-- ---------------------------------------------------------------------------
-- Whole patterns
-- ---------------------------------------------------------------------------

theorem slash_notMem_mark (m : Mark) : .plain '\\' ∉ m.tokens := by
  have hdigits : ∀ n, .plain '\\' ∉ digitTokens n := by
    intro n h
    obtain ⟨c, hc, rfl⟩ : ∃ c, c ∈ Nat.toDigits 10 n ∧ c = '\\' := by
      simpa [digitTokens] using h
    exact absurd (Nat.isDigit_of_mem_toDigits (by decide) (by decide) hc) (by decide)
  obtain ⟨bound, reluctant⟩ := m
  cases bound <;> cases reluctant <;> simp [Mark.tokens, Mark.tail, Bound.tokens, hdigits]

theorem slash_notMem_setTokens (hfine : ∀ m ∈ members, Member.fine m = true) :
    .plain '\\' ∉ setTokens members dash := by
  have hmember : ∀ m ∈ members, .plain '\\' ∉ m.tokens := by
    intro m hm h
    have hm := hfine m hm
    cases m with
    | one c =>
      obtain rfl : '\\' = c := by simpa [Member.tokens] using h
      simp [Member.fine] at hm
    | slashed c => simp [Member.tokens] at h
    | span a b =>
      have hends : '\\' = a ∨ '\\' = b := by simpa [Member.tokens] using h
      rcases hends with rfl | rfl <;> simp [Member.fine] at hm
  simp only [setTokens, List.mem_append, List.mem_flatMap, not_or, not_exists, not_and]
  exact ⟨hmember, by cases dash <;> simp⟩

theorem slash_notMem_tokens (hfine : e.fine = true) : .plain '\\' ∉ e.tokens := by
  induction e with
  | plain c =>
    have hc : c ∉ structuralChars := by simpa [Phrase.fine] using hfine
    simp only [Phrase.tokens, List.mem_singleton, Token.plain.injEq]
    rintro rfl
    simp [structuralChars] at hc
  | set negated members dash =>
    simp only [Phrase.fine, Bool.and_eq_true, List.all_eq_true] at hfine
    cases negated <;> simp [Phrase.tokens, slash_notMem_setTokens hfine.2]
  | repeated mark body ih =>
    simp only [Phrase.fine, Bool.and_eq_true] at hfine
    simp [Phrase.tokens, ih hfine.2, slash_notMem_mark]
  | group kind body ih => cases kind <;> simp [Phrase.tokens, GroupKind.tokens, ih hfine]
  | append a b iha ihb =>
    simp only [Phrase.fine, Bool.and_eq_true] at hfine
    simp [Phrase.tokens, iha hfine.1, ihb hfine.2]
  | _ => simp [Phrase.tokens]

def Flags.ordinary (flags : Flags) : Bool :=
  !flags.verbose && !flags.template && !(flags.ascii && flags.unicode)

def Draft.start (flags : Flags) : Draft := (Reader.start flags).draft

theorem start_tokens (hwhole : .dangling ∉ ts) (hslash : .plain '\\' ∉ ts) :
    Cursor.start (String.ofList (ts.flatMap Token.chars)).toList = .ok ⟨ts, 0⟩ := by
  have htokens : tokens (ts.flatMap Token.chars) = ts :=
    tokens_chars fun t ht => ⟨fun h => hwhole (h ▸ ht), fun h => hslash (h ▸ ht)⟩
  rw [Cursor.start, String.toList_ofList, htokens, checked_eq_ok hwhole]

theorem compile_of_reads (hflags : flags.ordinary = true) (hwhole : .dangling ∉ ts)
    (hslash : .plain '\\' ∉ ts)
    (hreads : Reads (.start flags) ts [] ((Reader.start flags).redraw d))
    (hsound : d.level.Sound) :
    compile (String.ofList (ts.flatMap Token.chars)) flags = .ok {
      source := String.ofList (ts.flatMap Token.chars), flags, root := d.level.node
      groups := d.widths.size - 1 } := by
  simp only [Flags.ordinary, Bool.and_eq_true, Bool.not_eq_true'] at hflags
  obtain ⟨⟨-, htemplate⟩, hmode⟩ := hflags
  obtain ⟨p, hrun⟩ := hreads 0
  have hfinish : ((Reader.start flags).redraw d).finish = .ok ((Reader.start flags).redraw d) := by
    simp [Reader.finish, Reader.redraw, Reader.start, Reader.checkFlags, hmode, ok_bind, pure_ok]
  have hread : read (String.ofList (ts.flatMap Token.chars)).toList flags =
      .ok ((Reader.start flags).redraw d) := by
    rw [List.append_nil] at hrun
    simp only [read, start_tokens hwhole hslash, ok_bind]
    rw [loop_of_moves hrun rfl (Nat.le_succ _), hfinish]
  have hroot : ((Reader.start flags).redraw d).level.node.problem?
      ((Reader.start flags).redraw d).flags.template = none :=
    (congrArg d.level.node.problem? htemplate).trans hsound.node
  simp only [compile, hread, hroot]
  rfl

theorem ready_start (hflags : flags.ordinary = true) : (Reader.start flags).Ready := by
  simp only [Flags.ordinary, Bool.and_eq_true, Bool.not_eq_true'] at hflags
  exact ⟨hflags.1.1, by simp [Reader.start]⟩

/-- A pattern that is written as a phrase is accepted, and its tree is the one that the phrase
describes. -/
theorem compile_source (hfine : e.fine = true) (hflags : flags.ordinary = true) :
    compile e.source flags = .ok {
      source := e.source, flags, root := (e.extend (.start flags)).level.node
      groups := (e.extend (.start flags)).widths.size - 1 } :=
  compile_of_reads hflags (dangling_notMem_tokens e) (slash_notMem_tokens hfine)
    (reads_phrase hfine (ready_start hflags) (by simp) (.inr (by simp [Quiet])))
    (Level.Sound.nil.extend e)

-- ---------------------------------------------------------------------------
-- References
-- ---------------------------------------------------------------------------

theorem extend_closed (e : Phrase) {d : Draft} {n : Nat} (h : (d.widths[n]?).join = some w) :
    ((e.extend d).widths[n]?).join = some w := by
  induction e generalizing d with
  | repeated mark body ih =>
    simp only [Phrase.extend, Draft.repeatLast]
    split
    · exact ih h
    · exact ih h
  | group kind body ih =>
    cases kind with
    | plain => exact ih (d := d.inside .plain) h
    | notAhead => exact ih (d := d.inside .notAhead) h
    | capture =>
      have hn : n < d.widths.size := by
        by_contra hn
        simp [Array.getElem?_eq_none (Nat.not_lt.mp hn)] at h
      have hbody := ih (d := d.inside .capture) (by
        simpa [Draft.inside, Array.getElem?_push, Nat.ne_of_lt hn] using h)
      simpa [Phrase.extend, Draft.close, Array.getElem?_setIfInBounds, Nat.ne_of_gt hn] using hbody
  | append a b iha ihb => exact ihb (iha h)
  | _ => exact h

def Draft.refer (d : Draft) (group : Nat) (width : Width) : Draft :=
  d.push (.simple (.backref group d.level.fold width))

theorem reads_refer {r : Reader} (hr : r.Ready) (hbehind : r.behindFrom = none)
    (hclosed : r.closedWidth? 1 = some w) :
    Reads r [.escape '1'] [] (r.redraw (r.draft.refer 1 w)) := by
  have hgroup : 1 < r.groupCount := by
    by_contra h
    simp [Reader.closedWidth?, Array.getElem?_eq_none (Nat.not_lt.mp h)] at hclosed
  have hreference cur : r.pushReference 1 2 cur = .ok (r.redraw (r.draft.refer 1 w)) := by
    simp [Reader.pushReference, hclosed, Reader.checkBehind, hbehind, ok_bind, pure_ok]
    rfl
  refine .of_read hr.exact (by simp) (by simp) (by simp) fun p => ⟨p, ?_⟩
  show r.numberEscape '1' ⟨[], p⟩ = _
  have htake : Cursor.takeUpTo Char.isDigit 1 ⟨[], p⟩ = .ok ([], ⟨[], p⟩) := rfl
  have hnumber : ofDigits 10 ['1'] = 1 := rfl
  simp only [Reader.numberEscape, htake, ok_bind, pure_ok, List.any_nil, Bool.and_false,
    Bool.false_eq_true, if_false, hnumber, hgroup, if_true, List.length_nil, Nat.zero_add,
    hreference]

theorem compile_source_refer (hfine : e.fine = true) (hflags : flags.ordinary = true)
    (hclosed : (((e.extend (.start flags)).widths)[1]?).join = some w) :
    compile (e.source ++ "\\1") flags = .ok {
      source := e.source ++ "\\1", flags
      root := ((e.extend (.start flags)).refer 1 w).level.node
      groups := (e.extend (.start flags)).widths.size - 1 } := by
  have hready := ready_start hflags
  have hreads : Reads (.start flags) e.tokens [.escape '1']
      ((Reader.start flags).redraw (e.extend (.start flags))) :=
    reads_phrase hfine hready (by simp) (.inr (by simp [Quiet]))
  have hrefer := reads_refer (r := (Reader.start flags).redraw (e.extend (.start flags)))
    (hready.redraw_extend e) rfl hclosed
  have hsource : e.source ++ "\\1" =
      String.ofList ((e.tokens ++ [Token.escape '1']).flatMap Token.chars) := by
    rw [List.flatMap_append, String.ofList_append]
    rfl
  rw [hsource]
  exact compile_of_reads hflags (by simp [dangling_notMem_tokens])
    (by simp [slash_notMem_tokens hfine]) (hreads.append hrefer)
    ((Level.Sound.nil.extend e).push (.simple rfl))

-- ---------------------------------------------------------------------------
-- Texts and alternatives
-- ---------------------------------------------------------------------------

namespace Phrase

@[simp]
theorem source_append (a b : Phrase) : (a ++ b).source = a.source ++ b.source := by
  show String.ofList ((a.tokens ++ b.tokens).flatMap Token.chars) = _
  simp [source]

@[simp]
theorem fine_append (a b : Phrase) : (a ++ b).fine = (a.fine && b.fine) := rfl

@[simp]
theorem source_group (body : Phrase) :
    (group .plain body).source = "(?:" ++ body.source ++ ")" := by
  rw [← String.toList_inj]
  simp [source, tokens, GroupKind.tokens, Token.chars]

@[simp]
theorem source_capture (body : Phrase) :
    (group .capture body).source = "(" ++ body.source ++ ")" := by
  rw [← String.toList_inj]
  simp [source, tokens, GroupKind.tokens, Token.chars]

theorem exactly_tokens (c : Char) : (exactly c).tokens.flatMap Token.chars = escapeChar c := by
  unfold exactly escapeChar
  split <;> rfl

theorem fine_exactly (c : Char) : (exactly c).fine = true := by
  unfold exactly
  split
  · rename_i h
    have hspecial : specialChars.all (!·.isAlphanum) = true := by decide
    exact List.all_eq_true.mp hspecial c (List.contains_iff_mem.mp h)
  · rename_i h
    have hstructural : structuralChars.all specialChars.contains = true := by decide
    have hc : c ∉ structuralChars := fun hc => h (List.all_eq_true.mp hstructural c hc)
    simpa [fine] using hc

@[simp]
theorem source_literal (s : String) : (literal s).source = escape s := by
  have hsequence : ∀ cs : List Char,
      (sequence (cs.map exactly)).tokens.flatMap Token.chars = cs.flatMap escapeChar := by
    intro cs
    induction cs with
    | nil => rfl
    | cons c cs ih =>
      show ((exactly c).tokens ++ (sequence (cs.map exactly)).tokens).flatMap Token.chars = _
      simp [exactly_tokens, ih]
  rw [source, literal, hsequence, escape]

@[simp]
theorem fine_literal (s : String) : (literal s).fine = true := by
  unfold literal
  induction s.toList with
  | nil => rfl
  | cons c cs ih => simp [sequence, fine_exactly, ih]

@[simp]
theorem source_oneOf (es : List Phrase) :
    (oneOf es).source = String.intercalate "|" (es.map source) := by
  fun_induction oneOf es with
  | case1 => rfl
  | case2 e => simp
  | case3 e rest hrest ih =>
    obtain ⟨e', rest, rfl⟩ := List.exists_cons_of_ne_nil hrest
    have hbar : bar.source = "|" := rfl
    simp [ih, hbar, String.intercalate_cons_cons, String.append_assoc]

theorem fine_oneOf {es : List Phrase} (h : ∀ e ∈ es, e.fine = true) : (oneOf es).fine = true := by
  fun_induction oneOf es with
  | case1 => rfl
  | case2 e => exact h e List.mem_cons_self
  | case3 e rest _ ih =>
    obtain ⟨he, hrest⟩ := List.forall_mem_cons.mp h
    simp [he, ih hrest, fine]

end Phrase

end CodeAudit.Regex
