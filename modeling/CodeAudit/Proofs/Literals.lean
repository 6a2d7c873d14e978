import CodeAudit.Proofs.Preference
import CodeAudit.Proofs.Widening

/-!
# Lists of texts in patterns

A list of texts is written in a pattern as alternatives, so that the pattern matches exactly these
texts and tries them in the order of the list (`alternation_literal`), whatever the texts are: one
may be the beginning of another one, may be empty, or may have characters in it that mean something
in patterns. Literals of the scanned language are written in the same way, but for brackets and
quotes, which may have blanks between them.
-/

namespace CodeAudit.Regex

variable {text : Array Char}

-- ---------------------------------------------------------------------------
-- Choices in order
-- ---------------------------------------------------------------------------

/-- Whether a pattern can match from one position to another: some way of going through it ends
there. -/
def Pattern.CanMatch (p : Pattern) (text : Array Char) : Stretch := fun i j =>
  (run text p.root i (.blank p.groups) fun k marks =>
    if k = j then some (k, marks) else none).isSome

theorem Pattern.canMatch_iff {p : Pattern} :
    p.CanMatch text i j ↔ ∃ marks, (j, marks) ∈ p.outcomesAt text i := by
  rw [CanMatch, run_eq, List.isSome_findSome?, List.any_eq_true]
  constructor
  · rintro ⟨o, ho, hsome⟩
    by_cases heq : o.1 = j
    · exact ⟨o.2, heq ▸ ho⟩
    · simp [heq] at hsome
  · rintro ⟨marks, ho⟩
    exact ⟨(j, marks), ho, by simp⟩

/-- A pattern matches some things and no others, and of those that stand at a place it takes the
first one in a list. A search takes the first place where any of them stands. -/
structure Pattern.TriesInOrder (p : Pattern) (text : Array Char) (choices : List α)
    (r : α → Stretch) : Prop where
  canMatch : ∀ i j, p.CanMatch text i j ↔ ∃ x ∈ choices, r x i j
  prefers : ∀ i j, (p.matchAt text i false).map Match.span = some (i, j) ↔ FirstAmong choices r i j
  search : ∀ i j, (p.search text).map Match.span = some (i, j) ↔
    FirstAmong choices r i j ∧ ∀ k < i, ∀ x ∈ choices, ¬ ∃ l, r x k l

theorem Pattern.span_of_matchAt {p : Pattern} (h : p.matchAt text i nonEmpty = some m) :
    m.span = (i, m.stop) := by
  obtain ⟨rfl, -⟩ := matchAt_mem h
  rfl

section Choices

variable {p : Pattern} {r : Stretch}

theorem Node.Chooses.matchAt (h : Node.Chooses text p.root r) :
    (p.matchAt text i false).map Match.span = some (i, j) ↔ r i j := by
  have hhead : p.matchAt text i false = (p.outcomesAt text i).head?.map fun o => ⟨i, o.1, o.2⟩ := by
    rw [Pattern.matchAt_eq]
    cases p.outcomesAt text i <;> simp
  rw [hhead, Option.map_map, Option.map_eq_some_iff]
  constructor
  · rintro ⟨o, ho, hspan⟩
    obtain rfl : o.1 = j := congrArg Prod.snd hspan
    exact ((h i _ o).mp ho).1
  · intro hr
    exact ⟨(j, .blank p.groups), (h i _ _).mpr ⟨hr, rfl⟩, rfl⟩

theorem Node.Chooses.matchAt_eq_none (h : Node.Chooses text p.root r) :
    p.matchAt text i false = none ↔ ¬ ∃ j, r i j := by
  rw [← h.ne_nil_iff (.blank p.groups), ← not_iff_not, not_not, ← ne_eq,
    ← Option.isSome_iff_ne_none]
  exact Pattern.isSome_matchAt

theorem Node.Chooses.searchFrom (h : Node.Chooses text p.root r) (room i : Nat) :
    (p.searchFrom text false room i).map Match.span = some (k, j) ↔
      i ≤ k ∧ k ≤ i + room ∧ r k j ∧ ∀ l, i ≤ l → l < k → ¬ ∃ j, r l j := by
  induction room generalizing i with
  | zero =>
    rw [Pattern.searchFrom]
    constructor
    · intro hfound
      obtain ⟨m, hm, heq⟩ := Option.map_eq_some_iff.mp hfound
      obtain ⟨rfl, rfl⟩ := Prod.mk.inj ((Pattern.span_of_matchAt hm).symm.trans heq)
      exact ⟨Nat.le_refl i, Nat.le_refl i, h.matchAt.mp hfound, fun l hl hlt => by omega⟩
    · rintro ⟨hle, hroom, hr, -⟩
      obtain rfl : k = i := by omega
      exact h.matchAt.mpr hr
  | succ room ih =>
    rw [Pattern.searchFrom]
    cases hat : p.matchAt text i false with
    | some m =>
      have hhere : r i m.stop :=
        h.matchAt.mp (by rw [hat, Option.map_some, Pattern.span_of_matchAt hat])
      rw [Option.map_some, Pattern.span_of_matchAt hat, Option.some_inj, Prod.mk.injEq]
      constructor
      · rintro ⟨rfl, rfl⟩
        exact ⟨Nat.le_refl i, by omega, hhere, fun l hl hlt => by omega⟩
      · rintro ⟨hle, -, hr, hfirst⟩
        obtain rfl | hlt := Nat.eq_or_lt_of_le hle
        · exact ⟨rfl, h.unique hhere hr⟩
        · exact absurd ⟨_, hhere⟩ (hfirst i (Nat.le_refl i) hlt)
    | none =>
      have hnot : ¬ ∃ j, r i j := h.matchAt_eq_none.mp hat
      refine (ih (i + 1)).trans ⟨?_, ?_⟩
      · rintro ⟨hle, hroom, hr, hfirst⟩
        refine ⟨by omega, by omega, hr, fun l hl hlt => ?_⟩
        obtain rfl | hil := Nat.eq_or_lt_of_le hl
        · exact hnot
        · exact hfirst l hil hlt
      · rintro ⟨hle, hroom, hr, hfirst⟩
        obtain rfl | hlt := Nat.eq_or_lt_of_le hle
        · exact absurd ⟨j, hr⟩ hnot
        · exact ⟨hlt, by omega, hr, fun l hl => hfirst l (by omega)⟩

end Choices

/-- Alternatives, each of which stands for one stretch at most, are tried in order. Something that
stands behind the text has to stand at its beginning too. -/
theorem Pattern.triesInOrder {p : Pattern} {choices : List α} {node : α → Node} {r : α → Stretch}
    (hne : choices ≠ []) (hroot : p.root = .oneOf (choices.map node))
    (hmeans : ∀ x ∈ choices, Node.Means text (node x) (r x))
    (honly : ∀ x ∈ choices, Relator.RightUnique (r x))
    (hinside : ∀ x ∈ choices, ∀ i j, r x i j → text.size < i → ∃ l, r x 0 l) :
    p.TriesInOrder text choices r := by
  have hmeansAll : Node.Means text p.root fun i j => ∃ x ∈ choices, r x i j :=
    hroot ▸ Node.Means.oneOf hne hmeans
  have hchoicesAll : Node.Chooses text (.ofList [.oneOf (choices.map node)])
      (FirstAmong choices r) :=
    Node.Chooses.oneOf hne fun x hx => .of_means (hmeans x hx) (honly x hx)
  have hchooses : Node.Chooses text p.root (FirstAmong choices r) := hroot ▸ hchoicesAll
  refine ⟨fun i j => ?_, fun i j => hchooses.matchAt, fun i j => ?_⟩
  · rw [canMatch_iff]
    constructor
    · rintro ⟨marks, ho⟩
      exact ((hmeansAll i _ _).mp ho).1
    · intro hr
      exact ⟨_, (hmeansAll i _ (j, _)).mpr ⟨hr, rfl⟩⟩
  · have hnone (k : Nat) : (¬ ∃ l, FirstAmong choices r k l) ↔ ∀ x ∈ choices, ¬ ∃ l, r x k l := by
      constructor
      · rintro hfirst x hx ⟨l, hr⟩
        exact hfirst (exists_firstAmong hx hr)
      · rintro hnone ⟨l, hfirst⟩
        obtain ⟨x, hx, hr⟩ := hfirst.mem
        exact hnone x hx ⟨l, hr⟩
    rw [search, hchooses.searchFrom]
    simp only [Nat.zero_le, true_and, Nat.zero_add, hnone, true_implies]
    refine and_iff_right_of_imp fun hfound => ?_
    obtain ⟨hfirst, hearlier⟩ := hfound
    by_contra hlt
    obtain ⟨x, hx, hr⟩ := hfirst.mem
    obtain ⟨l, hzero⟩ := hinside x hx i j hr (by omega)
    exact hearlier 0 (by omega) x hx ⟨l, hzero⟩

-- ---------------------------------------------------------------------------
-- Groups of texts
-- ---------------------------------------------------------------------------

theorem Spelling.root_group (hspelling : Spelling plain phrase) (hne : texts ≠ []) :
    ((Phrase.group .plain (.oneOf (texts.map phrase))).extend (.start {})).level.node =
      .oneOf (texts.map fun s => Item.sequence ((phrase s).items {})) := by
  obtain ⟨hoffers, -⟩ := hspelling.offers (d := .start {}) hne rfl
  obtain ⟨-, hnode⟩ | ⟨⟨hcase, -⟩, -⟩ := hoffers.node_cases hspelling
  · exact (Level.node_single {} [_]).trans hnode
  · cases hcase

theorem Phrase.Means.items (h : Phrase.Means text e r flags) :
    Node.Means text (Item.sequence (e.items flags)) r := by
  obtain ⟨items, hextend, hmeans⟩ := h (.start flags) rfl
  have hitems : e.items flags = items := by
    rw [Phrase.items, hextend]
    exact List.append_nil items
  rwa [hitems]

theorem stands_inside (h : Stands text s i j) (hi : text.size < i) : ∃ l, Stands text s 0 l := by
  have hs : s = "" := by
    by_contra hs
    have := h.lt_size hs
    omega
  exact ⟨0, by simp [Stands, hs]⟩

theorem stands_iff_slice (hij : i ≤ j) (hj : j ≤ text.size) :
    Stands text s i j ↔ slice text i j = s := by
  have hslice : (slice text i j).toList = (text.toList.drop i).take (j - i) := by
    simp [slice]
  rw [← String.toList_inj, hslice, Stands, ← String.length_toList]
  constructor
  · rintro ⟨hstart, rfl⟩
    rw [Nat.add_sub_cancel_left]
    exact (List.prefix_iff_eq_take.mp hstart).symm
  · intro htake
    refine ⟨htake ▸ List.take_prefix _ _, ?_⟩
    rw [← htake, List.length_take, List.length_drop, Array.length_toList]
    omega

end CodeAudit.Regex

namespace CodeAudit.Rule

open CodeAudit.Regex
open CodeAudit.Text (isBlank)
open Phrasing (anyText anyLiteral fragment blanks)

variable {text : Array Char} {items : List String}

-- ---------------------------------------------------------------------------
-- Literals of the scanned language
-- ---------------------------------------------------------------------------

def QuoteAt (text : Array Char) : Stretch := fun i j =>
  ∃ c ∈ ['"', '\''], text[i]? = some c ∧ j = i + 1

def Enclosed (opening closing : Stretch) (text : Array Char) : Stretch := fun i j =>
  ∃ a b, opening i a ∧ AllBetween text isBlank a b ∧ closing b j

/-- Where a literal of the scanned language stands. Brackets, braces and quotation marks may have
blanks between them, and either kind of quotation mark will do. Everything else stands as it is. -/
def LiteralAt (text : Array Char) (value : String) : Stretch :=
  if value = "[]" then Enclosed (Stands text "[") (Stands text "]") text
  else if value = "\x7b\x7d" then Enclosed (Stands text "\x7b") (Stands text "\x7d") text
  else if value = "\"\"" ∨ value = "''" then Enclosed (QuoteAt text) (QuoteAt text) text
  else Stands text value

theorem literalAt_of_not_spaced (hvalue : value ∉ spacedLiterals) :
    LiteralAt text value = Stands text value := by
  simp only [spacedLiterals, List.mem_cons, List.not_mem_nil, or_false, not_or] at hvalue
  simp [LiteralAt, hvalue]

theorem Enclosed.unique {opening closing : Stretch} (hopening : Relator.RightUnique opening)
    (hclosing : Relator.RightUnique closing)
    (hsolid : ∀ i j, closing i j → ∃ c, text[i]? = some c ∧ isBlank c = false) :
    Relator.RightUnique (Enclosed opening closing text) := by
  rintro i j j' ⟨a, b, ha, hblanks, hb⟩ ⟨a', b', ha', hblanks', hb'⟩
  obtain rfl := hopening ha ha'
  obtain rfl := RunOf.unique (hblanks.runOf (hsolid b j hb)) (hblanks'.runOf (hsolid b' j' hb'))
  exact hclosing hb hb'

theorem quoteAt_unique (text : Array Char) : Relator.RightUnique (QuoteAt text) := by
  rintro i j j' ⟨_, -, -, rfl⟩ ⟨_, -, -, rfl⟩
  rfl

theorem QuoteAt.solid (h : QuoteAt text i j) : ∃ c, text[i]? = some c ∧ isBlank c = false := by
  have hquotes : ['"', '\''].all (!isBlank ·) = true := by decide
  obtain ⟨c, hmem, hc, -⟩ := h
  exact ⟨c, hc, by simpa using List.all_eq_true.mp hquotes c hmem⟩

theorem solid_of_stands (hs : s.toList = [c]) (hc : isBlank c = false) (h : Stands text s i j) :
    ∃ c, text[i]? = some c ∧ isBlank c = false :=
  ⟨c, by simpa using h.char (k := 0) (by rw [hs]; rfl), hc⟩

theorem literalAt_unique (text : Array Char) (value : String) :
    Relator.RightUnique (LiteralAt text value) := by
  unfold LiteralAt
  split
  · exact Enclosed.unique (stands_unique _) (stands_unique _) fun i j h =>
      solid_of_stands rfl (by decide) h
  · split
    · exact Enclosed.unique (stands_unique _) (stands_unique _) fun i j h =>
        solid_of_stands rfl (by decide) h
    · split
      · exact Enclosed.unique (quoteAt_unique text) (quoteAt_unique text) fun i j => QuoteAt.solid
      · exact stands_unique value

def eitherQuote : Phrase := .set false [.slashed '"', .one '\''] false

theorem means_eitherQuote : eitherQuote.Means text (QuoteAt text) := by
  have hset : eitherQuote.charset? {} = some (.of ['"', '\'']) := rfl
  refine (Phrase.Means.charset hset).of_iff fun i j => ?_
  simp only [Charset.accepts_of, QuoteAt]
  exact exists_congr fun c => and_left_comm

theorem means_enclosed {opening closing : Phrase} {r r' : Stretch} (hopening : opening.Means text r)
    (hclosing : closing.Means text r') :
    (opening ++ blanks ++ closing).Means text (Enclosed r r' text) := by
  refine ((hopening.append (means_blanks rfl)).append hclosing).of_iff fun i j => ?_
  constructor
  · rintro ⟨b, ⟨a, hopening, hblanks⟩, hclosing⟩
    exact ⟨a, b, hopening, hblanks, hclosing⟩
  · rintro ⟨a, b, hopening, hblanks, hclosing⟩
    exact ⟨b, ⟨a, hopening, hblanks⟩, hclosing⟩

theorem means_fragment (value : String) :
    Node.Means text (Item.sequence ((fragment value).items {})) (LiteralAt text value) := by
  by_cases hvalue : value ∈ spacedLiterals
  · simp only [spacedLiterals, List.mem_cons, List.not_mem_nil, or_false] at hvalue
    rcases hvalue with rfl | rfl | rfl | rfl
    · exact (means_enclosed (.literal "[") (.literal "]")).items
    · exact (means_enclosed (.literal "\x7b") (.literal "\x7d")).items
    · exact (means_enclosed means_eitherQuote means_eitherQuote).items
    · exact (means_enclosed means_eitherQuote means_eitherQuote).items
  · rw [spelling_fragment.spelled value hvalue, sequence_spelled, literalAt_of_not_spaced hvalue]
    exact .letters value

theorem Enclosed.lt_size {opening closing : Stretch} (h : Enclosed opening closing text i j)
    (hopening : ∀ a, opening i a → i < text.size) : i < text.size := by
  obtain ⟨a, b, ha, -⟩ := h
  exact hopening a ha

theorem QuoteAt.lt_size (h : QuoteAt text i j) : i < text.size := by
  obtain ⟨c, -, hc, -⟩ := h
  exact (Array.getElem?_eq_some_iff.mp hc).1

theorem literalAt_inside (h : LiteralAt text value i j) (hi : text.size < i) :
    ∃ l, LiteralAt text value 0 l := by
  by_cases hvalue : value ∈ spacedLiterals
  · -- A bracket or a quotation mark stands within the text.
    suffices i < text.size by omega
    simp only [spacedLiterals, List.mem_cons, List.not_mem_nil, or_false] at hvalue
    rcases hvalue with rfl | rfl | rfl | rfl
    · exact Enclosed.lt_size h fun a ha => ha.lt_size (by decide)
    · exact Enclosed.lt_size h fun a ha => ha.lt_size (by decide)
    · exact Enclosed.lt_size h fun a => QuoteAt.lt_size
    · exact Enclosed.lt_size h fun a => QuoteAt.lt_size
  · rw [literalAt_of_not_spaced hvalue] at h ⊢
    exact stands_inside h hi

-- ---------------------------------------------------------------------------
-- Alternations
-- ---------------------------------------------------------------------------

theorem compile_anyText (hne : items ≠ []) :
    ∃ p, Regex.compile ("(?:" ++ alternation items ++ ")") {} = .ok p ∧
      ∀ text, p.TriesInOrder text items (Stands text) := by
  refine ⟨_, Phrasing.source_anyText items ▸ compile_source (Phrasing.fine_anyText items) rfl,
    fun text => ?_⟩
  refine Pattern.triesInOrder hne (Spelling.literal.root_group hne) (fun item _ => ?_)
    (fun item _ => stands_unique item) fun item _ i j => stands_inside
  exact (Phrase.Means.literal item).items

theorem compile_anyLiteral (hne : items ≠ []) :
    ∃ p, Regex.compile ("(?:" ++ literalAlternation items ++ ")") {} = .ok p ∧
      ∀ text, p.TriesInOrder text items (LiteralAt text) := by
  refine ⟨_, Phrasing.source_anyLiteral items ▸ compile_source (Phrasing.fine_anyLiteral items) rfl,
    fun text => ?_⟩
  exact Pattern.triesInOrder hne (spelling_fragment.root_group hne)
    (fun item _ => means_fragment item) (fun item _ => literalAt_unique text item)
    fun item _ i j => literalAt_inside

/-- A list of texts, as alternatives in a group, matches exactly the parts of a text that are in the
list, and prefers the one that is listed first. So does a list of literals, but for the four with
room for blanks in them. -/
theorem alternation_literal (hne : items ≠ []) :
    (∃ p, Regex.compile ("(?:" ++ alternation items ++ ")") {} = .ok p ∧ ∀ text,
      p.TriesInOrder text items (Stands text) ∧
        ∀ i j, i ≤ j → j ≤ text.size → (p.CanMatch text i j ↔ slice text i j ∈ items)) ∧
    ∃ p, Regex.compile ("(?:" ++ literalAlternation items ++ ")") {} = .ok p ∧ ∀ text,
      p.TriesInOrder text items (LiteralAt text) ∧
        ∀ i j, i ≤ j → j ≤ text.size → ∀ item, item ∉ spacedLiterals →
          (LiteralAt text item i j ↔ slice text i j = item) := by
  obtain ⟨p, hp, htexts⟩ := compile_anyText hne
  obtain ⟨p', hp', hliterals⟩ := compile_anyLiteral hne
  refine ⟨⟨p, hp, fun text => ⟨htexts text, fun i j hij hj => ?_⟩⟩, p', hp', fun text =>
    ⟨hliterals text, fun i j hij hj item hitem => ?_⟩⟩
  · rw [(htexts text).canMatch]
    constructor
    · rintro ⟨item, hmem, hstands⟩
      rwa [(stands_iff_slice hij hj).mp hstands]
    · intro hmem
      exact ⟨_, hmem, (stands_iff_slice hij hj).mpr rfl⟩
  · rw [literalAt_of_not_spaced hitem, stands_iff_slice hij hj]

/-- The second text is found although it is the beginning of the third one and has a dot in it, and
the empty text, which stands everywhere, is not preferred. -/
theorem alternation_literal_dotted : ["x", "a.", "a.b", ""] ≠ [] ∧
    ∃ p, Regex.compile ("(?:" ++ alternation ["x", "a.", "a.b", ""] ++ ")") {} = .ok p ∧
      (p.search "a.b".toList.toArray).map Match.span = some (0, 2) ∧
      p.CanMatch "a.b".toList.toArray 0 3 ∧ ¬ p.CanMatch "axb".toList.toArray 0 2 := by
  have hne : ["x", "a.", "a.b", ""] ≠ [] := by decide
  obtain ⟨⟨p, hp, htexts⟩, -⟩ := alternation_literal hne
  refine ⟨hne, p, hp, ?_, ?_, ?_⟩
  · refine ((htexts _).1.search 0 2).mpr ⟨⟨["x"], "a.", ["a.b", ""], rfl, ⟨by decide, rfl⟩, ?_⟩,
      fun k hk => absurd hk (Nat.not_lt_zero k)⟩
    rintro item hitem ⟨l, hstands⟩
    obtain rfl := List.mem_singleton.mp hitem
    exact absurd hstands.1 (by decide)
  · exact ((htexts _).2 0 3 (by decide) (by decide)).mpr (by decide)
  · exact mt ((htexts _).2 0 2 (by decide) (by decide)).mp (by decide)

end CodeAudit.Rule
