import CodeAudit.Proofs.Beginnings
import CodeAudit.Proofs.Consoles
import CodeAudit.Proofs.Outcome
import CodeAudit.Proofs.Replacing
import CodeAudit.Shell.Console
import Mathlib.Data.List.TakeWhile

/-!
# Markup in the shell

Everything that markup does to a text takes a bracket, a backslash or two colons away
(`renderMarkup_lighter`).
-/

namespace CodeAudit.Shell

open CodeAudit.Terminal
open CodeAudit.Text (isBlank replaceFrom)

variable {f : Char → Nat} {step : Nat}

def Lighter (f : Char → Nat) (step : Nat) (text shown : List Char) : Prop :=
  shown = text ∨ weight f shown + step ≤ weight f text

namespace Lighter

variable {text text' shown shown' : List Char}

theorem same : Lighter f step text text := .inl rfl

theorem le (h : Lighter f step text shown) : weight f shown ≤ weight f text := by
  rcases h with rfl | hlt
  · exact Nat.le_refl _
  · omega

theorem append (front : List Char) (h : Lighter f step text shown) :
    Lighter f step (front ++ text) (front ++ shown) := by
  rcases h with rfl | hlt
  · exact same
  · refine .inr ?_
    rw [weight_append, weight_append]
    omega

theorem trans (h : Lighter f step text shown) (h' : Lighter f step shown shown') :
    Lighter f step text shown' := by
  rcases h with rfl | hlt
  · exact h'
  · have hle := h'.le
    exact .inr (by omega)

end Lighter

-- ---------------------------------------------------------------------------
-- Pictures
-- ---------------------------------------------------------------------------

/-- Whether a character may be part of the picture of an emoji: it is neither blank nor a control
character nor one of those that mean something in a text with markup. -/
def isPictureChar (c : Char) : Bool :=
  !isBlank c && 32 ≤ c.toNat && c != '[' && c != '\\' && c != ':'

def isPictureTable (table : List (String × List Nat)) : Bool :=
  table.all fun entry => entry.2.all fun code => isPictureChar (Char.ofNat code)

set_option maxRecDepth 20000 in
theorem isPictureTable_emojiTable : isPictureTable emojiTable = true := by decide +kernel

set_option maxRecDepth 20000 in
theorem isPictureTable_personTable : isPictureTable personTable = true := by decide +kernel

theorem picture_of_tableEmoji (htable : isPictureTable table = true)
    (h : tableEmoji? table name = some picture) : ∀ c ∈ picture, isPictureChar c = true := by
  obtain ⟨codes, hcodes, rfl⟩ := Option.map_eq_some_iff.mp h
  obtain ⟨before, behind, rfl, -⟩ := List.lookup_eq_some_iff.mp hcodes
  have hentry := List.all_eq_true.mp htable (String.ofList name, codes) (by simp)
  rw [List.forall_mem_map]
  exact List.all_eq_true.mp hentry

theorem isPictureChar_ofNat {code : Nat} (h : 0x3000 < code) (hvalid : code.isValidChar) :
    isPictureChar (Char.ofNat code) = true := by
  have hcode : (Char.ofNat code).toNat = code :=
    congrArg Char.toNat (dif_pos hvalid : Char.ofNat code = .ofNatAux code hvalid)
  have hne {c : Char} (hlt : c.toNat < 0x3000) : Char.ofNat code ≠ c := by
    rintro rfl
    omega
  simp only [isPictureChar, isBlank, hcode, Bool.and_eq_true, Bool.not_eq_true',
    Bool.or_eq_false_iff, Bool.and_eq_false_iff, decide_eq_false_iff_not, decide_eq_true_eq,
    beq_eq_false_iff_ne, bne_iff_ne]
  refine ⟨⟨⟨⟨by omega, by omega⟩, ?_⟩, ?_⟩, ?_⟩ <;> exact hne (by decide)

theorem isPictureChar_regionalIndicator (letter : Char) :
    isPictureChar (regionalIndicator letter) = true := by
  have hlt : (Text.lowerAsciiCode letter.toNat - 97) % 26 < 26 := Nat.mod_lt _ (by decide)
  exact isPictureChar_ofNat (by omega) (.inr ⟨by omega, by omega⟩)

theorem picture_of_flag (h : flag? name = some picture) :
    ∀ c ∈ picture, isPictureChar c = true := by
  obtain ⟨letters, -, rfl⟩ := Option.map_eq_some_iff.mp h
  rw [List.forall_mem_map]
  exact fun letter _ => isPictureChar_regionalIndicator letter

theorem picture_of_letterEmoji (h : letterEmoji? name = some picture) :
    ∀ c ∈ picture, isPictureChar c = true := by
  simp only [letterEmoji?] at h
  split at h
  · split at h
    · obtain rfl := Option.some.inj h
      simpa using isPictureChar_regionalIndicator _
    · cases h
  · cases h

theorem picture_withTone (htone : isPictureChar (Char.ofNat tone) = true)
    (h : ∀ c ∈ picture, isPictureChar c = true) :
    ∀ c ∈ withTone tone picture, isPictureChar c = true := by
  cases picture with
  | nil => exact h
  | cons first rest =>
    obtain ⟨hfirst, hrest⟩ := List.forall_mem_cons.mp h
    refine List.forall_mem_cons.mpr ⟨hfirst, List.forall_mem_cons.mpr ⟨htone, fun c hc => ?_⟩⟩
    exact hrest c ((List.dropWhile_sublist _).mem hc)

theorem orElse_eq_some {o : Option α} {o' : Unit → Option α} (h : o.orElse o' = some a) :
    o = some a ∨ o' () = some a := by
  cases o with
  | none => exact .inr h
  | some b => exact .inl h

theorem picture_of_person (h : person? name = some picture) :
    ∀ c ∈ picture, isPictureChar c = true := by
  rcases orElse_eq_some h with hplain | htoned
  · exact picture_of_tableEmoji isPictureTable_personTable hplain
  · obtain ⟨⟨tone, code⟩, htone, hsome⟩ := List.exists_of_findSome?_eq_some htoned
    have htones : ∀ entry ∈ skinTones, isPictureChar (Char.ofNat entry.2) = true := by
      decide +kernel
    obtain ⟨plain, -, hplain⟩ := Option.bind_eq_some_iff.mp hsome
    obtain ⟨untoned, huntoned, heq⟩ := Option.bind_eq_some_iff.mp hplain
    obtain rfl := Option.some.inj heq
    exact picture_withTone (htones (tone, code) htone)
      (picture_of_tableEmoji isPictureTable_personTable huntoned)

theorem picture_of_emoji (h : emoji? name = some picture) :
    ∀ c ∈ picture, isPictureChar c = true := by
  rcases orElse_eq_some h with htable | h
  · exact picture_of_tableEmoji isPictureTable_emojiTable htable
  rcases orElse_eq_some h with hperson | h
  · exact picture_of_person hperson
  rcases orElse_eq_some h with hflag | hletter
  · exact picture_of_flag hflag
  · exact picture_of_letterEmoji hletter

theorem picture_of_mark (body : List Char) :
    ∀ c ∈ (nameAndMark body).2, isPictureChar c = true := by
  have hmarks : isPictureChar (Char.ofNat 0xFE0F) = true ∧
      isPictureChar (Char.ofNat 0xFE0E) = true := by decide
  unfold nameAndMark
  split
  · simpa using hmarks.1
  · simpa using hmarks.2
  · simp

theorem shownBetweenColons_cases (body : List Char) :
    shownBetweenColons body = ':' :: body ++ [':'] ∨
      ∀ c ∈ shownBetweenColons body, isPictureChar c = true := by
  have hmark := picture_of_mark body
  unfold shownBetweenColons
  split
  next name mark hname =>
  rw [hname] at hmark
  split
  · next picture hpicture =>
    refine .inr fun c hc => ?_
    exact (List.mem_append.mp hc).elim (picture_of_emoji hpicture c) (hmark c)
  · exact .inl rfl

structure Weighs (f : Char → Nat) (step : Nat) : Prop where
  picture : ∀ c, isPictureChar c = true → f c = 0
  colon : step ≤ 2 * f ':'
  bracket : step ≤ f '['
  slash : step ≤ f '\\'

theorem weighs_markWeight : Weighs markWeight 2 where
  picture c hc := by
    simp only [isPictureChar, Bool.and_eq_true, bne_iff_ne] at hc
    obtain ⟨⟨⟨-, hbracket⟩, hslash⟩, hcolon⟩ := hc
    exact markWeight_eq_zero hbracket hslash hcolon
  colon := by decide
  bracket := by decide
  slash := by decide

-- ---------------------------------------------------------------------------
-- Names between colons
-- ---------------------------------------------------------------------------

/-- A text that starts with a pair of colons, by what a search for the second one of them finds. -/
theorem eq_of_span_colon {rest : List Char}
    (h : rest.span (fun c => c != ':' && !isBlank c) = (body, ':' :: behind)) :
    ':' :: rest = ':' :: body ++ ':' :: behind := by
  rw [List.span_eq_takeWhile_dropWhile, Prod.mk.injEq] at h
  rw [List.cons_append, ← h.1, ← h.2, List.takeWhile_append_dropWhile]

theorem replaceEmojiFrom_lighter (h : Weighs f step) (fuel : Nat) (text : List Char) :
    Lighter f step text (replaceEmojiFrom fuel text) := by
  fun_induction replaceEmojiFrom fuel text with
  | case1 text => exact .same
  | case2 fuel => exact .same
  | case3 fuel rest body behind hspan ih =>
    rw [eq_of_span_colon hspan]
    rcases shownBetweenColons_cases body with hshown | hpicture
    · rw [hshown]
      simpa using ih.append (':' :: body ++ [':'])
    · have hzero : weight f (shownBetweenColons body) = 0 :=
        weight_eq_zero.mpr fun c hc => h.picture c (hpicture c hc)
      have hle := ih.le
      have hcolon := h.colon
      refine .inr ?_
      simp only [weight_append, weight_cons, hzero]
      omega
  | case4 fuel rest hspan ih => exact ih.append [':']
  | case5 fuel c rest hc ih => exact ih.append [c]

theorem replaceEmojiFrom_eq (fuel : Nat) {text : List Char} (h : text.count ':' ≤ 1) :
    replaceEmojiFrom fuel text = text := by
  fun_induction replaceEmojiFrom fuel text with
  | case1 text => rfl
  | case2 fuel => rfl
  | case3 fuel rest body behind hspan ih =>
    rw [eq_of_span_colon hspan, List.cons_append, List.count_cons_self, List.count_append,
      List.count_cons_self] at h
    omega
  | case4 fuel rest hspan ih =>
    rw [List.count_cons_self] at h
    rw [ih (by omega)]
  | case5 fuel c rest hc ih =>
    rw [ih (Nat.le_trans List.count_le_count_cons h)]

-- ---------------------------------------------------------------------------
-- Brackets behind backslashes
-- ---------------------------------------------------------------------------

theorem replaceFrom_lighter {piece filler : List Char} (hne : piece ≠ [])
    (hstep : weight f filler + step ≤ weight f piece) (text : List Char) :
    Lighter f step text (replaceFrom piece filler text 0) := by
  induction hlength : text.length using Nat.strong_induction_on generalizing text with
  | _ n ih =>
    by_cases hstart : piece <+: text
    · obtain ⟨rest, rfl⟩ := hstart
      have hpos := List.length_pos_of_ne_nil hne
      have hle := (ih rest.length (by rw [← hlength, List.length_append]; omega) rest rfl).le
      refine .inr ?_
      rw [Text.replaceFrom_piece hne, weight_append, weight_append]
      omega
    · cases text with
      | nil => exact .same
      | cons c text =>
        rw [Text.replaceFrom_cons hstart]
        exact (ih text.length (by simp [← hlength]) text rfl).append [c]

theorem replaceFrom_eq {piece : List Char} (filler : List Char) {text : List Char}
    (h : ¬ piece <:+: text) : replaceFrom piece filler text 0 = text := by
  induction text with
  | nil => rfl
  | cons c text ih =>
    obtain ⟨hstart, hrest⟩ := not_or.mp (mt List.infix_cons_iff.mpr h)
    rw [Text.replaceFrom_cons hstart, ih hrest]

-- ---------------------------------------------------------------------------
-- Tags
-- ---------------------------------------------------------------------------

def IsTag : List Char → Prop
  | [] => False
  | c :: body => isTagStart c = true ∧ ∀ d ∈ body, d ≠ '[' ∧ d ≠ ']'

theorem tag?_eq_some : tag? text = some (content, behind) ↔
    IsTag content ∧ text = content ++ ']' :: behind := by
  constructor
  · intro h
    cases text with
    | nil => cases h
    | cons c text =>
      rw [tag?, List.span_eq_takeWhile_dropWhile] at h
      split at h
      · next hstart =>
        split at h
        · next body behind' hspan =>
          obtain ⟨hbody, hbehind⟩ := Prod.mk.inj hspan
          obtain ⟨rfl, rfl⟩ := Prod.mk.inj (Option.some.inj h)
          refine ⟨⟨hstart, fun d hd => ?_⟩, ?_⟩
          · have hd : d ∈ text.takeWhile fun d => d != '[' && d != ']' := hbody ▸ hd
            simpa using List.mem_takeWhile_imp hd
          · rw [List.cons_append, ← hbody, ← hbehind, List.takeWhile_append_dropWhile]
        · cases h
      · cases h
  · rintro ⟨hcontent, rfl⟩
    cases content with
    | nil => exact hcontent.elim
    | cons c body =>
      obtain ⟨hstart, hbody⟩ := hcontent
      have hall : ∀ d ∈ body, (d != '[' && d != ']') = true := by simpa using hbody
      rw [List.cons_append, tag?, if_pos hstart, List.span_eq_takeWhile_dropWhile,
        List.takeWhile_append_of_pos hall, List.dropWhile_append_of_pos hall]
      simp

theorem span_slashes (count : Nat) (h : rest.head? ≠ some '\\') :
    (List.replicate count '\\' ++ rest).span (· == '\\') = (List.replicate count '\\', rest) := by
  have hall : ∀ c ∈ List.replicate count '\\', (c == '\\') = true := by simp
  rw [List.span_eq_takeWhile_dropWhile, List.takeWhile_append_of_pos hall,
    List.dropWhile_append_of_pos hall]
  cases rest with
  | nil => simp
  | cons c rest =>
    have hc : ¬ c = '\\' := by simpa using h
    simp [hc]

/-- A text taken apart at its tags: behind backslashes it ends, goes on without a tag, or goes on
with one. -/
theorem slashes_cases (text : List Char) :
    (∃ count, text = List.replicate count '\\') ∨
    (∃ count c inner, c ≠ '\\' ∧ (if c == '[' then tag? inner else none) = none ∧
      text = List.replicate count '\\' ++ c :: inner) ∨
    ∃ count content behind, IsTag content ∧
      text = List.replicate count '\\' ++ '[' :: (content ++ ']' :: behind) := by
  induction text with
  | nil => exact .inl ⟨0, rfl⟩
  | cons c text ih =>
    by_cases hc : c = '\\'
    · subst hc
      rcases ih with ⟨count, rfl⟩ | ⟨count, d, inner, hd, hnone, rfl⟩ |
        ⟨count, content, behind, hcontent, rfl⟩
      · exact .inl ⟨count + 1, rfl⟩
      · exact .inr (.inl ⟨count + 1, d, inner, hd, hnone, rfl⟩)
      · exact .inr (.inr ⟨count + 1, content, behind, hcontent, rfl⟩)
    · cases hnone : if c == '[' then tag? text else none with
      | none => exact .inr (.inl ⟨0, c, text, hc, hnone, rfl⟩)
      | some found =>
        obtain ⟨content, behind⟩ := found
        obtain ⟨hbracket, htag⟩ := Option.ite_none_right_eq_some.mp hnone
        obtain ⟨hcontent, rfl⟩ := tag?_eq_some.mp htag
        exact .inr (.inr ⟨0, content, behind, hcontent, by simp [beq_iff_eq.mp hbracket]⟩)

theorem piecesFrom_end (fuel position count : Nat) (plain : List Char) :
    piecesFrom (fuel + 1) position plain (List.replicate count '\\') =
      [.plain (plain.reverse ++ List.replicate count '\\')] := by
  have hspan := span_slashes count (by simp : ([] : List Char).head? ≠ some '\\')
  rw [List.append_nil] at hspan
  rw [piecesFrom, hspan]

theorem piecesFrom_plain {next : List Char} (hc : c ≠ '\\')
    (h : (if c == '[' then tag? next else none) = none) (fuel position count : Nat)
    (plain : List Char) :
    piecesFrom (fuel + 1) position plain (List.replicate count '\\' ++ c :: next) =
      piecesFrom fuel (position + count + 1) (c :: List.replicate count '\\' ++ plain) next := by
  rw [piecesFrom, span_slashes count (by simpa using hc)]
  simp only [h, List.length_replicate]

theorem piecesFrom_tag (hcontent : IsTag content) (fuel position count : Nat)
    (plain behind : List Char) :
    piecesFrom (fuel + 1) position plain
        (List.replicate count '\\' ++ '[' :: (content ++ ']' :: behind)) =
      .plain plain.reverse :: .plain (List.replicate (count / 2) '\\') ::
        (if count % 2 == 1 then .plain ('[' :: content ++ [']'])
          else .tag (position + count) content) ::
        piecesFrom fuel (position + count + content.length + 2) [] behind := by
  have htag : tag? (content ++ ']' :: behind) = some (content, behind) :=
    tag?_eq_some.mpr ⟨hcontent, rfl⟩
  rw [piecesFrom, span_slashes count (by simp)]
  simp only [beq_self_eq_true, if_true, htag, List.length_replicate]

/-- The text of a part before the names of emoji are looked up. -/
def Piece.text : Piece → List Char
  | .plain text => text
  | .tag .. => []

/-- Without a tag a text is a single part. A tag costs its bracket or a backslash before it. -/
theorem piecesFrom_lighter (h : Weighs f step) {text : List Char} (hfuel : text.length < fuel)
    (position : Nat) (plain : List Char) :
    piecesFrom fuel position plain text = [.plain (plain.reverse ++ text)] ∨
    weight f ((piecesFrom fuel position plain text).flatMap Piece.text) + step ≤
      weight f plain + weight f text := by
  induction fuel generalizing text position plain with
  | zero => omega
  | succ fuel ih =>
    rcases slashes_cases text with ⟨count, rfl⟩ | ⟨count, c, inner, hc, hnone, rfl⟩ |
      ⟨count, content, behind, hcontent, rfl⟩
    · exact .inl (piecesFrom_end fuel position count plain)
    · rw [piecesFrom_plain hc hnone]
      simp only [List.length_append, List.length_cons] at hfuel
      have hinner : inner.length < fuel := by omega
      rcases ih hinner (position + count + 1) (c :: List.replicate count '\\' ++ plain) with
        hpieces | hlt
      · exact .inl (by rw [hpieces]; simp)
      · refine .inr ?_
        simp only [weight_append, weight_cons] at hlt ⊢
        omega
    · refine .inr ?_
      rw [piecesFrom_tag hcontent]
      simp only [List.length_append, List.length_cons] at hfuel
      have hfuel : behind.length < fuel := by omega
      have hbehind : weight f ((piecesFrom fuel (position + count + content.length + 2) []
          behind).flatMap Piece.text) ≤ weight f behind := by
        rcases ih hfuel (position + count + content.length + 2) [] with hpieces | hlt
        · rw [hpieces]
          simp [Piece.text]
        · simp only [weight_nil] at hlt
          omega
      have hbracket := h.bracket
      have hslash := h.slash
      -- Of two backslashes one is left, and of a single one none is.
      have hhalf : count / 2 * f '\\' ≤ count * f '\\' := Nat.mul_le_mul_right _ (by omega)
      by_cases hodd : count % 2 = 1
      · have hless : (count / 2 + 1) * f '\\' ≤ count * f '\\' :=
          Nat.mul_le_mul_right _ (by omega)
        rw [Nat.add_mul, Nat.one_mul] at hless
        simp only [hodd, beq_self_eq_true, if_true, List.flatMap_cons, Piece.text, weight_append,
          weight_cons, weight_nil, weight_reverse, weight_replicate]
        omega
      · simp only [beq_iff_eq, hodd, if_false, List.flatMap_cons, Piece.text, weight_append,
          weight_cons, weight_nil, weight_reverse, weight_replicate]
        omega

theorem piecesFrom_of_noBracket {text : List Char} (h : '[' ∉ text) (hfuel : text.length < fuel)
    (position : Nat) (plain : List Char) :
    piecesFrom fuel position plain text = [.plain (plain.reverse ++ text)] := by
  induction fuel generalizing text position plain with
  | zero => omega
  | succ fuel ih =>
    rcases slashes_cases text with ⟨count, rfl⟩ | ⟨count, c, inner, hc, hnone, rfl⟩ |
      ⟨count, content, behind, hcontent, rfl⟩
    · exact piecesFrom_end fuel position count plain
    · simp only [List.length_append, List.length_cons] at hfuel
      have hinner : '[' ∉ inner := fun hmem => h (by simp [hmem])
      rw [piecesFrom_plain hc hnone, ih hinner (by omega)]
      simp
    · simp at h

theorem piecesFrom_front {front : List Char} (hbracket : '[' ∉ front) (hslash : '\\' ∉ front)
    (hcontent : IsTag content) (hbehind : '[' ∉ behind)
    (hfuel : front.length + behind.length + 1 < fuel) (position : Nat) (plain : List Char) :
    piecesFrom fuel position plain (front ++ '[' :: (content ++ ']' :: behind)) =
      [.plain (plain.reverse ++ front), .plain [], .tag (position + front.length) content,
        .plain behind] := by
  induction front generalizing fuel position plain with
  | nil =>
    obtain _ | fuel := fuel
    · omega
    have htag := piecesFrom_tag hcontent fuel position 0 plain behind
    rw [List.replicate_zero, List.nil_append] at htag
    rw [List.nil_append, htag, piecesFrom_of_noBracket hbehind (by simpa using hfuel)]
    simp
  | cons c front ih =>
    obtain _ | fuel := fuel
    · omega
    obtain ⟨hc, hfront⟩ := not_or.mp (mt List.mem_cons.mpr hbracket)
    obtain ⟨hc', hfront'⟩ := not_or.mp (mt List.mem_cons.mpr hslash)
    have hnone : (if c == '[' then tag? (front ++ '[' :: (content ++ ']' :: behind)) else none) =
        none := if_neg (by simpa using Ne.symm hc)
    have hplain := piecesFrom_plain (Ne.symm hc') hnone fuel position 0 plain
    rw [List.replicate_zero, List.nil_append] at hplain
    rw [List.length_cons] at hfuel
    rw [List.cons_append, hplain, ih hfront hfront' (by omega)]
    simp [Nat.add_assoc, Nat.add_comm 1]

-- ---------------------------------------------------------------------------
-- What is shown
-- ---------------------------------------------------------------------------

theorem plainText_lighter (h : Weighs f step) (text : List Char) :
    Lighter f step text (plainText text).toList := by
  have hescape : Lighter f step text (replaceFrom ['\\', '['] ['['] text 0) := by
    refine replaceFrom_lighter (by simp) ?_ text
    have hslash := h.slash
    simp only [weight_cons, weight_nil]
    omega
  simpa [plainText, Text.replaceAll, replaceEmoji] using
    hescape.trans (replaceEmojiFrom_lighter h _ _)

theorem plainText_eq {text : List Char} (hbracket : '[' ∉ text) (hpair : text.count ':' ≤ 1) :
    plainText text = String.ofList text := by
  have hescape : ¬ ['\\', '['] <:+: text := fun hpart => hbracket (hpart.mem (by simp))
  have hreplace := replaceFrom_eq ['['] hescape
  simp [plainText, Text.replaceAll, replaceEmoji, hreplace, replaceEmojiFrom_eq _ hpair]

theorem renderPieces_weight_le (h : Weighs f step) {parts : List Piece} {styles : List String}
    (hshown : renderPieces styles parts = .ok shown) :
    weight f shown.toList ≤ weight f (parts.flatMap Piece.text) := by
  induction parts generalizing styles shown with
  | nil =>
    obtain rfl := Except.ok.inj hshown
    simp
  | cons part parts ih =>
    cases part with
    | plain text =>
      obtain ⟨rest, hrest, heq⟩ := bind_eq_ok.mp hshown
      obtain rfl := pure_eq_ok.mp heq
      have hle := (plainText_lighter h text).le
      have hrest := ih hrest
      simp only [String.toList_append, weight_append, List.flatMap_cons, Piece.text]
      omega
    | tag position content =>
      obtain ⟨styles', -, hrest⟩ := bind_eq_ok.mp hshown
      simpa [Piece.text] using ih hrest

theorem renderMarkup_lighter (h : Weighs f step) {text : String}
    (hshown : renderMarkup text = .ok shown) : Lighter f step text.toList shown.toList := by
  rcases piecesFrom_lighter h (Nat.lt_add_one text.toList.length) 0 [] with hpieces | hlt
  · rw [renderMarkup, pieces, hpieces] at hshown
    obtain ⟨rest, hrest, heq⟩ := bind_eq_ok.mp hshown
    obtain rfl := Except.ok.inj hrest
    obtain rfl := pure_eq_ok.mp heq
    simpa using plainText_lighter h text.toList
  · have hle := renderPieces_weight_le h hshown
    rw [weight_nil, Nat.zero_add] at hlt
    rw [pieces] at hle
    exact .inr (by omega)

theorem renderMarkup_forall {p : Char → Prop} (hpicture : ∀ c, isPictureChar c = true → p c)
    {text : String} (hshown : renderMarkup text = .ok shown) (h : ∀ c ∈ text.toList, p c) :
    ∀ c ∈ shown.toList, p c := by
  classical
  let f (c : Char) : Nat := if p c then 0 else 1
  have hzero {c : Char} : f c = 0 ↔ p c := by simp [f]
  have hweighs : Weighs f 0 :=
    ⟨fun c hc => hzero.mpr (hpicture c hc), Nat.zero_le _, Nat.zero_le _, Nat.zero_le _⟩
  have hle := (renderMarkup_lighter hweighs hshown).le
  have htext : weight f text.toList = 0 := weight_eq_zero.mpr fun c hc => hzero.mpr (h c hc)
  exact fun c hc => hzero.mp (weight_eq_zero.mp (by omega) c hc)

theorem renderMarkup_plain {text : String} (hbracket : '[' ∉ text.toList)
    (hpair : text.toList.count ':' ≤ 1) : renderMarkup text = .ok text := by
  rw [renderMarkup, pieces, piecesFrom_of_noBracket hbracket (Nat.lt_add_one _)]
  simp [renderPieces, ok_bind, pure_ok, plainText_eq hbracket hpair]

theorem isPlain_of_isPictureChar (h : isPictureChar c = true) : IsPlain c := by
  simp only [isPictureChar, Bool.and_eq_true, Bool.not_eq_true', decide_eq_true_eq] at h
  obtain ⟨⟨⟨⟨hblank, hcode⟩, -⟩, -⟩, -⟩ := h
  exact ⟨hcode, fun h => absurd (hblank.symm.trans h) (by decide)⟩

theorem unprintable_blank : ∀ code ∈ Regex.blankCodes, code ≠ 32 →
    Text.isPrintable (Char.ofNat code) = false := by
  decide +kernel

theorem isPlain_of_isPrintable {c : Char} (h : Text.isPrintable c = true) : IsPlain c := by
  constructor
  · by_contra hcode
    rw [Text.isPrintable, if_pos (by omega), decide_eq_true_eq] at h
    exact hcode h
  · intro hblank
    by_contra hspace
    have hcode : c.toNat ≠ 32 := fun hcode => hspace (by rw [← Char.ofNat_toNat c, hcode])
    have hnot := unprintable_blank c.toNat (Regex.mem_blankCodes hblank) hcode
    rw [Char.ofNat_toNat, h] at hnot
    cases hnot

-- ---------------------------------------------------------------------------
-- The laws of markup
-- ---------------------------------------------------------------------------

theorem shownMarkup_eq_ok : shownMarkup text = .ok shown ↔ renderMarkup text = .ok shown :=
  mapError_eq_ok

theorem ne_of_isAlphanum {c d : Char} (h : c.isAlphanum = true) (hd : d.isAlphanum = false) :
    c ≠ d := by
  rintro rfl
  exact absurd (h.symm.trans hd) (by decide)

theorem exists_cons_of_isTagName (h : IsTagName name) :
    ∃ c body, name.toList = c :: body ∧ c.isLower = true ∧
      ∀ d ∈ c :: body, d.isAlphanum = true := by
  obtain ⟨hhead, hall⟩ := h
  obtain ⟨c, hc, hlower⟩ := (Option.any_eq_true _ _).mp hhead
  obtain ⟨body, hname⟩ := List.head?_eq_some_iff.mp hc
  exact ⟨c, body, hname, hlower, hname ▸ List.all_eq_true.mp hall⟩

theorem isTag_cons {body : List Char} (hc : isTagStart c = true)
    (hbody : ∀ d ∈ body, d.isAlphanum = true) : IsTag (c :: body) :=
  ⟨hc, fun d hd => ⟨ne_of_isAlphanum (hbody d hd) (by decide),
    ne_of_isAlphanum (hbody d hd) (by decide)⟩⟩

theorem tagName_eq {content : List Char} (h : ∀ d ∈ content, d ≠ '=') :
    tagName content = content :=
  List.takeWhile_eq_self_iff.mpr fun d hd => by simpa using h d hd

theorem renderMarkup_front {front back : String} (hfront : Unmarked front) (hback : Unmarked back)
    (hcontent : IsTag content)
    (htext : text.toList = front.toList ++ '[' :: (content ++ ']' :: back.toList)) :
    renderMarkup text =
      (applyTag [] front.toList.length content).map fun _ => front ++ back := by
  have hpieces : pieces text.toList =
      [.plain front.toList, .plain [], .tag front.toList.length content, .plain back.toList] := by
    have hfuel : front.toList.length + back.toList.length + 1 < text.toList.length + 1 := by
      simp only [htext, List.length_append, List.length_cons]
      omega
    have hpieces := piecesFrom_front hfront.noBracket hfront.noSlash hcontent hback.noBracket
      hfuel 0 []
    rwa [List.reverse_nil, List.nil_append, Nat.zero_add, ← htext] at hpieces
  have hnil : plainText [] = "" := by decide
  rw [renderMarkup, hpieces]
  simp only [renderPieces]
  cases applyTag [] front.toList.length content with
  | error fault => rfl
  | ok styles =>
    simp [ok_bind, pure_ok, Except.map, hnil, plainText_eq hfront.noBracket hfront.noPair,
      plainText_eq hback.noBracket hback.noPair]

section Tag

variable {front name back : String} (hfront : Unmarked front) (hname : IsTagName name)
  (hback : Unmarked back)

include hfront hname hback

theorem renderMarkup_tag : renderMarkup (front ++ "[" ++ name ++ "]" ++ back) =
    .ok (front ++ back) := by
  obtain ⟨c, body, hcons, hlower, hall⟩ := exists_cons_of_isTagName hname
  have hcontent : IsTag (c :: body) :=
    isTag_cons (by simp [isTagStart, hlower]) (List.forall_mem_cons.mp hall).2
  have happly : applyTag [] front.toList.length (c :: body) = .ok [styleName (c :: body)] := by
    have htag : tagName (c :: body) = c :: body :=
      tagName_eq fun d hd => ne_of_isAlphanum (hall d hd) (by decide)
    have hslash : c ≠ '/' := ne_of_isAlphanum (hall c List.mem_cons_self) (by decide)
    rw [applyTag, htag]
    split
    · next name heq => exact absurd (List.cons_eq_cons.mp heq).1 hslash
    · rfl
  rw [renderMarkup_front hfront hback hcontent (by simp [hcons]), happly]
  rfl

theorem renderMarkup_closingTag :
    ∃ e, renderMarkup (front ++ "[/" ++ name ++ "]" ++ back) = .error e := by
  obtain ⟨c, body, hcons, -, hall⟩ := exists_cons_of_isTagName hname
  have hcontent : IsTag ('/' :: c :: body) := isTag_cons (by decide) hall
  -- No style is open, so there is nothing that the tag could close.
  have happly : ∃ e, applyTag [] front.toList.length ('/' :: c :: body) = .error e := by
    have htag : tagName ('/' :: c :: body) = '/' :: c :: body := tagName_eq <|
      List.forall_mem_cons.mpr ⟨by decide, fun d hd => ne_of_isAlphanum (hall d hd) (by decide)⟩
    rw [applyTag, htag]
    by_cases hempty : (Text.stripChars (c :: body) == []) = true
    · exact ⟨_, if_pos hempty⟩
    · exact ⟨_, if_neg hempty⟩
  obtain ⟨e, he⟩ := happly
  exact ⟨e, by rw [renderMarkup_front hfront hback hcontent (by simp [hcons]), he]; rfl⟩

end Tag

end CodeAudit.Shell
