import CodeAudit.Source.Lines
import Mathlib.Data.List.DropRight
import Mathlib.Data.List.TakeWhile

/-!
# Line numbers

The index of a text finds the line of an offset by bisection. The line is one more than the number
of newlines before the offset (`lineOf_eq`), and its text is the piece between the newlines around
the offset (`lineText_lineOf`).
-/

namespace CodeAudit.Text

-- ---------------------------------------------------------------------------
-- Bisection
-- ---------------------------------------------------------------------------

/-- What bisection knows of the interval it has come to: all entries before it are at most `x`, and
all entries behind it are greater. -/
structure Bracketed (a : Array Nat) (x lo hi : Nat) : Prop where
  order : lo ≤ hi
  bound : hi ≤ a.size
  before : ∀ i < lo, a.getD i 0 ≤ x
  behind : ∀ i, hi ≤ i → i < a.size → x < a.getD i 0

variable {a : Array Nat} {x lo hi : Nat}

def Ascending (a : Array Nat) : Prop := ∀ i j, i ≤ j → j < a.size → a.getD i 0 ≤ a.getD j 0

theorem Bracketed.left (h : Bracketed a x lo hi) (ha : Ascending a) (hlt : lo < hi)
    (hx : x < a.getD ((lo + hi) / 2) 0) : Bracketed a x lo ((lo + hi) / 2) where
  order := by omega
  bound := by have := h.bound; omega
  before := h.before
  behind i hi hsize := Nat.lt_of_lt_of_le hx (ha _ _ hi hsize)

theorem Bracketed.right (h : Bracketed a x lo hi) (ha : Ascending a) (hlt : lo < hi)
    (hx : a.getD ((lo + hi) / 2) 0 ≤ x) : Bracketed a x ((lo + hi) / 2 + 1) hi where
  order := by omega
  bound := h.bound
  before i hi := by
    have hbound := h.bound
    exact Nat.le_trans (ha i _ (by omega) (by omega)) hx
  behind := h.behind

theorem bisectBetween_bracketed (ha : Ascending a) (h : Bracketed a x lo hi)
    (hrounds : hi - lo ≤ rounds) :
    Bracketed a x (bisectBetween a x rounds lo hi) (bisectBetween a x rounds lo hi) := by
  induction rounds generalizing lo hi with
  | zero =>
    obtain rfl : lo = hi := by have := h.order; omega
    exact h
  | succ rounds ih =>
    simp only [bisectBetween]
    split
    · next hlt =>
      split
      · next hx => exact ih (h.left ha hlt hx) (by omega)
      · next hx => exact ih (h.right ha hlt (by omega)) (by omega)
    · next hle =>
      obtain rfl : lo = hi := by have := h.order; omega
      exact h

theorem bisectRight_bracketed (ha : Ascending a) :
    Bracketed a x (bisectRight a x) (bisectRight a x) := by
  refine bisectBetween_bracketed ha ?_ (by omega)
  exact ⟨Nat.zero_le _, Nat.le_refl _, fun i hi => absurd hi (by omega),
    fun i hi hsize => absurd hi (by omega)⟩

theorem ascending_toArray {l : List Nat} (h : l.Pairwise (· ≤ ·)) : Ascending l.toArray := by
  intro i j hij hj
  have hj : j < l.length := hj
  rcases Nat.lt_or_eq_of_le hij with hlt | rfl
  · have hle := List.pairwise_iff_getElem.mp h i j (Nat.lt_trans hlt hj) hj hlt
    simpa [Array.getD, hj, Nat.lt_trans hlt hj] using hle
  · exact Nat.le_refl _

/-- Bisection counts the entries that are at most `x`. -/
theorem bisectRight_toArray {l : List Nat} (hl : l.Pairwise (· ≤ ·)) (x : Nat) :
    bisectRight l.toArray x = l.countP (· ≤ x) := by
  have h : Bracketed l.toArray x _ _ := bisectRight_bracketed (ascending_toArray hl)
  generalize bisectRight l.toArray x = k at h
  have hk : k ≤ l.length := h.bound
  have hbefore : (l.take k).countP (· ≤ x) = k := by
    have hall : ∀ y ∈ l.take k, decide (y ≤ x) = true := by
      intro y hy
      obtain ⟨i, hi, rfl⟩ := List.mem_take_iff_getElem.mp hy
      have := h.before i (by omega)
      have hi : i < l.length := by omega
      simpa [Array.getD, hi] using this
    rw [List.countP_eq_length.mpr hall, List.length_take, Nat.min_eq_left hk]
  have hbehind : (l.drop k).countP (· ≤ x) = 0 := by
    refine List.countP_eq_zero.mpr fun y hy => ?_
    obtain ⟨i, hi, rfl⟩ := List.mem_drop_iff_getElem.mp hy
    have hi : k + i < l.length := by omega
    have := h.behind (k + i) (by omega) hi
    simpa [Array.getD, hi] using this
  rw [← List.take_append_drop k l, List.countP_append, hbefore, hbehind, Nat.add_zero]

end CodeAudit.Text

namespace CodeAudit.Source

open CodeAudit.Text (bisectRight_toArray)

-- ---------------------------------------------------------------------------
-- Pieces between newlines
-- ---------------------------------------------------------------------------

theorem splitLines_ne_nil (text : List Char) : splitLines text ≠ [] := by
  cases text with
  | nil => simp [splitLines]
  | cons c rest =>
    simp only [splitLines]
    split
    · simp
    · split <;> simp

theorem splitLines_newline (rest : List Char) :
    splitLines ('\n' :: rest) = [] :: splitLines rest := rfl

theorem splitLines_cons {c : Char} (h : c ≠ '\n') (hrest : splitLines rest = line :: lines) :
    splitLines (c :: rest) = (c :: line) :: lines := by
  simp [splitLines, h, hrest]

theorem lineStarts_cons (offset : Nat) (line : List Char) (lines : List (List Char)) :
    lineStarts offset (line :: lines) =
      offset :: lineStarts (offset + line.length + 1) lines := rfl

theorem le_of_mem_lineStarts (h : start ∈ lineStarts offset lines) : offset ≤ start := by
  induction lines generalizing offset with
  | nil => cases h
  | cons line lines ih =>
    rcases List.mem_cons.mp h with rfl | h
    · exact Nat.le_refl _
    · have := ih h
      omega

theorem lineStarts_pairwise (offset : Nat) (lines : List (List Char)) :
    (lineStarts offset lines).Pairwise (· ≤ ·) := by
  induction lines generalizing offset with
  | nil => exact .nil
  | cons line lines ih =>
    refine List.pairwise_cons.mpr ⟨fun start hstart => ?_, ih _⟩
    have := le_of_mem_lineStarts hstart
    omega

theorem countP_lineStarts_of_lt (h : x < offset) :
    (lineStarts offset lines).countP (· ≤ x) = 0 := by
  refine List.countP_eq_zero.mpr fun start hstart => ?_
  have := le_of_mem_lineStarts hstart
  simpa using Nat.lt_of_lt_of_le h this

theorem countP_lineStarts (text : List Char) (offset k : Nat) :
    (lineStarts offset (splitLines text)).countP (· ≤ offset + k) =
      (text.take k).count '\n' + 1 := by
  induction text generalizing offset k with
  | nil => simp [splitLines, lineStarts]
  | cons c rest ih =>
    by_cases hc : c = '\n'
    · subst hc
      rw [splitLines_newline, lineStarts_cons, List.countP_cons_of_pos (by simp), List.length_nil]
      cases k with
      | zero => rw [countP_lineStarts_of_lt (by omega)]; rfl
      | succ k =>
        have hrest := ih (offset + 1) k
        rw [show offset + 1 + k = offset + (k + 1) by omega] at hrest
        rw [Nat.add_zero, hrest, List.take_succ_cons, List.count_cons_self]
    · obtain ⟨line, lines, hrest⟩ := List.exists_cons_of_ne_nil (splitLines_ne_nil rest)
      rw [splitLines_cons hc hrest, lineStarts_cons, List.countP_cons_of_pos (by simp),
        List.length_cons]
      cases k with
      | zero => rw [countP_lineStarts_of_lt (by omega)]; rfl
      | succ k =>
        have hlines := ih (offset + 1) k
        rw [hrest, lineStarts_cons, List.countP_cons_of_pos (by simp),
          show offset + 1 + k = offset + (k + 1) by omega] at hlines
        rw [List.take_succ_cons, List.count_cons_of_ne hc, ← hlines,
          show offset + 1 + line.length + 1 = offset + (line.length + 1) + 1 by omega]

-- ---------------------------------------------------------------------------
-- The piece around an offset
-- ---------------------------------------------------------------------------

/-- The piece of a text between the newlines around an offset. -/
def pieceAt (text : List Char) (offset : Nat) : List Char :=
  (text.take offset).rtakeWhile (· != '\n') ++ (text.drop offset).takeWhile (· != '\n')

theorem rtakeWhile_cons (c : Char) (l : List Char) :
    (c :: l).rtakeWhile (· != '\n') =
      if c = '\n' ∨ '\n' ∈ l then l.rtakeWhile (· != '\n')
      else c :: l.rtakeWhile (· != '\n') := by
  induction l using List.reverseRecOn with
  | nil => by_cases hc : c = '\n' <;> simp [List.rtakeWhile, hc]
  | append_singleton l x ih =>
    rw [← List.cons_append, List.rtakeWhile_concat, List.rtakeWhile_concat, ih]
    by_cases hx : x = '\n'
    · simp [hx]
    · have hmem : '\n' ∈ l ++ [x] ↔ '\n' ∈ l := by simp [Ne.symm hx]
      simp only [hmem, bne_iff_ne, ne_eq, hx, not_false_eq_true, ↓reduceIte]
      split <;> rfl

theorem splitLines_pieceAt (text : List Char) (offset : Nat) :
    (splitLines text)[(text.take offset).count '\n']? = some (pieceAt text offset) := by
  induction text generalizing offset with
  | nil => simp [splitLines, pieceAt]
  | cons c rest ih =>
    by_cases hc : c = '\n'
    · subst hc
      cases offset with
      | zero => simp [splitLines_newline, pieceAt]
      | succ offset =>
        rw [splitLines_newline, List.take_succ_cons, List.count_cons_self,
          List.getElem?_cons_succ, ih, pieceAt, pieceAt, List.take_succ_cons, rtakeWhile_cons,
          if_pos (.inl rfl), List.drop_succ_cons]
    · obtain ⟨line, lines, hrest⟩ := List.exists_cons_of_ne_nil (splitLines_ne_nil rest)
      rw [splitLines_cons hc hrest]
      rw [hrest] at ih
      cases offset with
      | zero =>
        have hline : line = pieceAt rest 0 := Option.some.inj (ih 0)
        simp [hline, pieceAt, hc]
      | succ offset =>
        rw [List.take_succ_cons, List.count_cons_of_ne hc, pieceAt, List.take_succ_cons,
          List.drop_succ_cons]
        have hline := ih offset
        by_cases hmem : '\n' ∈ rest.take offset
        · obtain ⟨n, hn⟩ := Nat.exists_eq_succ_of_ne_zero
            (Nat.pos_iff_ne_zero.mp (List.count_pos_iff.mpr hmem))
          rw [rtakeWhile_cons, if_pos (.inr hmem)]
          rw [hn] at hline ⊢
          exact hline
        · rw [List.count_eq_zero_of_not_mem hmem] at hline ⊢
          have hline : line = pieceAt rest offset := Option.some.inj hline
          rw [rtakeWhile_cons, if_neg (by simp [hc, hmem]), hline]
          rfl

-- ---------------------------------------------------------------------------
-- Lines behind each other
-- ---------------------------------------------------------------------------

theorem splitLines_append_newline {line : List Char} (h : '\n' ∉ line) (rest : List Char) :
    splitLines (line ++ '\n' :: rest) = line :: splitLines rest := by
  induction line with
  | nil => rfl
  | cons c line ih =>
    obtain ⟨hc, hline⟩ := not_or.mp (mt List.mem_cons.mpr h)
    exact splitLines_cons (Ne.symm hc) (ih hline)

theorem splitLines_of_notMem {line : List Char} (h : '\n' ∉ line) : splitLines line = [line] := by
  induction line with
  | nil => rfl
  | cons c line ih =>
    obtain ⟨hc, hline⟩ := not_or.mp (mt List.mem_cons.mpr h)
    exact splitLines_cons (Ne.symm hc) (ih hline)

theorem toList_unlines (lines : List (List Char)) :
    (unlines lines).toList = lines.flatMap (· ++ ['\n']) := by
  induction lines with
  | nil => rfl
  | cons line lines ih =>
    rw [List.flatMap_cons, ← ih]
    simp [unlines, String.join_cons]

theorem splitLines_unlines {lines : List (List Char)} (h : ∀ line ∈ lines, '\n' ∉ line)
    (rest : List Char) :
    splitLines ((unlines lines).toList ++ rest) = lines ++ splitLines rest := by
  rw [toList_unlines]
  induction lines with
  | nil => rfl
  | cons line lines ih =>
    obtain ⟨hline, hlines⟩ := List.forall_mem_cons.mp h
    rw [List.flatMap_cons, List.append_assoc, List.append_assoc, List.singleton_append,
      splitLines_append_newline hline, ih hlines, List.cons_append]

namespace LineIndex

/-- The line of an offset is one more than the number of newlines before it. -/
theorem lineOf_eq (text : List Char) (offset : Nat) :
    (ofChars text).lineOf offset = (text.take offset).count '\n' + 1 := by
  have hcount := countP_lineStarts text 0 offset
  rw [Nat.zero_add] at hcount
  rw [← hcount]
  exact bisectRight_toArray (lineStarts_pairwise 0 _) offset

theorem lineText_lineOf (text : List Char) (offset : Nat) :
    (ofChars text).lineText ((ofChars text).lineOf offset) =
      String.ofList (pieceAt text offset) := by
  have hpiece := splitLines_pieceAt text offset
  rw [lineOf_eq]
  simp [ofChars, lineText, hpiece]

end LineIndex

end CodeAudit.Source
