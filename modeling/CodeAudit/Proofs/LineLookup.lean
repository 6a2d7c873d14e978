import CodeAudit.Proofs.Lines
import Mathlib.Order.Monotone.Defs

/-!
# Looking up lines

The line index answers as a rescan of the text would: an offset is on the line that the newlines
before it count, and the text of that line is what stands between the newlines around the offset.
The main statement, `LineIndex.snippetAt_eq`, holds of every offset, also of those at the end of the
text and behind it, which are on the last line.
-/

namespace CodeAudit.Source

-- ---------------------------------------------------------------------------
-- The number of lines
-- ---------------------------------------------------------------------------

theorem length_splitLines (text : List Char) :
    (splitLines text).length = text.count '\n' + 1 := by
  induction text with
  | nil => rfl
  | cons c rest ih =>
    by_cases hc : c = '\n'
    · subst hc
      rw [splitLines_newline, List.length_cons, ih, List.count_cons_self]
    · obtain ⟨line, lines, hrest⟩ := List.exists_cons_of_ne_nil (splitLines_ne_nil rest)
      rw [splitLines_cons hc hrest, List.count_cons_of_ne hc, ← ih, hrest, List.length_cons,
        List.length_cons]

theorem count_take_succ (text : List Char) (i : Nat) :
    (text.take (i + 1)).count '\n' =
      (text.take i).count '\n' + if text[i]? = some '\n' then 1 else 0 := by
  rw [List.take_add_one, List.count_append]
  cases text[i]? with
  | none => simp
  | some c => by_cases hc : c = '\n' <;> simp [hc]

theorem count_take_mono (text : List Char) {i j : Nat} (h : i ≤ j) :
    (text.take i).count '\n' ≤ (text.take j).count '\n' :=
  (List.take_sublist_take_left h).count_le '\n'

theorem count_take_le (text : List Char) (i : Nat) :
    (text.take i).count '\n' ≤ text.count '\n' :=
  (List.take_sublist i text).count_le '\n'

-- ---------------------------------------------------------------------------
-- The line around an offset
-- ---------------------------------------------------------------------------

/-- A text taken apart at the newlines around an offset: the newline that ends `before` is the last
one before the offset, and the one that starts `after` is the first one that is not. -/
structure LineAround (text : List Char) (offset : Nat) (before line after : List Char) : Prop where
  split : text = before ++ line ++ after
  free : '\n' ∉ line
  opened : before = [] ∨ before.getLast? = some '\n'
  closed : after = [] ∨ after.head? = some '\n'
  start : before.length ≤ offset
  stop : offset ≤ before.length + line.length

theorem head?_dropWhile_newline (l : List Char) :
    l.dropWhile (· != '\n') = [] ∨ (l.dropWhile (· != '\n')).head? = some '\n' := by
  refine (eq_or_ne _ []).imp_right fun hne => ?_
  have hhead : ((l.dropWhile (· != '\n')).head hne != '\n') = false := List.head_dropWhile_not _ hne
  rw [List.head?_eq_some_head hne]
  simpa using hhead

theorem getLast?_rdropWhile_newline (l : List Char) :
    l.rdropWhile (· != '\n') = [] ∨ (l.rdropWhile (· != '\n')).getLast? = some '\n' := by
  simpa [List.rdropWhile] using head?_dropWhile_newline l.reverse

/-- The piece at an offset is what stands between the newlines around it. An offset behind the text
is at its end. -/
theorem lineAround_pieceAt (text : List Char) (offset : Nat) :
    LineAround text (min offset text.length) ((text.take offset).rdropWhile (· != '\n'))
      (pieceAt text offset) ((text.drop offset).dropWhile (· != '\n')) := by
  have hbefore : (text.take offset).rdropWhile (· != '\n') ++
      (text.take offset).rtakeWhile (· != '\n') = text.take offset :=
    List.rdropWhile_append_rtakeWhile
  have hafter : (text.drop offset).takeWhile (· != '\n') ++
      (text.drop offset).dropWhile (· != '\n') = text.drop offset := List.takeWhile_append_dropWhile
  have hlength := congrArg List.length hbefore
  rw [List.length_append, List.length_take] at hlength
  constructor
  case split =>
    rw [pieceAt, List.append_assoc, List.append_assoc, hafter, ← List.append_assoc, hbefore,
      List.take_append_drop]
  case free =>
    intro hmem
    rcases List.mem_append.mp hmem with hmem | hmem
    · simpa using List.mem_rtakeWhile_imp hmem
    · simpa using List.mem_takeWhile_imp hmem
  case opened => exact getLast?_rdropWhile_newline _
  case closed => exact head?_dropWhile_newline _
  case start => omega
  case stop =>
    rw [pieceAt, List.length_append]
    omega

namespace LineIndex

theorem size_ofChars (text : List Char) : (ofChars text).size = text.count '\n' + 1 := by
  simp [ofChars, size, length_splitLines]

/-- The index agrees with counting the newlines before an offset, its lines are those that it has,
and what it shows of an offset is the stretch of the text between the newlines around it, without
the blanks at both ends. -/
theorem snippetAt_eq (text : List Char) :
    let index := ofChars text
    Monotone (fun offset : Nat => index.lineOf offset) ∧
      ∀ offset : Nat,
        index.lineOf offset = 1 + (text.take offset).count '\n' ∧
        1 ≤ index.lineOf offset ∧ index.lineOf offset ≤ index.size ∧
        ∃ before line after, LineAround text (min offset text.length) before line after ∧
          index.lineText (index.lineOf offset) = String.ofList line ∧
          index.snippetAt offset =
            (1 + (text.take offset).count '\n', Text.strip (String.ofList line)) := by
  intro index
  have hline (offset : Nat) : index.lineOf offset = (text.take offset).count '\n' + 1 :=
    lineOf_eq text offset
  refine ⟨fun i j hij => ?_, fun offset => ⟨?_, ?_, ?_, _, _, _, lineAround_pieceAt text offset,
    lineText_lineOf text offset, ?_⟩⟩
  · have hle := count_take_mono text hij
    simp only [hline]
    omega
  · rw [hline, Nat.add_comm]
  · rw [hline]
    exact Nat.le_add_left 1 _
  · have hle := count_take_le text offset
    rw [hline, size_ofChars]
    omega
  · rw [snippetAt, lineText_lineOf, hline, Nat.add_comm]

example : (ofChars "ab\ncd\n".toList).snippetAt 9 = (3, "") := by decide +kernel

end LineIndex

end CodeAudit.Source
