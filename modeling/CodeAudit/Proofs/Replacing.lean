import CodeAudit.Text.Replace
import Mathlib.Data.List.Infix

/-!
# Replacing twice

A text whose gaps are written as a piece and then filled by replacing that piece is not always the
text with its gaps filled: the piece may also be spelled by the text around and between the gaps.
If the first character of the piece comes only once in it, the two agree exactly if there is no such
occurrence (`replaceFrom_fill_eq_iff`).
-/

namespace CodeAudit.Text

-- ---------------------------------------------------------------------------
-- Pieces of texts
-- ---------------------------------------------------------------------------

theorem prefix_of_notMem {w front back : List α} (hstop : x ∉ w) (h : w <+: front ++ x :: back) :
    w <+: front := by
  rcases List.prefix_or_prefix_of_prefix h (List.prefix_append front _) with hw | ⟨rest, rfl⟩
  · exact hw
  · cases rest with
    | nil => simp
    | cons y rest =>
      rw [List.prefix_append_right_inj, List.cons_prefix_cons] at h
      simp [h.1] at hstop

theorem infix_of_notMem {w front back : List α} (hstop : x ∉ w)
    (h : w <:+: front ++ x :: back) : w <:+: front ∨ w <:+: back := by
  obtain hfront | hback | ⟨w₁, w₂, -, hne, rfl, -, hback⟩ := List.infix_append_iff_ne_nil.mp h
  · exact .inl hfront
  · rcases List.infix_cons_iff.mp hback with hprefix | hback
    · have hnil : w <+: [] := prefix_of_notMem hstop hprefix
      exact .inl (hnil.isInfix.trans List.nil_infix)
    · exact .inr hback
  · obtain ⟨y, w₂, rfl⟩ := List.exists_cons_of_ne_nil hne
    simp [(List.cons_prefix_cons.mp hback).1] at hstop

variable {piece filler rest : List Char}

-- ---------------------------------------------------------------------------
-- Equations
-- ---------------------------------------------------------------------------

theorem replaceFrom_skip (piece filler text : List Char) (skip : Nat) :
    replaceFrom piece filler text skip = replaceFrom piece filler (text.drop skip) 0 := by
  induction text generalizing skip with
  | nil => rw [List.drop_nil, replaceFrom, replaceFrom]
  | cons c rest ih =>
    cases skip with
    | zero => rfl
    | succ skip => rw [replaceFrom, ih, List.drop_succ_cons]

theorem replaceFrom_piece (hne : piece ≠ []) (filler rest : List Char) :
    replaceFrom piece filler (piece ++ rest) 0 = filler ++ replaceFrom piece filler rest 0 := by
  obtain ⟨c, tail, rfl⟩ := List.exists_cons_of_ne_nil hne
  have hprefix : (c :: tail).isPrefixOf (c :: (tail ++ rest)) = true :=
    List.isPrefixOf_iff_prefix.mpr (List.prefix_append (c :: tail) rest)
  rw [List.cons_append, replaceFrom, if_pos hprefix, replaceFrom_skip]
  simp

theorem replaceFrom_cons (h : ¬ piece <+: c :: rest) (filler : List Char) :
    replaceFrom piece filler (c :: rest) 0 = c :: replaceFrom piece filler rest 0 := by
  rw [replaceFrom, if_neg (mt List.isPrefixOf_iff_prefix.mp h)]

theorem replaceFrom_of_notMem (h : c ∉ front) (filler rest : List Char) :
    replaceFrom (c :: tail) filler (front ++ rest) 0 =
      front ++ replaceFrom (c :: tail) filler rest 0 := by
  induction front with
  | nil => rfl
  | cons x front ih =>
    obtain ⟨hx, hfront⟩ := not_or.mp (mt List.mem_cons.mpr h)
    rw [List.cons_append, replaceFrom_cons fun hprefix => hx (List.cons_prefix_cons.mp hprefix).1,
      ih hfront, List.cons_append]

-- ---------------------------------------------------------------------------
-- Texts with gaps
-- ---------------------------------------------------------------------------

def fill (filler : List Char) (text : List (Option Char)) : List Char :=
  text.flatMap fun
    | some c => [c]
    | none => filler

@[simp] theorem fill_nil (filler : List Char) : fill filler [] = [] := rfl

@[simp]
theorem fill_none (filler : List Char) (text : List (Option Char)) :
    fill filler (none :: text) = filler ++ fill filler text := rfl

@[simp]
theorem fill_some (filler : List Char) (c : Char) (text : List (Option Char)) :
    fill filler (some c :: text) = c :: fill filler text := rfl

@[simp]
theorem fill_map_some (filler cs : List Char) (text : List (Option Char)) :
    fill filler (cs.map some ++ text) = cs ++ fill filler text := by
  induction cs with
  | nil => rfl
  | cons c cs ih => simp [ih]

/-- A text with gaps, taken apart from the left: it starts with a gap, with the piece, or with a
character at which the piece does not start. -/
theorem gaps_induction {motive : List (Option Char) → Prop} (hne : piece ≠ [])
    (nil : motive []) (gap : ∀ text, motive text → motive (none :: text))
    (found : ∀ text, motive text → motive (piece.map some ++ text))
    (char : ∀ c text, ¬ piece.map some <+: some c :: text → motive text →
      motive (some c :: text)) (text : List (Option Char)) : motive text := by
  induction hlength : text.length using Nat.strong_induction_on generalizing text with
  | _ n ih =>
    cases text with
    | nil => exact nil
    | cons first text =>
      have hrest {rest : List (Option Char)} (hlt : rest.length < n) : motive rest :=
        ih rest.length hlt rest rfl
      cases first with
      | none => exact gap text (hrest (by simp [← hlength]))
      | some c =>
        by_cases hprefix : piece.map some <+: some c :: text
        · obtain ⟨rest, hsplit⟩ := hprefix
          have hpos := List.length_pos_of_ne_nil hne
          have hsum := congrArg List.length hsplit
          rw [List.length_append, List.length_map] at hsum
          exact hsplit ▸ found rest (hrest (by omega))
        · exact char c text hprefix (hrest (by simp [← hlength]))

theorem prefix_fill_iff (h : c ∉ front) :
    front <+: fill (c :: tail) text ↔ front.map some <+: text := by
  induction front generalizing text with
  | nil => simp
  | cons x front ih =>
    obtain ⟨hx, hfront⟩ := not_or.mp (mt List.mem_cons.mpr h)
    cases text with
    | nil => simp
    | cons first text =>
      cases first with
      | none => simp [List.cons_prefix_cons, Ne.symm hx]
      | some y => simp [List.cons_prefix_cons, ih hfront]

section Piece

variable {c : Char} {tail : List Char} (htail : c ∉ tail)

include htail

theorem replaceFrom_fill_some (h : ¬ (c :: tail).map some <+: some x :: text)
    (filler : List Char) :
    replaceFrom (c :: tail) filler (fill (c :: tail) (some x :: text)) 0 =
      x :: replaceFrom (c :: tail) filler (fill (c :: tail) text) 0 := by
  rw [fill_some]
  refine replaceFrom_cons (fun hprefix => h ?_) filler
  rw [List.cons_prefix_cons, prefix_fill_iff htail] at hprefix
  rw [List.map_cons, List.cons_prefix_cons]
  exact ⟨congrArg some hprefix.1, hprefix.2⟩

/-- Replacing fills the gaps and maybe more, so the length of the filler decides which text is
longer. -/
theorem length_replaceFrom_fill (filler : List Char) (text : List (Option Char)) :
    (filler.length ≤ (c :: tail).length →
      (replaceFrom (c :: tail) filler (fill (c :: tail) text) 0).length ≤
        (fill filler text).length) ∧
    ((c :: tail).length ≤ filler.length →
      (fill filler text).length ≤
        (replaceFrom (c :: tail) filler (fill (c :: tail) text) 0).length) := by
  induction text using gaps_induction (List.cons_ne_nil c tail) with
  | nil => simp [replaceFrom]
  | gap text ih =>
    rw [fill_none, fill_none, replaceFrom_piece (List.cons_ne_nil c tail)]
    simp only [List.length_append]
    omega
  | found text ih =>
    rw [fill_map_some, fill_map_some, replaceFrom_piece (List.cons_ne_nil c tail)]
    simp only [List.length_append]
    omega
  | char x text h ih =>
    rw [replaceFrom_fill_some htail h, fill_some]
    simp only [List.length_cons] at ih ⊢
    omega

theorem replaceFrom_fill_of_notInfix (filler : List Char)
    (h : ¬ (c :: tail).map some <:+: text) :
    replaceFrom (c :: tail) filler (fill (c :: tail) text) 0 = fill filler text := by
  induction text using gaps_induction (List.cons_ne_nil c tail) with
  | nil => simp [replaceFrom]
  | gap text ih =>
    rw [fill_none, fill_none, replaceFrom_piece (List.cons_ne_nil c tail),
      ih fun hinfix => h (List.infix_cons hinfix)]
  | found text ih => exact absurd (List.prefix_append _ text).isInfix h
  | char x text hx ih =>
    rw [replaceFrom_fill_some htail hx, fill_some, ih fun hinfix => h (List.infix_cons hinfix)]

theorem replaceFrom_fill_self (text : List (Option Char)) :
    replaceFrom (c :: tail) (c :: tail) (fill (c :: tail) text) 0 = fill (c :: tail) text := by
  induction text using gaps_induction (List.cons_ne_nil c tail) with
  | nil => simp [replaceFrom]
  | gap text ih => rw [fill_none, replaceFrom_piece (List.cons_ne_nil c tail), ih]
  | found text ih => rw [fill_map_some, replaceFrom_piece (List.cons_ne_nil c tail), ih]
  | char x text h ih => rw [replaceFrom_fill_some htail h, fill_some, ih]

/-- Where the piece is found beside the gaps, something else is put there, unless it is the piece
again. -/
theorem replaceFrom_fill_ne (h : (c :: tail).map some <:+: text) (hfiller : filler ≠ c :: tail) :
    replaceFrom (c :: tail) filler (fill (c :: tail) text) 0 ≠ fill filler text := by
  induction text using gaps_induction (List.cons_ne_nil c tail) with
  | nil => simp at h
  | gap text ih =>
    rw [fill_none, fill_none, replaceFrom_piece (List.cons_ne_nil c tail)]
    have hrest : (c :: tail).map some <:+: text := by
      simpa [List.infix_cons_iff, List.cons_prefix_cons] using h
    exact fun heq => ih hrest (List.append_cancel_left heq)
  | found text ih =>
    rw [fill_map_some, fill_map_some, replaceFrom_piece (List.cons_ne_nil c tail)]
    intro heq
    obtain ⟨hshort, hlong⟩ := length_replaceFrom_fill htail filler text
    have hlength := congrArg List.length heq
    simp only [List.length_append] at hlength
    exact hfiller (List.append_inj_left heq (by omega))
  | char x text hx ih =>
    rw [replaceFrom_fill_some htail hx, fill_some]
    have hrest : (c :: tail).map some <:+: text :=
      (List.infix_cons_iff.mp h).resolve_left hx
    exact fun heq => ih hrest (List.cons_eq_cons.mp heq).2

/-- Replacing a piece that stands for the gaps of a text fills just the gaps, unless the piece is
found elsewhere as well. -/
theorem replaceFrom_fill_eq_iff (filler : List Char) (text : List (Option Char)) :
    replaceFrom (c :: tail) filler (fill (c :: tail) text) 0 = fill filler text ↔
      filler = c :: tail ∨ ¬ (c :: tail).map some <:+: text := by
  constructor
  · intro heq
    by_contra hnot
    obtain ⟨hfiller, habsent⟩ := not_or.mp hnot
    exact replaceFrom_fill_ne htail (not_not.mp habsent) hfiller heq
  · rintro (rfl | hnot)
    · exact replaceFrom_fill_self htail text
    · exact replaceFrom_fill_of_notInfix htail filler hnot

end Piece

end CodeAudit.Text
