import CodeAudit.Text.Blank
import CodeAudit.Text.Case
import Mathlib.Data.List.DropRight

/-!
# Stripped, upper-cased and lower-cased texts

Stripping a text twice is stripping it once (`strip_strip`), and stripping leaves out the blanks
around a text without blanks (`stripChars_around`). A text of capital letters, digits and dashes is
its own upper-case form (`upper_eq_self`).
-/

namespace CodeAudit.Text

-- ---------------------------------------------------------------------------
-- Blanks
-- ---------------------------------------------------------------------------

theorem dropWhile_dropBlanksRight (h : cs.dropWhile isBlank = cs) :
    (dropBlanksRight cs).dropWhile isBlank = dropBlanksRight cs := by
  rw [List.dropWhile_eq_self_iff] at h ⊢
  intro hpos
  have hinit : dropBlanksRight cs <+: cs := List.rdropWhile_prefix isBlank cs
  rw [hinit.getElem hpos]
  exact h (hpos.trans_le hinit.length_le)

theorem stripChars_stripChars (cs : List Char) : stripChars (stripChars cs) = stripChars cs := by
  have hleft : (cs.dropWhile isBlank).dropWhile isBlank = cs.dropWhile isBlank :=
    List.dropWhile_idempotent isBlank cs
  calc stripChars (stripChars cs)
      = dropBlanksRight (dropBlanksRight (cs.dropWhile isBlank)) := by
        simp only [stripChars, dropWhile_dropBlanksRight hleft]
    _ = stripChars cs := List.rdropWhile_idempotent isBlank _

@[simp]
theorem strip_strip (s : String) : strip (strip s) = strip s := by
  simp only [strip, String.toList_ofList, stripChars_stripChars]

theorem stripChars_map {f : Char → Char} (h : ∀ c, isBlank (f c) = isBlank c) (cs : List Char) :
    stripChars (cs.map f) = (stripChars cs).map f := by
  have hcomp : isBlank ∘ f = isBlank := funext h
  simp only [stripChars, dropBlanksRight, List.dropWhile_map, hcomp, ← List.map_reverse]

theorem dropWhile_blanks (hbefore : before.all isBlank) (hcore : ∀ c ∈ core, isBlank c = false)
    (hne : core ≠ []) : (before ++ core ++ after).dropWhile isBlank = core ++ after := by
  obtain ⟨c, rest, rfl⟩ := List.exists_cons_of_ne_nil hne
  have hc : isBlank c = false := hcore c List.mem_cons_self
  rw [List.append_assoc, List.dropWhile_append_of_pos (List.all_eq_true.mp hbefore),
    List.cons_append, List.dropWhile_cons_of_neg (by simp [hc])]

theorem stripChars_around (hbefore : before.all isBlank) (hafter : after.all isBlank)
    (hcore : ∀ c ∈ core, isBlank c = false) (hne : core ≠ []) :
    stripChars (before ++ core ++ after) = core := by
  have hend : (core ++ after).reverse.dropWhile isBlank = core.reverse := by
    have hdrop : (after.reverse ++ core.reverse ++ []).dropWhile isBlank = core.reverse ++ [] :=
      dropWhile_blanks (by simpa using hafter) (by simpa using hcore) (by simpa using hne)
    rwa [List.append_nil, List.append_nil, ← List.reverse_append] at hdrop
  rw [stripChars, dropWhile_blanks hbefore hcore hne, dropBlanksRight, hend, List.reverse_reverse]

theorem isBlankText_of_stripped {s : String} (hne : s ≠ "") (hs : strip s = s) :
    ¬ isBlankText s := by
  intro hblank
  have hdrop : s.toList.dropWhile isBlank = [] :=
    List.dropWhile_eq_nil_iff.mpr (List.all_eq_true.mp hblank)
  have hempty : strip s = "" := by
    rw [strip, stripChars, hdrop]
    rfl
  exact hne (hs.symm.trans hempty)

theorem stripChars_eq_nil {cs : List Char} (h : stripChars cs = []) : cs.all isBlank = true := by
  have hkept : ∀ c ∈ cs.dropWhile isBlank, isBlank c = true := by
    simpa [stripChars, dropBlanksRight, List.dropWhile_eq_nil_iff] using h
  rw [List.all_eq_true, ← List.takeWhile_append_dropWhile (p := isBlank) (l := cs)]
  exact List.forall_mem_append.mpr ⟨fun c hc => List.mem_takeWhile_imp hc, hkept⟩

theorem isBlankText_strip {s : String} (h : isBlankText s = false) :
    isBlankText (strip s) = false := by
  have hne : strip s ≠ "" := by
    intro hempty
    have hchars : stripChars s.toList = [] := by
      simpa [strip] using congrArg String.toList hempty
    rw [isBlankText, stripChars_eq_nil hchars] at h
    cases h
  simpa using isBlankText_of_stripped hne (strip_strip s)
-- ---------------------------------------------------------------------------
-- Capital letters
-- ---------------------------------------------------------------------------

theorem upperChar_eq_self (hascii : c.toNat < 128) (hlower : c.isLower = false) :
    upperChar c = [c] := by
  have hupper : c.toUpper = c := by
    unfold Char.toUpper
    split
    · rename_i hrange
      rcases Bool.and_eq_false_iff.mp hlower with h | h
      · exact absurd hrange.1 (of_decide_eq_false h)
      · exact absurd hrange.2 (of_decide_eq_false h)
    · rfl
  simp [upperChar, hascii, hupper]

theorem upper_eq_self (h : ∀ c ∈ s.toList, c.toNat < 128 ∧ c.isLower = false) : upper s = s := by
  have hchars : s.toList.flatMap upperChar = s.toList := by
    generalize s.toList = cs at h
    induction cs with
    | nil => rfl
    | cons c cs ih =>
      obtain ⟨⟨hascii, hlower⟩, hrest⟩ := List.forall_mem_cons.mp h
      simp [upperChar_eq_self hascii hlower, ih hrest]
  rw [upper, hchars, String.ofList_toList]

-- ---------------------------------------------------------------------------
-- Small letters
-- ---------------------------------------------------------------------------

theorem lowerChar_ascii : ∀ n < 128, lowerChar (Char.ofNat n) = [(Char.ofNat n).toLower] ∧
    isBlank (Char.ofNat n) = isBlank (Char.ofNat n).toLower := by decide

theorem toLower_of_large {c : Char} (h : 128 ≤ c.toNat) : c.toLower = c := by
  unfold Char.toLower
  split
  · next hrange =>
    have hle : c.toNat ≤ 90 := hrange.2
    omega
  · rfl

theorem lowerChar_of_plain {c : Char} (h : c.toLower.toNat < 128 ∧ isBlank c.toLower = false) :
    lowerChar c = [c.toLower] ∧ isBlank c = false := by
  by_cases hc : c.toNat < 128
  · obtain ⟨hlower, hblank⟩ := lowerChar_ascii c.toNat hc
    rw [Char.ofNat_toNat] at hlower hblank
    exact ⟨hlower, hblank.trans h.2⟩
  · rw [toLower_of_large (by omega)] at h
    omega

end CodeAudit.Text
