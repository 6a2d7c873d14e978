import CodeAudit.Proofs.Authoring
import CodeAudit.Proofs.Folding

/-!
# Labels in other spellings

Stripping and lower-casing a text leaves out what its spelling adds: the letter case of ASCII
letters and the blanks around it (`Label.lower_strip`). The other way round, a text that becomes one
of the known labels is a spelling of it (`label_iff`). This is so because only two capital letters
outside ASCII have a lower-case form with an ASCII letter in it: the dotted I, whose form goes on
with the dot, and the Kelvin sign, and no label has a `k`.
-/

namespace CodeAudit.Text

-- ---------------------------------------------------------------------------
-- Letters
-- ---------------------------------------------------------------------------

theorem toLower_ascii : ∀ n < 128,
    lowerChar (Char.ofNat n).toLower = lowerChar (Char.ofNat n) := by decide

theorem lowerChar_toLower (c : Char) : lowerChar c.toLower = lowerChar c := by
  by_cases hc : c.toNat < 128
  · simpa using toLower_ascii c.toNat hc
  · rw [toLower_of_large (by omega)]

theorem isBlank_toLower (c : Char) : isBlank c.toLower = isBlank c := by
  by_cases hc : c.toNat < 128
  · simpa using (lowerChar_ascii c.toNat hc).2.symm
  · rw [toLower_of_large (by omega)]

/-- Where the runs of lower-case forms lead: from ASCII, to outside of it, or from the dotted I or
the Kelvin sign. -/
theorem lowerRuns_cases : ∀ run ∈ lowerRuns.toList, run.2.1 < 128 ∨ 128 ≤ run.shifted run.1 ∨
    run = (0x130, 0x130, 1, -199) ∨ run = (0x212A, 0x212A, 1, -8383) := by
  decide +kernel

theorem lowerCode_of_small (hcode : 128 ≤ code) (hdotted : code ≠ 0x130)
    (hsmall : lowerCode code < 128) : lowerCode code = 'k'.toNat := by
  obtain heq | ⟨run, hrun, hfirst, hlast, -, heq⟩ := lowerCode_cases code
  · omega
  · have hmono := run.shifted_mono hfirst
    obtain hascii | hlarge | rfl | rfl := lowerRuns_cases run hrun
    · omega
    · omega
    · exact absurd (Nat.le_antisymm hlast hfirst) hdotted
    · obtain rfl : code = 0x212A := Nat.le_antisymm hlast hfirst
      exact heq

/-- Whether a character is a small ASCII letter that has no capital letter outside ASCII. -/
def isPlainLetter (c : Char) : Bool := c.isLower && c != 'k'

theorem lt_of_isPlainLetter {code : Nat} (h : isPlainLetter (Char.ofNat code)) :
    code < 128 ∧ code ≠ 'k'.toNat := by
  have hletter : (Char.ofNat code).isLower = true ∧ Char.ofNat code ≠ 'k' := by
    simpa [isPlainLetter] using h
  refine ⟨?_, fun hk => hletter.2 (hk ▸ rfl)⟩
  have hbounds (c : Char) : c.isLower = (decide (c.val ≥ 97) && decide (c.val ≤ 122)) := rfl
  have hlower : 97 ≤ (Char.ofNat code).toNat ∧ (Char.ofNat code).toNat ≤ 122 := by
    simpa [hbounds, UInt32.le_iff_toNat_le] using hletter.1
  by_cases hvalid : code.isValidChar
  · have hcode : Char.ofNat code = Char.ofNatAux code hvalid := dif_pos hvalid
    have hle : code ≤ 122 := (hcode ▸ hlower).2
    omega
  · -- What is no code point gives the character zero, which is not a letter.
    have hzero : Char.ofNat code = '\x00' := dif_neg hvalid
    exact absurd (hzero ▸ hlower) (by decide)

theorem lowerChar_of_letters {c : Char} (h : ∀ d ∈ lowerChar c, isPlainLetter d) :
    lowerChar c = [c.toLower] := by
  by_cases hc : c.toNat < 128
  · simpa using (lowerChar_ascii c.toNat hc).1
  · have hlower : lowerChar c = ['i', Char.ofNat 0x307] ∨
        c.toNat ≠ 0x130 ∧ lowerChar c = [Char.ofNat (lowerCode c.toNat)] := by
      unfold lowerChar
      split
      · exact .inl rfl
      · next hdotted => exact .inr ⟨by simpa using hdotted, rfl⟩
    obtain hlower | ⟨hdotted, hlower⟩ := hlower
    · exact absurd (h (Char.ofNat 0x307) (by simp [hlower])) (by decide)
    · obtain ⟨hsmall, hk⟩ := lt_of_isPlainLetter (h _ (hlower ▸ List.mem_singleton_self _))
      exact absurd (lowerCode_of_small (by omega) hdotted hsmall) hk

-- ---------------------------------------------------------------------------
-- Blanks
-- ---------------------------------------------------------------------------

theorem exists_blanks_around (cs : List Char) : ∃ before after,
    cs = before ++ stripChars cs ++ after ∧ before.all isBlank ∧ after.all isBlank := by
  refine ⟨cs.takeWhile isBlank, (cs.dropWhile isBlank).rtakeWhile isBlank, ?_, ?_, ?_⟩
  · have hend : stripChars cs ++ (cs.dropWhile isBlank).rtakeWhile isBlank = cs.dropWhile isBlank :=
      List.rdropWhile_append_rtakeWhile
    rw [List.append_assoc, hend, List.takeWhile_append_dropWhile]
  · exact List.all_takeWhile
  · exact List.all_eq_true.mpr fun c hc => List.mem_rtakeWhile_imp hc

theorem stripChars_padded (hbefore : before.all isBlank) (hafter : after.all isBlank)
    (core : List Char) : stripChars (before ++ core ++ after) = stripChars core := by
  have hright (cs : List Char) : dropBlanksRight (cs ++ after) = dropBlanksRight cs := by
    have hblank : after.reverse.all isBlank = true := by simpa using hafter
    rw [dropBlanksRight, List.reverse_append,
      List.dropWhile_append_of_pos (List.all_eq_true.mp hblank), dropBlanksRight]
  rw [stripChars, List.append_assoc, List.dropWhile_append_of_pos (List.all_eq_true.mp hbefore),
    List.dropWhile_append, stripChars]
  split
  · next hempty =>
    have hnone : after.dropWhile isBlank = [] :=
      List.dropWhile_eq_nil_iff.mpr (List.all_eq_true.mp hafter)
    rw [hnone, List.isEmpty_iff.mp hempty]
  · exact hright _

theorem flatMap_lowerChar_map (cs : List Char) :
    (cs.map Char.toLower).flatMap lowerChar = cs.flatMap lowerChar := by
  rw [List.flatMap_map]
  exact List.flatMap_congr fun c _ => lowerChar_toLower c

end CodeAudit.Text

namespace CodeAudit.Rule

open CodeAudit.Text

-- ---------------------------------------------------------------------------
-- Labels
-- ---------------------------------------------------------------------------

theorem Label.lower_strip (h : Label label written) :
    lower (strip written) = lower (strip label) := by
  obtain ⟨before, core, after, hwritten, hbefore, hafter, hcore⟩ := h
  have hlabel : stripChars label.toList = (stripChars core).map Char.toLower := by
    rw [← hcore, stripChars_map isBlank_toLower]
  rw [lower, strip, String.toList_ofList, hwritten, stripChars_padded hbefore hafter, lower, strip,
    String.toList_ofList, hlabel, flatMap_lowerChar_map]

theorem labels_letters : ∀ label ∈ severities ++ categories,
    label.toList.all isPlainLetter ∧ lower (strip label) = label := by
  decide +kernel

/-- The spellings of a known label are the texts that become it. -/
theorem label_iff (h : label ∈ severities ++ categories) :
    Label label written ↔ lower (strip written) = label := by
  obtain ⟨hletters, hself⟩ := labels_letters label h
  refine ⟨fun hlabel => hlabel.lower_strip.trans hself, fun hlower => ?_⟩
  obtain ⟨before, after, hwritten, hbefore, hafter⟩ := exists_blanks_around written.toList
  have hchars : (stripChars written.toList).flatMap lowerChar = label.toList := by
    simpa [lower, strip] using congrArg String.toList hlower
  refine ⟨before, stripChars written.toList, after, hwritten, hbefore, hafter, ?_⟩
  rw [← hchars, List.map_eq_flatMap]
  refine List.flatMap_congr fun c hc => (lowerChar_of_letters fun d hd => ?_).symm
  exact List.all_eq_true.mp hletters d (hchars ▸ List.mem_flatMap.mpr ⟨c, hc, hd⟩)

end CodeAudit.Rule
