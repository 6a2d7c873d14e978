import CodeAudit.Proofs.Lines
import CodeAudit.Regex.Bracket

/-!
# Ignoring case

With case ignored, a code point that stands alone and one that stands in a set are compared in
different ways. Alone it accepts whatever has the same lower-case form, up to companions
(`accepts_literal_unicode`). In a set this is so only in the basic plane: above it, a code point is
compared as written with the lower-case form of the character (`accepts_ofItems_unicode`). So a set
loses the capital letters among its members there, and nothing else (`caught_of_folded`).
-/

namespace CodeAudit.Text

-- ---------------------------------------------------------------------------
-- Ranges of code points
-- ---------------------------------------------------------------------------

def rangesBetween : List Nat → List (Nat × Nat)
  | first :: after :: rest => (first, after) :: rangesBetween rest
  | _ => []

theorem fst_mem_of_mem_rangesBetween (h : range ∈ rangesBetween bounds) : range.1 ∈ bounds := by
  fun_induction rangesBetween bounds with
  | case1 first after rest ih =>
    rcases List.mem_cons.mp h with rfl | hmem
    · exact List.mem_cons_self
    · exact List.mem_cons_of_mem _ (List.mem_cons_of_mem _ (ih hmem))
  | case2 => cases h

theorem countP_rangesBetween {bounds : List Nat} (hsorted : bounds.Pairwise (· ≤ ·))
    (h : range ∈ rangesBetween bounds) (hfirst : range.1 ≤ code) (hafter : code < range.2) :
    bounds.countP (· ≤ code) % 2 = 1 := by
  fun_induction rangesBetween bounds with
  | case1 first after rest ih =>
    obtain ⟨hbefore, hsorted⟩ := List.pairwise_cons.mp hsorted
    obtain ⟨hbehind, hsorted⟩ := List.pairwise_cons.mp hsorted
    rcases List.mem_cons.mp h with rfl | hmem
    · -- All further bounds lie behind the code point.
      have hnone : rest.countP (· ≤ code) = 0 := by
        refine List.countP_eq_zero.mpr fun bound hbound => ?_
        have hle := hbehind bound hbound
        simpa using Nat.lt_of_lt_of_le hafter hle
      simp [hfirst, hnone, Nat.not_le.mpr hafter]
    · have hle : after ≤ code :=
        Nat.le_trans (hbehind _ (fst_mem_of_mem_rangesBetween hmem)) hfirst
      have hfirst : first ≤ code := Nat.le_trans (hbefore after List.mem_cons_self) hle
      have hodd := ih hsorted hmem
      simp [hle, hfirst, hodd, Nat.add_assoc]
  | case2 => cases h

/-- Whether one of the ranges of a set holds everything from `lo` to `hi`. -/
def CodeSet.spans (s : CodeSet) (lo hi : Nat) : Bool :=
  (rangesBetween s.bounds.toList).any fun range => range.1.ble lo && hi.blt range.2

theorem CodeSet.contains_of_spans {s : CodeSet} (hsorted : s.bounds.toList.Pairwise (· ≤ ·))
    (h : s.spans lo hi = true) (hlo : lo ≤ code) (hhi : code ≤ hi) : s.contains code = true := by
  obtain ⟨range, hmem, hrange⟩ := List.any_eq_true.mp h
  obtain ⟨hfirst, hafter⟩ : range.1 ≤ lo ∧ hi < range.2 := by simpa using hrange
  have hodd : s.bounds.toList.countP (· ≤ code) % 2 = 1 :=
    countP_rangesBetween hsorted hmem (Nat.le_trans hfirst hlo) (Nat.lt_of_le_of_lt hhi hafter)
  have hcount := bisectRight_toArray hsorted code
  rw [Array.toArray_toList] at hcount
  rw [contains, hcount, hodd]
  rfl

-- ---------------------------------------------------------------------------
-- Lower-case forms
-- ---------------------------------------------------------------------------

def CaseRun.codes (run : CaseRun) : List Nat :=
  (List.range ((run.2.1 - run.1) / run.2.2.1 + 1)).map (run.1 + run.2.2.1 * ·)

def CaseRun.shifted (run : CaseRun) (code : Nat) : Nat :=
  (Int.ofNat code + run.2.2.2).toNat

theorem CaseRun.shifted_mono (run : CaseRun) (h : m ≤ n) : run.shifted m ≤ run.shifted n := by
  simp only [CaseRun.shifted, Int.ofNat_eq_natCast]
  omega

theorem CaseRun.mem_codes {run : CaseRun} (hfirst : run.1 ≤ code) (hlast : code ≤ run.2.1)
    (hstep : (code - run.1) % run.2.2.1 = 0) : code ∈ run.codes := by
  obtain ⟨k, hk⟩ := Nat.dvd_of_mod_eq_zero hstep
  refine List.mem_map.mpr ⟨(code - run.1) / run.2.2.1, ?_, ?_⟩
  · rw [List.mem_range, Nat.lt_succ_iff]
    exact Nat.div_le_div_right (by omega)
  · rw [Nat.mul_div_cancel' (Nat.dvd_of_mod_eq_zero hstep)]
    omega

theorem applyRuns_cases {runs : Array CaseRun} (hsize : hi ≤ runs.size) :
    applyRuns runs code rounds lo hi = code ∨ ∃ run ∈ runs.toList, run.1 ≤ code ∧ code ≤ run.2.1 ∧
      code ∈ run.codes ∧ applyRuns runs code rounds lo hi = run.shifted code := by
  induction rounds generalizing lo hi with
  | zero => exact .inl rfl
  | succ rounds ih =>
    simp only [applyRuns]
    split
    · next hlt =>
      have hmid : (lo + hi) / 2 < runs.size := by omega
      have hrun : runs.getD ((lo + hi) / 2) (0, 0, 1, 0) ∈ runs.toList := by
        simp [Array.getD, hmid]
      generalize runs.getD ((lo + hi) / 2) (0, 0, 1, 0) = run at hrun
      split
      · exact ih (by omega)
      · next hfirst =>
        split
        · exact ih hsize
        · next hlast =>
          split
          · next hstep =>
            have hfirst := Nat.not_lt.mp hfirst
            have hlast := Nat.not_lt.mp hlast
            exact .inr ⟨run, hrun, hfirst, hlast,
              CaseRun.mem_codes hfirst hlast (by simpa using hstep), rfl⟩
          · exact .inl rfl
    · exact .inl rfl

theorem lowerCode_cases (code : Nat) : lowerCode code = code ∨ ∃ run ∈ lowerRuns.toList,
    run.1 ≤ code ∧ code ≤ run.2.1 ∧ code ∈ run.codes ∧ lowerCode code = run.shifted code := by
  unfold lowerCode
  split
  · split
    · next hletter =>
      have hletter : 65 ≤ code ∧ code ≤ 90 := by simpa using hletter
      have hrun : (65, 90, 1, 32) ∈ lowerRuns.toList := by decide
      refine .inr ⟨(65, 90, 1, 32), hrun, hletter.1, hletter.2, ?_, rfl⟩
      exact CaseRun.mem_codes hletter.1 hletter.2 (Nat.mod_one _)
    · exact .inl rfl
  · exact applyRuns_cases (Nat.le_refl _)

/-- Whether the code points of a run and their images are cased. Most runs lie in one range. -/
def CaseRun.isCased (run : CaseRun) : Bool :=
  casedSet.spans run.1 run.2.1 && casedSet.spans (run.shifted run.1) (run.shifted run.2.1) ||
    run.codes.all fun code => casedSet.spans code code &&
      casedSet.spans (run.shifted code) (run.shifted code)

/-- No run leads to where this one starts, or both are in the basic plane. -/
def CaseRun.isApart (run : CaseRun) : Bool :=
  run.2.1 ≤ 0xFFFF && run.shifted run.2.1 ≤ 0xFFFF || lowerRuns.toList.all fun other =>
    other.shifted other.2.1 < run.1 || run.2.1 < other.shifted other.1

theorem caseTables_agree : casedSet.bounds.toList.IsChain (· ≤ ·) ∧
    (∀ code < 128, isCasedCode code = casedSet.contains code) ∧
    lowerRuns.toList.all CaseRun.isCased = true ∧ lowerRuns.toList.all CaseRun.isApart = true ∧
    ∀ entry ∈ caseCompanions, isCasedCode entry.1 = true ∧ entry.1 ≤ 0xFFFF ∧
      ∀ n ∈ entry.2, isCasedCode n = true := by
  refine ⟨?sorted, ?ascii, ?cased, ?apart, ?companions⟩
  all_goals decide +kernel

theorem casedSet_sorted : casedSet.bounds.toList.Pairwise (· ≤ ·) :=
  List.isChain_iff_pairwise.mp caseTables_agree.1

theorem isCasedCode_eq (code : Nat) : isCasedCode code = casedSet.contains code := by
  obtain ⟨-, hascii, -⟩ := caseTables_agree
  by_cases h : code < 128
  · exact hascii code h
  · simp [isCasedCode, h]

theorem CaseRun.isCased_of_mem {run : CaseRun} (h : run ∈ lowerRuns.toList) (hfirst : run.1 ≤ code)
    (hlast : code ≤ run.2.1) (hcode : code ∈ run.codes) :
    isCasedCode code = true ∧ isCasedCode (run.shifted code) = true := by
  obtain ⟨-, -, hruns, -⟩ := caseTables_agree
  have hrun : run.isCased = true := List.all_eq_true.mp hruns run h
  simp only [CaseRun.isCased, Bool.or_eq_true, Bool.and_eq_true, List.all_eq_true] at hrun
  rw [isCasedCode_eq, isCasedCode_eq]
  rcases hrun with ⟨hdomain, himage⟩ | hall
  · exact ⟨CodeSet.contains_of_spans casedSet_sorted hdomain hfirst hlast,
      CodeSet.contains_of_spans casedSet_sorted himage (run.shifted_mono hfirst)
        (run.shifted_mono hlast)⟩
  · obtain ⟨hdomain, himage⟩ := hall code hcode
    exact ⟨CodeSet.contains_of_spans casedSet_sorted hdomain (Nat.le_refl _) (Nat.le_refl _),
      CodeSet.contains_of_spans casedSet_sorted himage (Nat.le_refl _) (Nat.le_refl _)⟩

theorem lowerCode_eq_iff (h : isCasedCode code = false) : lowerCode n = code ↔ n = code := by
  constructor
  · rintro rfl
    rcases lowerCode_cases n with heq | ⟨run, hrun, hfirst, hlast, hcode, heq⟩
    · exact heq.symm
    · rw [heq, (CaseRun.isCased_of_mem hrun hfirst hlast hcode).2] at h
      cases h
  · rintro rfl
    rcases lowerCode_cases n with heq | ⟨run, hrun, hfirst, hlast, hcode, -⟩
    · exact heq
    · rw [(CaseRun.isCased_of_mem hrun hfirst hlast hcode).1] at h
      cases h

theorem lowerCode_lowerCode (h : 0xFFFF < lowerCode (lowerCode n)) :
    lowerCode (lowerCode n) = lowerCode n := by
  rcases lowerCode_cases (lowerCode n) with heq | ⟨run, hrun, hfirst, hlast, -, heq⟩
  · exact heq
  · rcases lowerCode_cases n with hn | ⟨other, hother, hofirst, holast, -, hn⟩
    · rw [hn]
      exact hn
    · have hshift := run.shifted_mono hlast
      have hfrom := other.shifted_mono hofirst
      have hto := other.shifted_mono holast
      obtain ⟨-, -, -, hruns, -⟩ := caseTables_agree
      have hrun : run.isApart = true := List.all_eq_true.mp hruns run hrun
      simp only [CaseRun.isApart, Bool.or_eq_true, Bool.and_eq_true, List.all_eq_true,
        decide_eq_true_iff] at hrun
      rcases hrun with ⟨-, hlow⟩ | hapart
      · omega
      · rcases hapart other hother with hbefore | hbehind <;> omega

theorem companions_eq_nil (h : isCasedCode code = false ∨ 0xFFFF < code) :
    companions code = [] := by
  unfold companions
  cases hfind : caseCompanions.find? (·.1 == code) with
  | none => rfl
  | some entry =>
    obtain ⟨-, -, -, -, hentries⟩ := caseTables_agree
    obtain ⟨hcased, hle, -⟩ := hentries entry (List.mem_of_find?_eq_some hfind)
    obtain rfl : entry.1 = code := by simpa using List.find?_some hfind
    rcases h with h | h
    · rw [h] at hcased
      cases hcased
    · omega

theorem companions_cased (h : n ∈ companions code) : isCasedCode n = true := by
  unfold companions at h
  cases hfind : caseCompanions.find? (·.1 == code) with
  | none => simp [hfind] at h
  | some entry =>
    rw [hfind] at h
    obtain ⟨-, -, -, -, hentries⟩ := caseTables_agree
    obtain ⟨-, -, hall⟩ := hentries entry (List.mem_of_find?_eq_some hfind)
    exact hall n h

end CodeAudit.Text

namespace CodeAudit.Regex

open CodeAudit.Text

-- ---------------------------------------------------------------------------
-- Single code points and sets
-- ---------------------------------------------------------------------------

/-- A code point has the same lower-case form as another one, or a companion of it. -/
def Folded (code n : Nat) : Prop :=
  lowerCode n ∈ lowerCode code :: companions (lowerCode code)

def Caught (code n : Nat) : Prop :=
  if lowerCode code ≤ Charset.basicPlaneEnd then Folded code n else lowerCode n = code

def IsHighCapital (code : Nat) : Prop :=
  Charset.basicPlaneEnd < lowerCode code ∧ lowerCode code ≠ code

theorem folded_of_uncased (h : isCasedCode code = false) : Folded code n ↔ n = code := by
  have hcode : lowerCode code = code := (lowerCode_eq_iff h).mpr rfl
  rw [Folded, hcode, companions_eq_nil (.inl h), List.mem_singleton, lowerCode_eq_iff h]

theorem folded_uncased (h : isCasedCode n = false) : Folded code n ↔ n = code := by
  refine ⟨fun hfolded => ?_, fun heq => heq ▸ List.mem_cons_self⟩
  rw [Folded, (lowerCode_eq_iff h).mpr rfl] at hfolded
  rcases List.mem_cons.mp hfolded with heq | hmem
  · exact ((lowerCode_eq_iff h).mp heq.symm).symm
  · exact absurd (companions_cased hmem) (by simp [h])

theorem folded_self (code : Nat) : Folded code code := List.mem_cons_self

theorem folded_of_caught (h : Caught code n) : Folded code n := by
  unfold Caught at h
  split at h
  · exact h
  · next hhigh =>
    subst h
    have hidem : lowerCode (lowerCode n) = lowerCode n :=
      lowerCode_lowerCode (Nat.not_le.mp hhigh)
    rw [Folded, hidem]
    exact List.mem_cons_self

theorem caught_of_folded (h : Folded code n) (hcode : ¬ IsHighCapital code) : Caught code n := by
  unfold Caught
  split
  · exact h
  · next hhigh =>
    have hhigh := Nat.not_le.mp hhigh
    have hcode : lowerCode code = code := by
      by_contra hne
      exact hcode ⟨hhigh, hne⟩
    rw [Folded, companions_eq_nil (.inr hhigh), List.mem_singleton] at h
    exact h.trans hcode

namespace Charset

variable {c : Char}

theorem accepts_literal_exact : (literal .exact code false).accepts c = true ↔ c.toNat = code := by
  simp [literal, accepts, Fold.apply, ClassItem.contains]

theorem accepts_literal_unicode :
    (literal .unicode code false).accepts c = true ↔ Folded code c.toNat := by
  unfold literal
  cases hcased : isCasedCode code with
  | true => simp [accepts, Fold.apply, ClassItem.contains, Folded]
  | false => simp [accepts, Fold.apply, ClassItem.contains, folded_of_uncased hcased]

theorem foldItem_single : foldItem .unicode (.single code) =
    if lowerCode code ≤ basicPlaneEnd then
      ((lowerCode code :: companions (lowerCode code)).map .single, isCasedCode code)
    else ([.single code], true) :=
  rfl

theorem contains_foldItem {fold : Fold} (hfold : fold = .unicode ∨ fold = .exact ∧
    (foldItem .unicode (.single code)).2 = false) :
    (foldItem .unicode (.single code)).1.any (·.contains (fold.apply n)) = true ↔
      Caught code n := by
  rw [foldItem_single] at hfold ⊢
  unfold Caught
  split
  · next hlow =>
    simp only [hlow, if_true] at hfold
    rcases hfold with rfl | ⟨rfl, hcased⟩
    · simp [Fold.apply, ClassItem.contains, Folded]
    · have hcode : lowerCode code = code := (lowerCode_eq_iff hcased).mpr rfl
      rw [folded_of_uncased hcased, hcode, companions_eq_nil (.inl hcased)]
      simp [Fold.apply, ClassItem.contains]
  · next hhigh =>
    simp only [hhigh, if_false] at hfold
    rcases hfold with rfl | ⟨-, hcased⟩
    · simp [Fold.apply, ClassItem.contains]
    · cases hcased

theorem accepts_ofItems_unicode {members : List ClassItem}
    (hsingle : ∀ m ∈ members, ∃ code, m = .single code) :
    (ofItems .unicode members false).accepts c = true ↔
      ∃ code, .single code ∈ members ∧ Caught code c.toNat := by
  have hmember : ∀ code, .single code ∈ members → ((foldItem .unicode (.single code)).1.any
      (·.contains ((ofItems .unicode members false).fold.apply c.toNat)) = true ↔
        Caught code c.toNat) := by
    intro code hcode
    refine contains_foldItem ?_
    simp only [ofItems]
    split
    · exact .inl rfl
    · next hnone =>
      refine .inr ⟨rfl, ?_⟩
      simp only [List.any_map, List.any_eq_true, not_exists, not_and, Function.comp_apply,
        Bool.not_eq_true] at hnone
      exact hnone (.single code) hcode
  have haccepts : (ofItems .unicode members false).accepts c = true ↔ ∃ m ∈ members,
      (foldItem .unicode m).1.any
        (·.contains ((ofItems .unicode members false).fold.apply c.toNat)) = true := by
    simp [accepts, ofItems]
  rw [haccepts]
  constructor
  · rintro ⟨m, hm, hany⟩
    obtain ⟨code, rfl⟩ := hsingle m hm
    exact ⟨code, hm, (hmember code hm).mp hany⟩
  · rintro ⟨code, hm, hcaught⟩
    exact ⟨.single code, hm, (hmember code hm).mpr hcaught⟩

end Charset

end CodeAudit.Regex
