import CodeAudit.Proofs.Meaning

/-!
# What phrases mean if case is ignored

With case ignored, a text stands wherever one stands that differs from it in the case of its letters
(`StandsRecased`), so a text without letters stands as such. Of several texts each one stands like
that, except for those that are lost because the texts are read as a set
(`Phrase.Means.anyRecased`).
-/

namespace CodeAudit.Regex

open CodeAudit.Text (isCasedCode lowerCode lowerCode_lowerCode)

variable {text : Array Char}

-- ---------------------------------------------------------------------------
-- Texts in any case
-- ---------------------------------------------------------------------------

/-- The second text is the first one with its letters in any case. -/
def Recased (s t : String) : Prop :=
  List.Forall₂ (fun c x => Folded c.toNat x.toNat) s.toList t.toList

instance (code n : Nat) : Decidable (Folded code n) := inferInstanceAs (Decidable (_ ∈ _))

instance (s t : String) : Decidable (Recased s t) :=
  inferInstanceAs (Decidable (List.Forall₂ _ _ _))

def StandsRecased (text : Array Char) (s : String) : Stretch := fun i j =>
  ∃ t, Recased s t ∧ Stands text t i j

theorem recased_self (s : String) : Recased s s :=
  List.forall₂_same.mpr fun c _ => folded_self c.toNat

theorem Recased.eq_of_uncased (h : Recased s t) (hs : ∀ c ∈ s.toList, isCasedCode c.toNat = false) :
    t = s := by
  refine String.toList_inj.mp ?_
  unfold Recased at h
  generalize s.toList = cs at h hs
  generalize t.toList = xs at h
  induction h with
  | nil => rfl
  | cons hfolded _ ih =>
    obtain ⟨hc, hs⟩ := List.forall_mem_cons.mp hs
    rw [Char.toNat_inj.mp ((folded_of_uncased hc).mp hfolded), ih hs]

theorem standsRecased_of_uncased (hs : ∀ c ∈ s.toList, isCasedCode c.toNat = false) (i j : Nat) :
    StandsRecased text s i j ↔ Stands text s i j := by
  constructor
  · rintro ⟨t, hrecased, hstands⟩
    exact hrecased.eq_of_uncased hs ▸ hstands
  · exact fun hstands => ⟨s, recased_self s, hstands⟩

/-- A text that is not found among others: they are read as a set, which loses its last letter. -/
def LostAmong (names : List String) (name : String) : Prop :=
  DifferAtEnd names ∧ EndsHigh name

theorem not_lostAmong_singleton (name : String) : ¬ LostAmong [name] name := by
  rintro ⟨⟨_, -, s, hs, s', hs', hne⟩, -⟩
  exact hne ((List.mem_singleton.mp hs).trans (List.mem_singleton.mp hs').symm)

theorem not_caught_of_high (h : IsHighCapital code) : ¬ Caught code n := by
  obtain ⟨hhigh, hne⟩ := h
  unfold Caught
  rw [if_neg (Nat.not_le.mpr hhigh)]
  rintro rfl
  exact hne (lowerCode_lowerCode hhigh)

theorem accepts_ends {names : List String} {members : List ClassItem} {cs : List Char}
    (hends : ∀ s ∈ names, ∃ c, s.toList = cs ++ [c] ∧ .single c.toNat ∈ members)
    (hmembers : ∀ m ∈ members, ∃ s ∈ names, ∃ c, s.toList = cs ++ [c] ∧ m = .single c.toNat)
    (x : Char) : (Charset.ofItems .unicode members false).accepts x = true ↔
      ∃ s ∈ names, ∃ c, s.toList = cs ++ [c] ∧ Caught c.toNat x.toNat := by
  rw [Charset.accepts_ofItems_unicode fun m hm => ?single]
  case single =>
    obtain ⟨-, -, c, -, rfl⟩ := hmembers m hm
    exact ⟨_, rfl⟩
  constructor
  · rintro ⟨code, hmem, hcaught⟩
    obtain ⟨s, hs, c, hc, hcode⟩ := hmembers _ hmem
    exact ⟨s, hs, c, hc, ClassItem.single.inj hcode ▸ hcaught⟩
  · rintro ⟨s, hs, c, hc, hcaught⟩
    obtain ⟨c', hc', hmem⟩ := hends s hs
    obtain rfl : c = c' := by simpa using hc.symm.trans hc'
    exact ⟨c.toNat, hmem, hcaught⟩

-- ---------------------------------------------------------------------------
-- Phrases
-- ---------------------------------------------------------------------------

section Unicode

variable {flags : Flags} (hfold : flags.fold = .unicode)

include hfold

theorem accepts_letter (c x : Char) :
    (Charset.literal flags.fold c.toNat false).accepts x = true ↔ Folded c.toNat x.toNat := by
  rw [hfold, Charset.accepts_literal_unicode]

theorem Node.Means.recasedChars (cs : List Char) :
    Node.Means text (.ofList (cs.map (.letter flags))) (StandsRecased text (String.ofList cs)) := by
  refine (Node.Means.letters_of (accepts_letter hfold) cs).of_iff fun i j => ?_
  constructor
  · rintro ⟨xs, hxs, hprefix, rfl⟩
    refine ⟨String.ofList xs, ?_, ?_, ?_⟩
    · simpa [Recased] using hxs
    · simpa using hprefix
    · simp
  · rintro ⟨t, ht, hprefix, rfl⟩
    exact ⟨t.toList, by simpa [Recased] using ht, hprefix, by rw [String.length_toList]⟩

theorem Node.Means.recased (s : String) :
    Node.Means text (.ofList (s.toList.map (.letter flags))) (StandsRecased text s) := by
  simpa using Node.Means.recasedChars hfold s.toList

theorem standsRecased_snoc (hs : s.toList = cs ++ [c]) (i j : Nat) :
    StandsRecased text s i j ↔ ∃ k, StandsRecased text (String.ofList cs) i k ∧
      ∃ x, text[k]? = some x ∧ Folded c.toNat x.toNat ∧ j = k + 1 := by
  have hstart : Node.Means text _ _ := .recasedChars hfold cs
  have hlast : Node.Means text (.ofList [.letter flags c]) _ := .char _
  have hwhole : Node.Means text _ _ := .recased hfold s
  rw [hs, List.map_append] at hwhole
  simpa [Relation.Comp, accepts_letter hfold] using hwhole.unique (hstart.append hlast) i j

theorem Phrase.Means.recased (s : String) :
    Phrase.Means text (.literal s) (StandsRecased text s) flags := by
  refine .of_steady (Phrase.steady_literal s) ?_
  rw [Phrase.items_literal, sequence_spelled]
  exact .recased hfold s

theorem Phrase.Means.uncased (hs : ∀ c ∈ s.toList, isCasedCode c.toNat = false) :
    Phrase.Means text (.literal s) (Stands text s) flags :=
  (Phrase.Means.recased hfold s).of_iff (standsRecased_of_uncased hs)

theorem Level.Offers.means_recased {names : List String} {level : Level}
    (hcase : flags.ignoreCase = true) (hne : names ≠ [])
    (hoffers : level.Offers Phrase.literal flags names) :
    Node.Means text level.node fun i j =>
      ∃ name ∈ names, ¬ LostAmong names name ∧ StandsRecased text name i j := by
  obtain ⟨hseparate, hnode⟩ | ⟨⟨-, hdiffer, -⟩, cs, members, hends, hmembers, hnode⟩ :=
    hoffers.node_cases Spelling.literal
  · have hkept (name : String) : ¬ LostAmong names name :=
      fun hlost => hseparate ⟨hcase, hlost.1, fun _ _ => trivial⟩
    have hnames : Node.Means text _ _ := .oneOf hne fun name _ => .recased hfold name
    simp only [hnode, Phrase.items_literal, sequence_spelled]
    refine hnames.of_iff fun i j => ?_
    simp only [hkept, not_false_eq_true, true_and]
  · -- All texts but their last characters are the same, and the set stands for the last ones.
    rw [hnode]
    refine ((Node.Means.recasedChars hfold cs).append (.char _)).of_iff fun i j => ?_
    simp only [hfold, accepts_ends hends hmembers]
    constructor
    · rintro ⟨k, hk, x, hx, ⟨name, hmem, c, hc, hcaught⟩, rfl⟩
      refine ⟨name, hmem, ?_, (standsRecased_snoc hfold hc i _).mpr
        ⟨k, hk, x, hx, folded_of_caught hcaught, rfl⟩⟩
      rintro ⟨-, start, c', hc', hhigh⟩
      obtain rfl : c = c' := by simpa using (List.append_inj' (hc.symm.trans hc') rfl).2
      exact not_caught_of_high hhigh hcaught
    · rintro ⟨name, hmem, hkept, hstands⟩
      obtain ⟨c, hc, -⟩ := hends name hmem
      obtain ⟨k, hk, x, hx, hletter, rfl⟩ := (standsRecased_snoc hfold hc i j).mp hstands
      have hcaught : Caught c.toNat x.toNat :=
        caught_of_folded hletter fun hhigh => hkept ⟨hdiffer, cs, c, hc, hhigh⟩
      exact ⟨k, hk, x, hx, ⟨name, hmem, c, hc, hcaught⟩, rfl⟩

theorem Phrase.Means.anyRecased {names : List String} (hcase : flags.ignoreCase = true)
    (hne : names ≠ []) :
    Phrase.Means text (.group .plain (.oneOf (names.map Phrase.literal))) (fun i j =>
      ∃ name ∈ names, ¬ LostAmong names name ∧ StandsRecased text name i j) flags := by
  refine .group fun d hd => ?_
  obtain ⟨hoffers, hwidths⟩ := Spelling.literal.offers hne hd
  exact ⟨hwidths, hoffers.means_recased hfold hcase hne⟩

end Unicode

end CodeAudit.Regex
