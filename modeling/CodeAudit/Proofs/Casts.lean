import CodeAudit.Proofs.Meaning

/-!
# Casts

A description of casts finds the casts to the types that it names, by their whole names
(`typeCast_finds`). If one name is the beginning of another one, the shorter one is refused where
the longer one stands, whatever their order is, and the longer one is tried as well.
-/

namespace CodeAudit.Rule

open CodeAudit.Regex
open CodeAudit.Text (isBlank)

variable {text : Array Char} {types : List String}

/-- The word that starts a cast, at the edge of a word, then at least one blank and one of the names,
which does not go on as a word. -/
def CastAt (text : Array Char) (types : List String) : Stretch := fun i j =>
  AtWordEdge text i ∧ ∃ a b, Stands text "as" i a ∧ a < b ∧ AllBetween text isBlank a b ∧
    ∃ name ∈ types, Stands text name b j ∧ ¬ WordAt text j

theorem CastAt.lt_size (h : CastAt text types i j) : i < text.size := by
  obtain ⟨-, a, b, has, -⟩ := h
  exact has.lt_size (by decide)

open Phrasing (castHead noWord cast)

theorem means_castHead : castHead.Means text fun i j =>
    AtWordEdge text i ∧ ∃ a, Stands text "as" i a ∧ a < j ∧ AllBetween text isBlank a j := by
  refine ((Phrase.Means.wordEdge.append (.literal "as")).append (means_space rfl)).of_iff
    fun i j => ?_
  constructor
  · rintro ⟨a, ⟨_, ⟨-, hedge, rfl⟩, has⟩, hlt, hblanks⟩
    exact ⟨hedge, a, has, hlt, hblanks⟩
  · rintro ⟨hedge, a, has, hlt, hblanks⟩
    have hsize := has.lt_size (by decide)
    exact ⟨a, ⟨i, ⟨by omega, hedge, rfl⟩, has⟩, hlt, hblanks⟩

theorem means_noWord : noWord.Means text fun i j => ¬ WordAt text i ∧ j = i := by
  refine (Phrase.Means.shorthand rfl .word).notAhead.of_iff fun i j => ?_
  simp [WordAt, CharKind.contains]

theorem means_cast (hne : types ≠ []) : (cast types).Means text (CastAt text types) := by
  refine ((means_castHead.append (.anyOf hne)).append means_noWord).of_iff fun i j => ?_
  constructor
  · rintro ⟨_, ⟨b, ⟨hedge, a, has, hlt, hblanks⟩, name, hmem, hname⟩, hend, rfl⟩
    exact ⟨hedge, a, b, has, hlt, hblanks, name, hmem, hname, hend⟩
  · rintro ⟨hedge, a, b, has, hlt, hblanks, name, hmem, hname, hend⟩
    exact ⟨j, ⟨b, ⟨hedge, a, has, hlt, hblanks⟩, name, hmem, hname⟩, hend, rfl⟩

/-- The matcher of a description of casts finds something exactly if there is a cast to one of the
types, and nothing else. -/
theorem typeCast_finds (hne : types ≠ []) :
    ∃ matcher, (Spec.typeCast types).matchers = .ok [matcher] ∧
      ∀ text, Finds matcher text (CastAt text types) := by
  obtain ⟨matcher, hmatcher, hfinds⟩ := exists_matcher_of_means (Phrasing.written_cast types)
    (fun _ => means_cast hne) fun text i j h => Nat.le_of_lt h.lt_size
  refine ⟨matcher, ?_, hfinds⟩
  have hsome : types.isEmpty = false := by simpa using hne
  simp only [Spec.matchers, Spec.recipes, ok_bind, hsome]
  exact mapM_eq_ok.mpr (.cons hmatcher .nil)

/-- The second name is found although the first one, with which it begins, is tried before and does
not end there. -/
theorem typeCast_finds_longer : ["any", "anything"] ≠ [] ∧
    ∃ matcher, (Spec.typeCast ["any", "anything"]).matchers = .ok [matcher] ∧
      matcher.findAll "x as anything".toList.toArray ≠ [] := by
  have hne : ["any", "anything"] ≠ [] := by decide
  obtain ⟨matcher, hmatchers, hfinds⟩ := typeCast_finds hne
  refine ⟨hne, matcher, hmatchers, (hfinds _).some_iff.mpr ⟨2, 13, ?_, 4, 5, ?_⟩⟩
  · exact atWordEdge_iff.mp (by decide)
  · refine ⟨⟨by decide, rfl⟩, by decide, ⟨by decide, fun k hle hlt => ?_⟩, "anything", by decide,
      ⟨by decide, rfl⟩, fun hword => absurd (wordAt_iff.mpr hword) (by decide)⟩
    obtain rfl : k = 4 := by omega
    exact ⟨' ', by decide, by decide⟩

end CodeAudit.Rule
