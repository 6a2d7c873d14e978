import CodeAudit.Proofs.Meaning

/-!
# Calls

A description of function calls finds the calls of the functions that it names and nothing else
(`functionCall_finds`), whatever the names are: one may be the beginning of another one, may be
empty, or may have characters in it that mean something in patterns.
-/

namespace CodeAudit.Rule

open CodeAudit.Regex
open CodeAudit.Text (isBlank)

variable {text : Array Char} {names : List String}

-- ---------------------------------------------------------------------------
-- Occurrences of calls
-- ---------------------------------------------------------------------------

/-- One of the names and, after any number of blanks, a parenthesis. -/
def CallAt (text : Array Char) (names : List String) : Stretch := fun i j =>
  ∃ name ∈ names, ∃ a b, Stands text name i a ∧ AllBetween text isBlank a b ∧ Stands text "(" b j

/-- A call at the edge of a word. -/
def BareCallAt (text : Array Char) (names : List String) : Stretch := fun i j =>
  AtWordEdge text i ∧ CallAt text names i j

/-- A call directly after a dot. -/
def MethodCallAt (text : Array Char) (names : List String) : Stretch := fun i j =>
  ∃ a, Stands text "." i a ∧ CallAt text names a j

def NewCallAt (text : Array Char) (names : List String) : Stretch := fun i j =>
  ∃ a b, Stands text "new" i a ∧ a < b ∧ AllBetween text isBlank a b ∧ CallAt text names b j

theorem CallAt.lt_size (h : CallAt text names i j) : i < text.size := by
  obtain ⟨name, -, a, b, hname, hblanks, hopen⟩ := h
  exact Nat.lt_of_le_of_lt (Nat.le_trans hname.le hblanks.1) (hopen.lt_size (by decide))

-- ---------------------------------------------------------------------------
-- What the phrases of calls mean
-- ---------------------------------------------------------------------------

open Phrasing (bareCall methodCall newCall call)

theorem means_call (hnames : names ≠ []) : (call names).Means text (CallAt text names) := by
  refine (((Phrase.Means.anyOf hnames).append (means_blanks rfl)).append (.literal "(")).of_iff
    fun i j => ?_
  constructor
  · rintro ⟨b, ⟨a, ⟨name, hmem, hname⟩, hblanks⟩, hopen⟩
    exact ⟨name, hmem, a, b, hname, hblanks, hopen⟩
  · rintro ⟨name, hmem, a, b, hname, hblanks, hopen⟩
    exact ⟨b, ⟨a, ⟨name, hmem, hname⟩, hblanks⟩, hopen⟩

theorem means_bareCall (hnames : names ≠ []) :
    (bareCall names).Means text (BareCallAt text names) := by
  refine (Phrase.Means.wordEdge.append (means_call hnames)).of_iff fun i j => ?_
  constructor
  · rintro ⟨_, ⟨-, hedge, rfl⟩, hcall⟩
    exact ⟨hedge, hcall⟩
  · rintro ⟨hedge, hcall⟩
    have hsize := hcall.lt_size
    exact ⟨i, ⟨by omega, hedge, rfl⟩, hcall⟩

theorem means_methodCall (hnames : names ≠ []) :
    (methodCall names).Means text (MethodCallAt text names) :=
  (Phrase.Means.literal ".").append (means_call hnames)

theorem means_newCall (hnames : names ≠ []) :
    (newCall names).Means text (NewCallAt text names) := by
  refine (((Phrase.Means.literal "new").append (means_space rfl)).append (means_call hnames)).of_iff
    fun i j => ?_
  constructor
  · rintro ⟨b, ⟨a, hnew, hlt, hblanks⟩, hcall⟩
    exact ⟨a, b, hnew, hlt, hblanks, hcall⟩
  · rintro ⟨a, b, hnew, hlt, hblanks, hcall⟩
    exact ⟨b, ⟨a, hnew, hlt, hblanks⟩, hcall⟩

-- ---------------------------------------------------------------------------
-- The matchers of a description
-- ---------------------------------------------------------------------------

/-- Each form of call has a matcher of its own, and it finds the calls of this form: something
exactly if there is one, and nothing else. -/
theorem functionCall_finds (hnames : names ≠ []) (methodForm constructorForm : Bool) :
    ∃ direct method constructor : Matcher,
      (Spec.functionCall names methodForm constructorForm false).matchers =
        .ok (direct :: (if methodForm then [method] else []) ++
          if constructorForm then [constructor] else []) ∧
      ∀ text, Finds direct text (BareCallAt text names) ∧
        Finds method text (MethodCallAt text names) ∧
        Finds constructor text (NewCallAt text names) := by
  obtain ⟨direct, hdirect, hbare⟩ := exists_matcher_of_means
    (Phrasing.written_bareCall names) (fun _ => means_bareCall hnames)
    fun text i j h => Nat.le_of_lt h.2.lt_size
  obtain ⟨method, hmethod, hdotted⟩ := exists_matcher_of_means
    (Phrasing.written_methodCall names) (fun _ => means_methodCall hnames)
    fun text i j ⟨_, hdot, _⟩ => Nat.le_of_lt (hdot.lt_size (by decide))
  obtain ⟨constructor, hconstructor, hnew⟩ := exists_matcher_of_means
    (Phrasing.written_newCall names) (fun _ => means_newCall hnames)
    fun text i j ⟨_, _, hnew, _⟩ => Nat.le_of_lt (hnew.lt_size (by decide))
  refine ⟨direct, method, constructor, ?_, fun text => ⟨hbare text, hdotted text, hnew text⟩⟩
  have hsome : names.isEmpty = false := by simpa using hnames
  simp only [Spec.matchers, Spec.recipes, ok_bind, functionCallRecipes, hsome]
  refine mapM_eq_ok.mpr (.cons hdirect ?_)
  cases methodForm <;> cases constructorForm
  · exact .nil
  · exact .cons hconstructor .nil
  · exact .cons hmethod .nil
  · exact .cons hmethod (.cons hconstructor .nil)

/-- The second name is found although the first one, with which it begins, is tried before. -/
theorem functionCall_finds_longer : ["ev", "eval"] ≠ [] ∧
    ∃ direct, (Spec.functionCall ["ev", "eval"] false false false).matchers = .ok [direct] ∧
      direct.findAll "x.eval (1)".toList.toArray ≠ [] := by
  have hnames : ["ev", "eval"] ≠ [] := by decide
  obtain ⟨direct, _, _, hmatchers, hfinds⟩ := functionCall_finds hnames false false
  refine ⟨hnames, direct, hmatchers, (hfinds _).1.some_iff.mpr ⟨2, 8, ?_, "eval", ?_⟩⟩
  · exact atWordEdge_iff.mp (by decide)
  · refine ⟨by decide, 6, 7, ⟨by decide, rfl⟩, ⟨by decide, fun k hle hlt => ?_⟩, by decide, rfl⟩
    obtain rfl : k = 6 := by omega
    exact ⟨' ', by decide, by decide⟩

end CodeAudit.Rule
