import CodeAudit.Proofs.Beginnings
import CodeAudit.Proofs.LineLookup
import CodeAudit.Scan.Finding
import Mathlib.Data.List.Forall2
import Mathlib.Data.List.Pairwise

/-!
# The findings of one rule

Matches are found from left to right and do not reach into each other (`leftToRight_findAll`), so
the findings of a rule stand in blocks, one for each matcher, with ascending lines within a block.
Each finding tells the line of its match and is otherwise a copy of the rule (`scanRule_blocks`).
-/

namespace CodeAudit.Regex

-- ---------------------------------------------------------------------------
-- Matches from left to right
-- ---------------------------------------------------------------------------

structure LeftToRight (i : Nat) (found : List Match) : Prop where
  ordered : ∀ m ∈ found, i ≤ m.start ∧ m.start ≤ m.stop
  apart : found.Pairwise fun a b => a.stop ≤ b.start

theorem LeftToRight.nil (i : Nat) : LeftToRight i [] where
  ordered _ hm := absurd hm List.not_mem_nil
  apart := .nil

theorem LeftToRight.cons (hfrom : i ≤ m.start) (hto : m.start ≤ m.stop)
    (h : LeftToRight m.stop found) : LeftToRight i (m :: found) where
  ordered m' hm' := by
    rcases List.mem_cons.mp hm' with rfl | hm'
    · exact ⟨hfrom, hto⟩
    · obtain ⟨hstart, hstop⟩ := h.ordered m' hm'
      exact ⟨by omega, hstop⟩
  apart := List.pairwise_cons.mpr ⟨fun m' hm' => (h.ordered m' hm').1, h.apart⟩

theorem LeftToRight.pairwise_start (h : LeftToRight i found) :
    found.Pairwise fun a b => a.start ≤ b.start :=
  h.apart.imp_of_mem fun ha _ hab => Nat.le_trans (h.ordered _ ha).2 hab

theorem LeftToRight.disjoint (h : LeftToRight i found) (ha : a ∈ found) (hb : b ∈ found)
    (hne : a ≠ b) : a.stop ≤ b.start ∨ b.stop ≤ a.start := by
  have : Std.Symm fun a b : Match => a.stop ≤ b.start ∨ b.stop ≤ a.start := ⟨fun _ _ => Or.symm⟩
  have hapart : found.Pairwise fun a b => a.stop ≤ b.start ∨ b.stop ≤ a.start := h.apart.imp .inl
  exact hapart.forall ha hb hne

namespace Pattern

variable {p : Pattern} {text : Array Char}

theorem le_of_outcomesAt (h : o ∈ p.outcomesAt text i) : i ≤ o.1 :=
  (begins_of_mem p.root h).ge

/-- After each match the search goes on where the match ends. -/
theorem leftToRight_findFrom (fuel i : Nat) (nonEmpty : Bool) :
    LeftToRight i (p.findFrom text fuel i nonEmpty) := by
  induction fuel generalizing i nonEmpty with
  | zero => exact .nil i
  | succ fuel ih =>
    simp only [findFrom]
    split
    · exact .nil i
    · cases hfirst : p.searchFrom text nonEmpty (text.size - i) i with
      | none => exact .nil i
      | some m =>
        obtain ⟨hfrom, -, hmem⟩ := searchFrom_mem hfirst
        exact .cons hfrom (le_of_outcomesAt hmem) (ih m.stop _)

end Pattern

end CodeAudit.Regex

namespace CodeAudit.Rule

open CodeAudit.Regex

theorem Matcher.leftToRight_findAll (matcher : Matcher) (text : Array Char) :
    LeftToRight 0 (matcher.findAll text) := by
  unfold findAll
  split
  · exact Pattern.leftToRight_findFrom _ 0 false
  · cases hfirst : matcher.search text with
    | none => exact .nil 0
    | some m =>
      obtain ⟨-, hmem⟩ := Pattern.search_mem hfirst
      exact .cons (Nat.zero_le _) (Pattern.le_of_outcomesAt hmem) (.nil _)

end CodeAudit.Rule

namespace CodeAudit.Scan

open CodeAudit.Regex (Match)
open CodeAudit.Rule (Compiled Matcher)
open CodeAudit.Source

-- ---------------------------------------------------------------------------
-- Blocks of findings
-- ---------------------------------------------------------------------------

/-- What a finding tells of a match of a rule in a code: the line on which the match starts, that
line without the blanks around it, and what the rule says of itself. Only the commands to verify the
finding are the finding's own. -/
structure Reports (rule : Compiled) (code : String) (m : Match) (f : Finding) : Prop where
  line : f.line = 1 + (code.toList.take m.start).count '\n'
  first : 1 ≤ f.line
  last : f.line ≤ (splitLines code.toList).length
  code : ∃ piece, (splitLines code.toList)[f.line.toNat - 1]? = some piece ∧
    f.code = Text.strip (String.ofList piece)
  rest : ∃ commands : List String, f =
    { ruleId := rule.id, category := rule.category, severity := rule.severity, title := rule.title
      description := rule.description, line := f.line, code := f.code
      suggestion := rule.suggestion
      verification := rule.verification.map ({ · with commands }) }

theorem findingAt_eq (rule : Compiled) (code filename : String) (m : Match) :
    findingAt rule (Buffer.ofString code) filename m =
      { ruleId := rule.id, category := rule.category, severity := rule.severity
        title := rule.title, description := rule.description
        line := (code.toList.take m.start).count '\n' + 1
        code := Text.strip (String.ofList (pieceAt code.toList m.start))
        suggestion := rule.suggestion
        verification := rule.verification.map
          (fillVerification (m.text (Buffer.ofString code).text) filename) } := by
  rw [findingAt, LineIndex.snippetAt, Buffer.ofString, LineIndex.lineText_lineOf,
    LineIndex.lineOf_eq]
  rfl

theorem line_bounds {text : List Char} {line : Int} (h : line = 1 + (text.take i).count '\n') :
    1 ≤ line ∧ line ≤ (splitLines text).length ∧
      (splitLines text)[line.toNat - 1]? = some (pieceAt text i) := by
  have hle := count_take_le text i
  have hindex : line.toNat - 1 = (text.take i).count '\n' := by omega
  rw [hindex, splitLines_pieceAt, length_splitLines]
  exact ⟨by omega, by omega, rfl⟩

theorem findingAt_reports (rule : Compiled) (code filename : String) (m : Match) :
    Reports rule code m (findingAt rule (Buffer.ofString code) filename m) := by
  have hline : ((code.toList.take m.start).count '\n' + 1 : Int) =
      1 + (code.toList.take m.start).count '\n' := Int.add_comm _ _
  obtain ⟨hfirst, hlast, hpiece⟩ := line_bounds hline
  rw [findingAt_eq]
  refine ⟨hline, hfirst, hlast, ⟨_, hpiece, rfl⟩, ?_⟩
  cases rule.verification with
  | none => exact ⟨[], rfl⟩
  | some v => exact ⟨(fillVerification _ filename v).commands, rfl⟩

/-- The findings of a rule are blocks, one for each matcher. A block has one finding for each match
of its matcher, in the order of the matches, on lines that never decrease. -/
theorem scanRule_blocks (rule : Compiled) (code filename : String) :
    ∃ blocks, scanRule rule (Buffer.ofString code) filename = blocks.flatten ∧
      List.Forall₂ (fun matcher block =>
        List.Forall₂ (Reports rule code) (matcher.findAll (Buffer.ofString code).text) block ∧
          (block.map (·.line)).Pairwise (· ≤ ·)) rule.matchers blocks := by
  let buffer := Buffer.ofString code
  let block (matcher : Matcher) : List Finding :=
    (matcher.findAll buffer.text).map (findingAt rule buffer filename)
  refine ⟨rule.matchers.map block, List.flatMap_def, ?_⟩
  refine List.forall₂_map_right_iff.mpr (List.forall₂_same.mpr fun matcher _ => ⟨?_, ?_⟩)
  · exact List.forall₂_map_right_iff.mpr
      (List.forall₂_same.mpr fun m _ => findingAt_reports rule code filename m)
  · have hstart := (matcher.leftToRight_findAll buffer.text).pairwise_start
    refine List.pairwise_map.mpr (List.pairwise_map.mpr (hstart.imp fun {a b} hab => ?_))
    have hle := count_take_mono code.toList hab
    rw [(findingAt_reports rule code filename a).line,
      (findingAt_reports rule code filename b).line]
    omega

end CodeAudit.Scan
