import CodeAudit.Proofs.Builtin
import CodeAudit.Proofs.Findings
import CodeAudit.Proofs.LineLookup

/-!
# Where findings are reported

A finding is reported at the line on which its match starts. That is the line of the code it is
about, unless the match starts with a newline. Among the built-in rules only the two that take in a
character of context have such matches (`findingAt_begins`).
-/

namespace CodeAudit.Rule

open CodeAudit.Regex
open CodeAudit.Scan (findingAt scanRule)
open CodeAudit.Source (Buffer LineIndex count_take_succ pieceAt)
open CodeAudit.Text (strip)

theorem firstSolid_builtin (hd : d ∈ builtinDefinitions) (hrule : d.compile = .ok rule)
    (hmatcher : matcher ∈ rule.matchers) (hm : m ∈ matcher.findAll text) :
    FirstSolid text m m.start ∨
      d.id ∈ contextRules ∧ ¬ SolidAt text m.start ∧ FirstSolid text m (m.start + 1) := by
  have hstarts := builtin_starts d hd
  rw [Definition.starts, toOption_eq_some.mpr hrule, Option.any_some, List.all_eq_true] at hstarts
  have hroot := hstarts matcher hmatcher
  split at hroot
  · next hcontext =>
    rcases firstSolid_of_startsLate hroot hm with h | h
    · exact .inl h
    · exact .inr ⟨List.contains_iff_mem.mp hcontext, h⟩
  · exact .inl (firstSolid_of_startsSolid hroot hm)

-- ---------------------------------------------------------------------------
-- Reported lines
-- ---------------------------------------------------------------------------

theorem not_solidAt_newline (h : text[i]? = some '\n') : ¬ SolidAt text i := by
  rintro ⟨c, hc, hblank⟩
  obtain rfl := Option.some.inj (h.symm.trans hc)
  exact absurd hblank (by decide)

theorem findingAt_line {code : String} (rule : Compiled) (filename : String)
    (h : (code.toList.take m.start).count '\n' = (code.toList.take p).count '\n') :
    let f := findingAt rule (Buffer.ofString code) filename m
    f.line = (code.toList.take p).count '\n' + 1 ∧
      f.code = strip (String.ofList (pieceAt code.toList p)) := by
  have hline : (LineIndex.ofChars code.toList).lineOf m.start =
      (LineIndex.ofChars code.toList).lineOf p := by
    rw [LineIndex.lineOf_eq, LineIndex.lineOf_eq, h]
  simp only [findingAt, Buffer.ofString, LineIndex.snippetAt, hline]
  rw [LineIndex.lineText_lineOf, LineIndex.lineOf_eq]
  exact ⟨rfl, rfl⟩

/-- A finding of a built-in rule is reported, and its match has a first character that is not blank.
The finding is reported on the line of that character, with the text of that line, unless the match
starts with a newline. Only two rules have such matches, and these are reported on the line
before. -/
theorem findingAt_begins {code : String} (hd : d ∈ builtinDefinitions)
    (hrule : d.compile = .ok rule) (hmatcher : matcher ∈ rule.matchers)
    (hm : m ∈ matcher.findAll (Buffer.ofString code).text) (filename : String) :
    let buffer := Buffer.ofString code
    let f := findingAt rule buffer filename m
    f ∈ scanRule rule buffer filename ∧
      ∃ p, FirstSolid buffer.text m p ∧
        (buffer.text[m.start]? ≠ some '\n' →
          f.line = (code.toList.take p).count '\n' + 1 ∧
            f.code = strip (String.ofList (pieceAt code.toList p))) ∧
        (buffer.text[m.start]? = some '\n' →
          d.id ∈ contextRules ∧ f.line + 1 = (code.toList.take p).count '\n' + 1) := by
  intro buffer f
  have hreported : f ∈ scanRule rule buffer filename :=
    List.mem_flatMap.mpr ⟨matcher, hmatcher, List.mem_map_of_mem hm⟩
  refine ⟨hreported, ?_⟩
  obtain hfirst | ⟨hcontext, hblank, hfirst⟩ := firstSolid_builtin hd hrule hmatcher hm
  · refine ⟨m.start, hfirst, fun _ => findingAt_line rule filename rfl, fun hnewline => ?_⟩
    exact absurd hfirst.solid (not_solidAt_newline hnewline)
  · have hcount := count_take_succ code.toList m.start
    have htext : buffer.text[m.start]? = code.toList[m.start]? := by simp [buffer, Buffer.ofString]
    refine ⟨m.start + 1, hfirst, fun hother => ?_, fun hnewline => ⟨hcontext, ?_⟩⟩
    · rw [← htext, if_neg hother] at hcount
      exact findingAt_line rule filename hcount.symm
    · rw [← htext, if_pos hnewline] at hcount
      rw [hcount, (findingAt_line rule filename rfl).1]
      rfl

def builtinMatches (id : String) (text : Array Char) (kind : Match → Bool) : Bool :=
  builtinDefinitions.any fun d => d.id == id && d.compile.toOption.any fun rule =>
    rule.matchers.any fun matcher => (matcher.findAll text).any kind

theorem exists_of_builtinMatches {id : String} (h : builtinMatches id text kind = true) :
    ∃ d ∈ builtinDefinitions, d.id = id ∧ ∃ rule, d.compile = .ok rule ∧
      ∃ matcher ∈ rule.matchers, ∃ m ∈ matcher.findAll text, kind m = true := by
  obtain ⟨d, hd, h⟩ := List.any_eq_true.mp h
  obtain ⟨hid, h⟩ := Bool.and_eq_true_iff.mp h
  obtain ⟨rule, hrule, h⟩ := (Option.any_eq_true _ _).mp h
  obtain ⟨matcher, hmatcher, h⟩ := List.any_eq_true.mp h
  obtain ⟨m, hm, h⟩ := List.any_eq_true.mp h
  exact ⟨d, hd, beq_iff_eq.mp hid, rule, toOption_eq_some.mp hrule, matcher, hmatcher, m, hm, h⟩

theorem findingAt_begins_indented :
    ∃ d ∈ builtinDefinitions, d.id = "CS-ERR120" ∧ ∃ rule, d.compile = .ok rule ∧
      ∃ matcher ∈ rule.matchers, ∃ m ∈ matcher.findAll (Buffer.ofString "x;\n Date()").text,
        m.start = 3 ∧ ∃ p, FirstSolid (Buffer.ofString "x;\n Date()").text m p ∧
          (findingAt rule (Buffer.ofString "x;\n Date()") "a.ts" m).line =
            ("x;\n Date()".toList.take p).count '\n' + 1 := by
  have hmatch : builtinMatches "CS-ERR120" (Buffer.ofString "x;\n Date()").text
      (fun m => m.start == 3) = true := by decide +kernel
  obtain ⟨d, hd, hid, rule, hrule, matcher, hmatcher, m, hm, hstart⟩ :=
    exists_of_builtinMatches hmatch
  have hstart : m.start = 3 := beq_iff_eq.mp hstart
  obtain ⟨-, p, hp, hline, -⟩ := findingAt_begins hd hrule hmatcher hm "a.ts"
  have hblank : (Buffer.ofString "x;\n Date()").text[m.start]? ≠ some '\n' := by
    rw [hstart]
    decide
  exact ⟨d, hd, hid, rule, hrule, matcher, hmatcher, m, hm, hstart, p, hp, (hline hblank).1⟩

/-- A match that starts with a newline is reported on the line before the code. -/
theorem findingAt_line_before :
    ∃ d ∈ builtinDefinitions, d.id = "CS-ERR120" ∧ ∃ rule, d.compile = .ok rule ∧
      ∃ matcher ∈ rule.matchers, ∃ m ∈ matcher.findAll (Buffer.ofString "x;\nDate()").text,
        ∃ p, FirstSolid (Buffer.ofString "x;\nDate()").text m p ∧
          (findingAt rule (Buffer.ofString "x;\nDate()") "a.ts" m).line ≠
            ("x;\nDate()".toList.take p).count '\n' + 1 := by
  have hmatch : builtinMatches "CS-ERR120" (Buffer.ofString "x;\nDate()").text
      (fun m => m.start == 2 && m.stop == 9) = true := by decide +kernel
  obtain ⟨d, hd, hid, rule, hrule, matcher, hmatcher, m, hm, hplace⟩ :=
    exists_of_builtinMatches hmatch
  obtain ⟨hstart, hstop⟩ : m.start = 2 ∧ m.stop = 9 := by simpa using hplace
  refine ⟨d, hd, hid, rule, hrule, matcher, hmatcher, m, hm, m.start + 1, .next ?_ ?_ ?_, ?_⟩
  · omega
  · rw [hstart]
    exact not_solidAt_newline (by decide)
  · rw [hstart]
    exact ⟨'D', by decide, by decide⟩
  · rw [(findingAt_line rule "a.ts" rfl).1, hstart]
    decide

end CodeAudit.Rule
