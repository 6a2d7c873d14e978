import CodeAudit.Advice.Suggestion
import CodeAudit.Proofs.LineLookup
import CodeAudit.Proofs.Searching
import Mathlib.Data.Finset.Card

/-!
# Places of matches

Advice shows places: the line on which a match starts, and that line without the blanks around it.
Two matches are shown at one place exactly if they start on one line, so of the places of a code the
first one of every line is the first occurrence of every place (`distinct_eq`), and there are as
many of them as there are lines (`length_distinct`).
-/

namespace CodeAudit.Advice

open CodeAudit.Regex (Match)
open CodeAudit.Rule (Matcher)
open CodeAudit.Source (Buffer LineIndex pieceAt splitLines_pieceAt)

namespace Location

variable {code : String} {places : List Location}

-- ---------------------------------------------------------------------------
-- The place of an offset
-- ---------------------------------------------------------------------------

/-- Where an offset is shown: on the line that the newlines before it count, with what stands
between the newlines around it, without the blanks at both ends. -/
def ofOffset (code : String) (offset : Nat) : Location where
  line := (code.toList.take offset).count '\n' + 1
  code := Text.strip (String.ofList (pieceAt code.toList offset))

theorem ofMatch_eq (code : String) (m : Match) :
    ofMatch (Buffer.ofString code).index m = ofOffset code m.start := by
  rw [ofMatch, LineIndex.snippetAt, Buffer.ofString, LineIndex.lineText_lineOf, LineIndex.lineOf_eq]
  rfl

theorem ofOffset_eq_of_line (h : (ofOffset code i).line = (ofOffset code j).line) :
    ofOffset code i = ofOffset code j := by
  have hcount : (code.toList.take i).count '\n' = (code.toList.take j).count '\n' :=
    Int.ofNat_inj.mp ((Int.add_left_inj 1).mp h)
  have hpiece := splitLines_pieceAt code.toList i
  rw [hcount, splitLines_pieceAt code.toList j] at hpiece
  simp only [ofOffset, hcount, Option.some.inj hpiece]

def ofMatcher (code : String) (matcher : Matcher) : List Location :=
  (matcher.findAll (Buffer.ofString code).text).map (ofOffset code ·.start)

theorem ofMatcher_eq (code : String) (matcher : Matcher) :
    (matcher.findAll (Buffer.ofString code).text).map (ofMatch (Buffer.ofString code).index) =
      ofMatcher code matcher :=
  List.map_congr_left fun m _ => ofMatch_eq code m

theorem ofMatcher_ne_nil_iff : ofMatcher code matcher ≠ [] ↔
    showsIn (Buffer.ofString code) matcher = true := by
  rw [ofMatcher, ne_eq, List.map_eq_nil_iff, ← ne_eq, Matcher.findAll_ne_nil_iff, showsIn]

-- ---------------------------------------------------------------------------
-- The first place of every line
-- ---------------------------------------------------------------------------

def OfOneCode (places : List Location) : Prop :=
  ∀ a ∈ places, ∀ b ∈ places, a.line = b.line → a = b

theorem OfOneCode.of_offsets (code : String)
    (h : ∀ place ∈ places, ∃ offset, place = ofOffset code offset) : OfOneCode places := by
  intro a ha b hb hline
  obtain ⟨i, rfl⟩ := h a ha
  obtain ⟨j, rfl⟩ := h b hb
  exact ofOffset_eq_of_line hline

theorem OfOneCode.ofMatcher (code : String) (matcher : Matcher) :
    OfOneCode (ofMatcher code matcher) :=
  .of_offsets code fun _ hplace =>
    let ⟨m, _, heq⟩ := List.mem_map.mp hplace
    ⟨m.start, heq.symm⟩

theorem OfOneCode.tail (h : OfOneCode (a :: places)) : OfOneCode places :=
  fun b hb c hc => h b (List.mem_cons_of_mem _ hb) c (List.mem_cons_of_mem _ hc)

theorem distinctFrom_eq (h : OfOneCode places) (seen : List Int) :
    distinctFrom seen places = (places.filter fun p => !seen.contains p.line).eraseDups := by
  induction places generalizing seen with
  | nil => rfl
  | cons a rest ih =>
    rw [distinctFrom]
    split
    · next hseen =>
      rw [List.filter_cons_of_neg (by simpa using hseen), ih h.tail]
    · next hseen =>
      rw [List.filter_cons_of_pos (by simpa using hseen), List.eraseDups_cons, ih h.tail,
        List.filter_filter]
      -- Behind `a`, to be on another line is to be another place.
      have hrest : ∀ p ∈ rest, (!(a.line :: seen).contains p.line) =
          (!p == a && !seen.contains p.line) := by
        intro p hp
        have hsame : p.line = a.line ↔ p = a :=
          ⟨h p (List.mem_cons_of_mem _ hp) a List.mem_cons_self, congrArg Location.line⟩
        by_cases hpa : p = a <;> simp [hsame, hpa]
      rw [List.filter_congr hrest]

theorem distinct_eq (h : OfOneCode places) : distinct places = places.eraseDups := by
  rw [distinct, distinctFrom_eq h]
  simp

theorem lines_distinctFrom (seen : List Int) (places : List Location) :
    ((distinctFrom seen places).map (·.line)).Nodup ∧
      ∀ line ∈ seen, line ∉ (distinctFrom seen places).map (·.line) := by
  induction places generalizing seen with
  | nil => simp [distinctFrom]
  | cons a rest ih =>
    rw [distinctFrom]
    split
    · exact ih seen
    · next hseen =>
      obtain ⟨hnodup, hnew⟩ := ih (a.line :: seen)
      obtain ⟨ha, hnew⟩ := List.forall_mem_cons.mp hnew
      refine ⟨List.nodup_cons.mpr ⟨ha, hnodup⟩, fun line hline hmem => ?_⟩
      rcases List.mem_cons.mp hmem with rfl | hmem
      · exact hseen (List.contains_iff_mem.mpr hline)
      · exact hnew line hline hmem

theorem nodup_distinct (places : List Location) : ((distinct places).map (·.line)).Nodup :=
  (lines_distinctFrom [] places).1

theorem nodup_take_distinct (n : Nat) (places : List Location) :
    (((distinct places).take n).map (·.line)).Nodup := by
  rw [List.map_take]
  exact (nodup_distinct places).sublist (List.take_sublist _ _)

theorem length_distinct (h : OfOneCode places) :
    (distinct places).length = (places.map (·.line)).toFinset.card := by
  have hlines : (places.map (·.line)).toFinset = ((distinct places).map (·.line)).toFinset := by
    ext line
    simp [distinct_eq h]
  rw [hlines, List.toFinset_card_of_nodup (nodup_distinct places), List.length_map]

theorem distinct_eq_nil_iff (h : OfOneCode places) : distinct places = [] ↔ places = [] := by
  rw [← List.length_eq_zero_iff, length_distinct h]
  simp

end Location

end CodeAudit.Advice
