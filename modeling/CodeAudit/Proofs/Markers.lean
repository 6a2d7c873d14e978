import CodeAudit.Proofs.Caseless
import CodeAudit.Proofs.Consuming

/-!
# Markers in comments

A marker in a line comment is reported on its line, unless what follows it is the end of the text or
the comment lies in a match that began on an earlier line (`commentMarker_reports`). A match takes in
the character behind the marker, which may be the end of its line, and goes on to the end of a line:
then that is the next one.
-/

namespace CodeAudit.Rule

open CodeAudit.Regex
open CodeAudit.Regex.Phrase (literal oneOf)
open CodeAudit.Source (Buffer count_take_mono count_take_succ)
open CodeAudit.Text (isBlank)
open Phrasing (markedLine markerEnd)

variable {text : Array Char} {markers : List String}

-- ---------------------------------------------------------------------------
-- Comments with a marker
-- ---------------------------------------------------------------------------

def LineEndAt (text : Array Char) (i : Nat) : Prop :=
  i = text.size ∨ text[i]? = some '\n'

/-- What is taken for a marked line: a line comment, blanks, one of the markers and a character that
ends it, and then everything up to the end of a line. -/
def MarkedAt (text : Array Char) (markers : List String) : Stretch := fun i j =>
  ∃ a b c, Stands text "//" i a ∧ AllBetween text isBlank a b ∧
    (∃ marker ∈ markers, ¬ LostAmong markers marker ∧ StandsRecased text marker b c) ∧
    (∃ x, text[c]? = some x ∧ (x = ':' ∨ x = '.' ∨ isBlank x = true)) ∧
    AllBetween text (· != '\n') (c + 1) j ∧ LineEndAt text j

def lineFlags : Flags := { ignoreCase := true, multiLine := true }

theorem means_lineEnd :
    Phrase.Means text .lineEnd (fun i j => LineEndAt text i ∧ j = i) lineFlags := by
  have hnode : Node.Means text (Item.sequence (Phrase.lineEnd.items lineFlags)) _ :=
    .anchor .lineEnd
  refine .of_steady rfl (hnode.of_iff fun i j => ?_)
  simp [Anchor.holds, LineEndAt]

theorem means_restOfLine :
    Phrase.Means text (.repeated ⟨.any, false⟩ .any) (AllBetween text (· != '\n')) lineFlags := by
  have hset : Phrase.any.charset? lineFlags = some .notNewline := rfl
  have haccepts : Charset.notNewline.accepts = (· != '\n') := by
    funext x
    have hnewline : x.toNat = 10 ↔ x = '\n' := @Char.toNat_inj x '\n'
    simp [Charset.notNewline, Charset.accepts, Fold.apply, ClassItem.contains, bne, hnewline]
  refine (Phrase.Means.repeatedSet hset ⟨.any, false⟩ rfl).of_iff fun i j => ?_
  rw [haccepts]
  exact and_iff_right_of_imp And.left

def stopSet : Charset := { items := [.single 58, .single 46, .kind .blank false false] }

theorem accepts_stopSet : stopSet.accepts x = true ↔ x = ':' ∨ x = '.' ∨ isBlank x = true := by
  have hcolon : x = ':' ↔ x.toNat = 58 := Char.toNat_inj.symm
  have hdot : x = '.' ↔ x.toNat = 46 := Char.toNat_inj.symm
  simp [stopSet, Charset.accepts, Fold.apply, ClassItem.contains, CharKind.contains, hcolon, hdot]

theorem means_markerStop :
    Phrase.Means text (.group .plain (oneOf [.plain ':', literal ".", .shorthand .blank false]))
      (fun i j => ∃ x, text[i]? = some x ∧ (x = ':' ∨ x = '.' ∨ isBlank x = true) ∧ j = i + 1)
      lineFlags := by
  refine .group fun d hd => ?_
  have hinside : d.inside .plain = { level := { flags := lineFlags }, widths := d.widths } :=
    hd ▸ rfl
  rw [hinside]
  refine ⟨rfl, ?_⟩
  have hset : Node.Means text (.char stopSet) _ := .char stopSet
  simp only [accepts_stopSet] at hset
  exact hset

theorem means_markedLine (hne : markers ≠ []) :
    (markedLine markers).Means text (MarkedAt text markers) lineFlags := by
  have hslashes : Phrase.Means text (literal "//") (Stands text "//") lineFlags := by
    refine .uncased rfl fun c hc => ?_
    obtain rfl : c = '/' := by simpa using hc
    decide
  have hmarkers : Phrase.Means text (Phrasing.anyText markers) _ lineFlags := .anyRecased rfl rfl hne
  have hend : Phrase.Means text markerEnd _ lineFlags :=
    (means_markerStop.append means_restOfLine).append means_lineEnd
  refine (((hslashes.append (means_blanks rfl)).append hmarkers).append hend).of_iff fun i j => ?_
  constructor
  · rintro ⟨c, ⟨b, ⟨a, hstands, hblanks⟩, hmarker⟩, _, ⟨_, ⟨x, hx, hstop, rfl⟩, hrest⟩, hend, rfl⟩
    exact ⟨a, b, c, hstands, hblanks, hmarker, ⟨x, hx, hstop⟩, hrest, hend⟩
  · rintro ⟨a, b, c, hstands, hblanks, hmarker, ⟨x, hx, hstop⟩, hrest, hend⟩
    exact ⟨c, ⟨b, ⟨a, hstands, hblanks⟩, hmarker⟩, j, ⟨c + 1, ⟨x, hx, hstop, rfl⟩, hrest⟩, hend, rfl⟩

theorem exists_markedAt (hstands : Stands text "//" i a) (hblanks : AllBetween text isBlank a b)
    (hmem : marker ∈ markers) (hkept : ¬ LostAmong markers marker)
    (hmarker : StandsRecased text marker b c) (hx : text[c]? = some x)
    (hstop : x = ':' ∨ x = '.' ∨ isBlank x = true) : ∃ j, MarkedAt text markers i j := by
  have hsize : c + 1 ≤ text.size := (Array.getElem?_eq_some_iff.mp hx).1
  obtain ⟨j, hrest, hend⟩ := exists_between text (· != '\n') (c + 1)
  refine ⟨j, a, b, c, hstands, hblanks, ⟨marker, hmem, hkept, hmarker⟩, ⟨x, hx, hstop⟩, hrest, ?_⟩
  have hj := hrest.le_size hsize
  cases hat : text[j]? with
  | none =>
    have := Array.getElem?_eq_none_iff.mp hat
    exact .inl (by omega)
  | some y => exact .inr (by simpa [hat] using hend)

-- ---------------------------------------------------------------------------
-- The matcher of marked lines
-- ---------------------------------------------------------------------------

def lineNumber (code : String) (i : Nat) : Int := (code.toList.take i).count '\n' + 1

theorem lineNumber_mono (code : String) (h : i ≤ j) : lineNumber code i ≤ lineNumber code j := by
  have := count_take_mono code.toList h
  unfold lineNumber
  omega

theorem lineNumber_lt (h : i < j) (hi : code.toList.toArray[i]? = some '\n') :
    lineNumber code i < lineNumber code j := by
  have hmono := lineNumber_mono code (show i + 1 ≤ j from h)
  have hcount := count_take_succ code.toList i
  rw [if_pos (by simpa using hi)] at hcount
  unfold lineNumber at hmono ⊢
  omega

section Matcher

variable {matcher : Matcher} (hne : markers ≠ [])
  (hmatcher : (Phrasing.recipe (markedLine markers) lineFlags).matcher = .ok matcher)

include hne hmatcher

theorem markedLine_matcher : matcher.repeats = true ∧
    ∀ text, Node.Means text matcher.pattern.root (MarkedAt text markers) := by
  have hflags : lineFlags.ordinary = true := rfl
  have hcompile := compile_source (Phrasing.written_markedLine markers).fine hflags
  rw [Phrasing.recipe, Recipe.matcher, hcompile] at hmatcher
  obtain rfl := Except.ok.inj hmatcher
  exact ⟨rfl, fun text => (means_markedLine hne).node_start⟩

theorem markedAt_of_mem (hm : m ∈ matcher.findAll text) : MarkedAt text markers m.start m.stop :=
  (((markedLine_matcher hne hmatcher).2 text _ _ _).mp (Matcher.mem_findAll hm).2).1

/-- A marked line that could be a match is covered by one. -/
theorem exists_match_over (h : MarkedAt text markers i j) :
    ∃ m ∈ matcher.findAll text, m.start ≤ i ∧ i < m.stop := by
  have hrecipe : Phrasing.recipe (markedLine markers) lineFlags ∈
      commentMarkerRecipes markers "single" :=
    mem_commentMarkerRecipes.mpr ⟨hne, .inl ⟨by simp, rfl⟩⟩
  have hconsumes := commentMarker_consumes hrecipe matcher hmatcher
  obtain ⟨hrepeats, hmeans⟩ := markedLine_matcher hne hmatcher
  have hscan : Pattern.Scan _ text 0 _ := Pattern.scan_findAll hconsumes
  have hmem := (hmeans text i (.blank matcher.pattern.groups) (j, _)).mpr ⟨h, rfl⟩
  rw [Matcher.findAll, if_pos hrepeats]
  exact hscan.covers (Nat.zero_le i) (List.ne_nil_of_mem hmem)

/-- If a match reaches into a line on which it did not begin, it goes on to the end of a line, and no
match begins on the line into which it reaches. -/
theorem lineNumber_ne_of_over {code : String} (hm : m ∈ matcher.findAll code.toList.toArray)
    (hbefore : lineNumber code m.start < lineNumber code i) (hover : i < m.stop)
    (hm' : m' ∈ matcher.findAll code.toList.toArray) :
    lineNumber code m'.start ≠ lineNumber code i := by
  intro hline
  have hne' : m ≠ m' := by
    rintro rfl
    omega
  have hleft := matcher.leftToRight_findAll code.toList.toArray
  rcases hleft.disjoint hm hm' hne' with hafter | hearlier
  · obtain ⟨_, _, _, hstands, -⟩ := markedAt_of_mem hne hmatcher hm'
    obtain ⟨_, _, _, -, -, -, -, -, hend⟩ := markedAt_of_mem hne hmatcher hm
    have hsize := hstands.lt_size (by decide)
    obtain hlast | hnewline := hend
    · omega
    · have hslash := hstands.char (k := 0) (c := '/') rfl
      have hlt : m.stop < m'.start := by
        refine Nat.lt_of_le_of_ne hafter fun heq => ?_
        rw [heq] at hnewline
        exact absurd (hnewline.symm.trans hslash) (by decide)
      have hlater := lineNumber_lt hlt hnewline
      have := lineNumber_mono code (Nat.le_of_lt hover)
      omega
  · have hstop := (hleft.ordered m' hm').2
    have := lineNumber_mono code (Nat.le_trans hstop hearlier)
    omega

end Matcher

-- ---------------------------------------------------------------------------
-- Comments that are reported
-- ---------------------------------------------------------------------------

/-- A line comment that begins with a marker: after `//` there are spaces or tabs and the marker with
its letters in any case, and it is ended by a colon, a dot, a space, a tab or the end of the line. -/
def CommentAt (text : Array Char) (marker : String) : Stretch := fun i c =>
  ∃ a b, Stands text "//" i a ∧ AllBetween text (fun x => x == ' ' || x == '\t') a b ∧
    StandsRecased text marker b c ∧
    (LineEndAt text c ∨ ∃ x, text[c]? = some x ∧ (x = ':' ∨ x = '.' ∨ x = ' ' ∨ x = '\t'))

/-- A position lies in a match of a marked line that began on an earlier line. -/
def Swallowed (rule : Compiled) (markers : List String) (code : String) (i : Nat) : Prop :=
  ∃ matcher ∈ rule.matchers, ∃ m ∈ matcher.findAll code.toList.toArray,
    MarkedAt code.toList.toArray markers m.start m.stop ∧
      lineNumber code m.start < lineNumber code i ∧ i < m.stop

theorem CommentAt.exists_markedAt (h : CommentAt text marker i c) (hmem : marker ∈ markers)
    (hkept : ¬ LostAmong markers marker) (hc : c < text.size) : ∃ j, MarkedAt text markers i j := by
  obtain ⟨a, b, hstands, hblanks, hmarker, hend⟩ := h
  have hblanks : AllBetween text isBlank a b := hblanks.imp fun x hx => by
    obtain rfl | rfl : x = ' ' ∨ x = '\t' := by simpa using hx
    · decide
    · decide
  obtain ⟨x, hx, hstop⟩ : ∃ x, text[c]? = some x ∧ (x = ':' ∨ x = '.' ∨ isBlank x = true) := by
    rcases hend with (hlast | hnewline) | ⟨x, hx, rfl | rfl | rfl | rfl⟩
    · omega
    · exact ⟨_, hnewline, .inr (.inr (by decide))⟩
    · exact ⟨_, hx, .inl rfl⟩
    · exact ⟨_, hx, .inr (.inl rfl)⟩
    · exact ⟨_, hx, .inr (.inr (by decide))⟩
    · exact ⟨_, hx, .inr (.inr (by decide))⟩
  exact Rule.exists_markedAt hstands hblanks hmem hkept hmarker hx hstop

/-- A line comment that begins with a marker is reported on its line if the marker does not end the
text, is not lost among the others, and the comment does not lie in a match that began on an earlier
line. If it does, nothing is reported on its line. -/
theorem commentMarker_reports (hne : markers ≠ []) (hstyle : style = "single" ∨ style = "any")
    {rule : Compiled} (hrule : (Spec.commentMarker markers style).matchers = .ok rule.matchers)
    (code filename : String) (hmem : marker ∈ markers)
    (h : CommentAt code.toList.toArray marker i c) :
    (c < code.length → ¬ LostAmong markers marker → ¬ Swallowed rule markers code i →
      ∃ f ∈ Scan.scanRule rule (Buffer.ofString code) filename, f.line = lineNumber code i) ∧
    (style = "single" → Swallowed rule markers code i →
      ∀ f ∈ Scan.scanRule rule (Buffer.ofString code) filename, f.line ≠ lineNumber code i) := by
  have hmap : (commentMarkerRecipes markers style).map Recipe.matcher = rule.matchers.map .ok :=
    map_eq_map_ok hrule
  have hline (m : Match) :
      (Scan.findingAt rule (Buffer.ofString code) filename m).line = lineNumber code m.start := by
    have := (Scan.findingAt_reports rule code filename m).line
    unfold lineNumber
    omega
  constructor
  · intro hc hkept hfree
    have hrecipe : Phrasing.recipe (markedLine markers) lineFlags ∈
        commentMarkerRecipes markers style :=
      mem_commentMarkerRecipes.mpr ⟨hne, .inl ⟨by simpa using hstyle, rfl⟩⟩
    obtain ⟨matcher, hin, hmatcher⟩ := List.mem_map.mp (hmap ▸ List.mem_map_of_mem hrecipe)
    obtain ⟨j, hmarked⟩ := h.exists_markedAt hmem hkept (by simpa [String.length_toList] using hc)
    obtain ⟨m, hm, hfrom, hover⟩ := exists_match_over hne hmatcher.symm hmarked
    have hsame : lineNumber code m.start = lineNumber code i := by
      by_contra hother
      have hle := lineNumber_mono code hfrom
      exact hfree ⟨matcher, hin, m, hm, markedAt_of_mem hne hmatcher.symm hm, by omega, hover⟩
    refine ⟨Scan.findingAt rule (Buffer.ofString code) filename m, ?_, (hline m).trans hsame⟩
    exact List.mem_flatMap.mpr ⟨matcher, hin, List.mem_map_of_mem hm⟩
  · rintro rfl ⟨matcher, hin, m, hm, -, hbefore, hover⟩ f hf
    -- There is only one matcher, so the match on that line would be one of its matches.
    have hall : ∀ matcher ∈ rule.matchers,
        (Phrasing.recipe (markedLine markers) lineFlags).matcher = .ok matcher := by
      intro matcher hin
      obtain ⟨r, hr, hmatcher⟩ := List.mem_map.mp (hmap ▸ List.mem_map_of_mem hin)
      obtain ⟨-, ⟨-, rfl⟩ | ⟨hblock, -⟩⟩ := mem_commentMarkerRecipes.mp hr
      · exact hmatcher
      · exact absurd hblock (by decide)
    obtain ⟨matcher', hin', hf⟩ := List.mem_flatMap.mp hf
    obtain ⟨m', hm', rfl⟩ := List.mem_map.mp hf
    obtain rfl := Except.ok.inj ((hall matcher hin).symm.trans (hall matcher' hin'))
    rw [hline]
    exact lineNumber_ne_of_over hne (hall matcher hin) hm hbefore hover hm'

/-- A marker in small letters, on a line that no match on the line before reaches. -/
theorem commentMarker_reports_second : ["TODO"] ≠ [] ∧
    ∃ rule : Compiled, (Spec.commentMarker ["TODO"] "any").matchers = .ok rule.matchers ∧
      ∃ f ∈ Scan.scanRule rule (Buffer.ofString "a\n// todo: b") "a.ts", f.line = 2 := by
  refine ⟨by decide, ?_⟩
  obtain ⟨ms, hms, -⟩ := matchers_structured
    (show (Spec.commentMarker ["TODO"] "any").IsStructured from trivial)
  let rule : Compiled :=
    { id := "R-1", title := "", description := "", severity := "low", category := "placeholder"
      matchers := ms }
  have hcomment : CommentAt "a\n// todo: b".toList.toArray "TODO" 2 9 := by
    refine ⟨4, 5, ⟨by decide, rfl⟩, ⟨by decide, fun k hk hlt => ?_⟩,
      ⟨"todo", by decide, by decide, rfl⟩, .inr ⟨':', by decide, .inl rfl⟩⟩
    obtain rfl : k = 4 := by omega
    exact ⟨' ', by decide, by decide⟩
  have hfree : ¬ Swallowed rule ["TODO"] "a\n// todo: b" 2 := by
    rintro ⟨matcher, -, m, -, ⟨_, _, _, hstands, -⟩, hbefore, -⟩
    have hslash := hstands.char (k := 0) (c := '/') rfl
    by_cases hlate : 2 ≤ m.start
    · have := lineNumber_mono "a\n// todo: b" hlate
      omega
    · obtain hzero | hone : m.start = 0 ∨ m.start = 1 := by omega
      · exact absurd (hzero ▸ hslash) (by decide)
      · exact absurd (hone ▸ hslash) (by decide)
  have hrule : (Spec.commentMarker ["TODO"] "any").matchers = .ok rule.matchers := hms
  obtain ⟨hreports, -⟩ := commentMarker_reports (by decide) (.inr rfl) hrule
    "a\n// todo: b" "a.ts" (List.mem_singleton_self "TODO") hcomment
  obtain ⟨f, hf, hline⟩ := hreports (by decide) (not_lostAmong_singleton _) hfree
  exact ⟨rule, hms, f, hf, hline.trans (by decide)⟩

def todoRule : Definition :=
  { id := "R-1", title := "", description := "", severity := "low", category := "placeholder"
    spec := .commentMarker ["TODO"] "single" }

def reportedLines (d : Definition) (code : String) : Option (List Int) :=
  d.compile.toOption.map fun rule =>
    (Scan.scanRule rule (Buffer.ofString code) "a.ts").map (·.line)

/-- A match that takes in the end of its line goes on over the next marker, and at the end of the
text there is nothing to take in. -/
theorem commentMarker_missed :
    (CommentAt "// TODO\n// TODO: b".toList.toArray "TODO" 8 15 ∧
        lineNumber "// TODO\n// TODO: b" 8 = 2 ∧
        reportedLines todoRule "// TODO\n// TODO: b" = some [1]) ∧
      CommentAt "// TODO".toList.toArray "TODO" 0 7 ∧
        reportedLines todoRule "// TODO" = some [] := by
  refine ⟨⟨⟨10, 11, ⟨by decide, rfl⟩, ⟨by decide, fun k hk hlt => ?_⟩,
    ⟨"TODO", recased_self _, by decide, rfl⟩, .inr ⟨':', by decide, .inl rfl⟩⟩, by decide,
    by decide +kernel⟩, ⟨2, 3, ⟨by decide, rfl⟩, ⟨by decide, fun k hk hlt => ?_⟩,
    ⟨"TODO", recased_self _, by decide, rfl⟩, .inl (.inl rfl)⟩, by decide +kernel⟩
  · obtain rfl : k = 10 := by omega
    exact ⟨' ', by decide, by decide⟩
  · obtain rfl : k = 2 := by omega
    exact ⟨' ', by decide, by decide⟩

end CodeAudit.Rule
