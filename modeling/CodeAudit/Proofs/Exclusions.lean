import CodeAudit.Proofs.Builtin
import CodeAudit.Proofs.Preference
import CodeAudit.Strength.Builtin

/-!
# Exclusions behind blanks

Two built-in patterns end with blanks and with something that must not follow. What follows is
looked at behind any number of the blanks, so the last one of them is left out where something
excluded follows, and the exclusion has no effect. It holds only without any blank
(`excluded_without_blank`).
-/

namespace CodeAudit.Regex

open CodeAudit.Text (isBlank)

variable {text : Array Char}

/-- A stretch and the blanks behind it, of which the last one is left out if something excluded
follows. If that follows without any blank, there is no such stretch. -/
def ExceptFor (text : Array Char) (r : Stretch) (excluded : Nat → Prop) : Stretch := fun i j =>
  ∃ b c, r i b ∧ RunOf text isBlank b c ∧
    (¬ excluded c ∧ j = c ∨ excluded c ∧ b < c ∧ j + 1 = c)

def exceptTree (front : List Node) (excluded : Node) : Node :=
  .ofList (front ++ [.blanks, .ahead true excluded])

theorem chooses_blanks_notAhead (hexcluded : Node.Means text excluded e)
    (hsolid : ∀ c k, e c k → ¬ ∃ x, text[c]? = some x ∧ isBlank x = true) :
    Node.Chooses text (.ofList [.blanks, .ahead true excluded]) fun b j => ∃ c,
      RunOf text isBlank b c ∧
        ((¬ ∃ k, e c k) ∧ j = c ∨ (∃ k, e c k) ∧ b < c ∧ j + 1 = c) := by
  have hahead : Node.Chooses text (.ofList [.ahead true excluded]) _ :=
    .of_means hexcluded.notAhead fun _ _ _ h h' => h.2.trans h'.2.symm
  have hblanks : Node.Means text (.ofList [.blanks]) _ := Node.means_blanks
  refine (Node.Chooses.after_run hblanks hahead isBlank 0 (fun b c => ?_) (.repeatedSet 0 none _)
    fun l x hx hblank => ?_).of_iff fun b j => ?_
  · exact ⟨fun hall => ⟨hall.1, hall⟩, And.right⟩
  · exact ⟨l, fun ⟨k, hk⟩ => hsolid l k hk ⟨x, hx, hblank⟩, rfl⟩
  · constructor
    · rintro ⟨c, j', hrun, -, ⟨hfree, rfl⟩, rfl | ⟨hnone, hlt, hj⟩⟩
      · exact ⟨j, hrun, .inl ⟨hfree, rfl⟩⟩
      · refine ⟨c, hrun, .inr ⟨?_, hlt, hj⟩⟩
        by_contra hc
        exact hnone ⟨c, hc, rfl⟩
    · rintro ⟨c, hrun, ⟨hfree, rfl⟩ | ⟨hc, hlt, rfl⟩⟩
      · exact ⟨j, j, hrun, hrun.1.1, ⟨hfree, rfl⟩, .inl rfl⟩
      · have hinside : ∃ x, text[j]? = some x ∧ isBlank x = true :=
          hrun.1.2 j (by omega) (Nat.lt_succ_self j)
        refine ⟨j + 1, j, hrun, hrun.1.1, ⟨fun ⟨k, hk⟩ => hsolid j k hk hinside, rfl⟩, .inr ?_⟩
        exact ⟨fun ⟨_, hfree, _⟩ => hfree hc, hlt, rfl⟩

theorem chooses_exceptTree {excluded : Nat → Prop}
    (hfront : Node.Means text (.ofList front) r) (honly : Relator.RightUnique r)
    (hnode : Node.Means text node e) (hiff : ∀ c, (∃ k, e c k) ↔ excluded c)
    (hsolid : ∀ c, excluded c → ¬ ∃ x, text[c]? = some x ∧ isBlank x = true) :
    Node.Chooses text (exceptTree front node) (ExceptFor text r excluded) := by
  have hback := chooses_blanks_notAhead hnode fun c k hk => hsolid c ((hiff c).mp ⟨k, hk⟩)
  refine (Node.Chooses.after_only hfront hback fun i j k j' k' hr _ hr' _ => honly hr hr').of_iff
    fun i j => ?_
  simp only [hiff]
  constructor
  · rintro ⟨b, hr, c, hrest⟩
    exact ⟨b, c, hr, hrest⟩
  · rintro ⟨b, c, hr, hrest⟩
    exact ⟨b, hr, c, hrest⟩

theorem not_blank_of_mem {cs : List Char} {i : Nat} (hsolid : cs.all (!isBlank ·) = true)
    (h : ∃ c ∈ cs, text[i]? = some c) : ¬ ∃ x, text[i]? = some x ∧ isBlank x = true := by
  rintro ⟨x, hx, hblank⟩
  obtain ⟨c, hmem, hc⟩ := h
  obtain rfl := Option.some.inj (hc.symm.trans hx)
  have hnot := List.all_eq_true.mp hsolid c hmem
  simp [hblank] at hnot

theorem ExceptFor.blanks {excluded : Nat → Prop} (h : ExceptFor text r excluded i k) :
    ∃ b, r i b ∧ AllBetween text isBlank b k := by
  obtain ⟨b, c, hr, hrun, hcases⟩ := h
  have hle := hrun.1.1
  exact ⟨b, hr, hrun.1.take (by omega) (by omega)⟩

end CodeAudit.Regex

namespace CodeAudit.Rule

open CodeAudit.Regex
open CodeAudit.Text (isBlank)

variable {text : Array Char}

-- ---------------------------------------------------------------------------
-- When the exclusion has an effect
-- ---------------------------------------------------------------------------

/-- Something that no match from further left reaches over is taken unless what is excluded follows
it without a blank. -/
theorem starts_iff {excluded : Nat → Prop} (h : Takes matcher text (ExceptFor text r excluded))
    (honly : Relator.RightUnique r) (hr : r i b) (hrun : RunOf text isBlank b c)
    (hfree : ∀ g k, ExceptFor text r excluded g k → g < i → k ≤ i) :
    (∃ m ∈ matcher.findAll text, m.start = i) ↔ (excluded c → b < c) := by
  constructor
  · rintro ⟨m, hm, rfl⟩ hexcluded
    obtain ⟨b', c', hr', hrun', hcases⟩ := h.only m hm
    obtain rfl := honly hr hr'
    obtain rfl := hrun.unique hrun'
    rcases hcases with ⟨hnot, -⟩ | ⟨-, hlt, -⟩
    · exact absurd hexcluded hnot
    · exact hlt
  · intro hlt
    obtain ⟨j, hj⟩ : ∃ j, ExceptFor text r excluded i j := by
      by_cases hexcluded : excluded c
      · have := hlt hexcluded
        exact ⟨c - 1, b, c, hr, hrun, .inr ⟨hexcluded, this, by omega⟩⟩
      · exact ⟨c, b, c, hr, hrun, .inl ⟨hexcluded, rfl⟩⟩
    obtain ⟨m, hm, hstart, hstop⟩ := h.covers i j hj
    refine ⟨m, hm, ?_⟩
    by_contra hne
    have := hfree m.start m.stop (h.only m hm) (by omega)
    omega

-- ---------------------------------------------------------------------------
-- Assignments of HTML
-- ---------------------------------------------------------------------------

/-- The inner HTML of something, blanks, and an equals sign. -/
def HtmlAssignment (text : Array Char) : Stretch := fun i b =>
  ∃ a c, Stands text "innerHTML" i a ∧ AllBetween text isBlank a c ∧ Stands text "=" c b

def QuotedTagAt (text : Array Char) (i : Nat) : Prop :=
  (∃ q ∈ ['\'', '"', '`'], text[i]? = some q) ∧ text[i + 1]? = some '<'

def htmlTree : Node :=
  exceptTree (Node.letters "innerHTML" ++ .blanks :: Node.letters "=")
    (.seq (.char (.of ['\'', '"', '`'])) (.char (.of ['<'])))

theorem HtmlAssignment.blanks (h : HtmlAssignment text i b) :
    RunOf text isBlank (i + 9) (b - 1) ∧ text[b - 1]? = some '=' ∧ i + 9 < b := by
  obtain ⟨_, c, ⟨-, rfl⟩, hall, hequals⟩ := h
  have hat : text[c]? = some '=' := hequals.char (k := 0) rfl
  obtain rfl := hequals.2
  have hle : i + 9 ≤ c := hall.1
  exact ⟨hall.runOf ⟨'=', hat, by decide⟩, hat, Nat.lt_succ_of_le hle⟩

theorem htmlAssignment_unique : Relator.RightUnique (HtmlAssignment text) := by
  intro i b b' h h'
  obtain ⟨hrun, -, hlt⟩ := h.blanks
  obtain ⟨hrun', -, hlt'⟩ := h'.blanks
  have := hrun.unique hrun'
  omega

theorem chooses_htmlTree :
    Node.Chooses text htmlTree (ExceptFor text (HtmlAssignment text) (QuotedTagAt text)) := by
  have hblanks : Node.Means text (.ofList [.blanks]) _ := Node.means_blanks
  have hfront : Node.Means text (.ofList (Node.letters "innerHTML" ++ .blanks :: Node.letters "="))
      (HtmlAssignment text) := by
    refine ((Node.Means.letters "innerHTML").append
      (hblanks.append (.letters "="))).of_iff fun i b => ?_
    constructor
    · rintro ⟨a, hname, c, hall, hequals⟩
      exact ⟨a, c, hname, hall, hequals⟩
    · rintro ⟨a, c, hname, hall, hequals⟩
      exact ⟨a, hname, c, hall, hequals⟩
  have hquote : Node.Means text (.ofList [.char (.of ['\'', '"', '`'])]) _ := Node.means_of _
  have htag : Node.Means text (.ofList [.char (.of ['<'])]) _ := Node.means_of _
  refine chooses_exceptTree hfront htmlAssignment_unique (hquote.append htag) (fun c => ?_)
    fun c h => not_blank_of_mem (by decide) h.1
  · constructor
    · rintro ⟨_, _, ⟨q, hmem, hq, rfl⟩, x, hx, hat, -⟩
      exact ⟨⟨q, hmem, hq⟩, List.mem_singleton.mp hx ▸ hat⟩
    · rintro ⟨⟨q, hmem, hq⟩, hat⟩
      exact ⟨c + 2, c + 1, ⟨q, hmem, hq, rfl⟩, '<', List.mem_singleton_self _, hat, rfl⟩

theorem exists_htmlMatcher : ∃ matcher, builtinMatchers "CS-SEC020" = [matcher] ∧
    ∀ text, Takes matcher text (ExceptFor text (HtmlAssignment text) (QuotedTagAt text)) :=
  exists_takes (by decide +kernel) rfl fun _ => chooses_htmlTree

theorem htmlAssignment_apart {excluded : Nat → Prop}
    (h : ExceptFor text (HtmlAssignment text) excluded g k) (hi : HtmlAssignment text i b)
    (hlt : g < i) : k ≤ i := by
  obtain ⟨a, hg, hbehind⟩ := h.blanks
  obtain ⟨⟨hblanks, -⟩, hequals, -⟩ := hg.blanks
  have hfirst : text[i]? = some 'i' := by
    obtain ⟨_, _, hname, -⟩ := hi
    exact hname.char (k := 0) rfl
  have hletter : ∃ c, text[i]? = some c ∧ isBlank c = false := ⟨'i', hfirst, by decide⟩
  have hname : g + 9 ≤ i := by
    -- No letter of the name but the first one is the one with which it begins.
    by_contra hin
    obtain ⟨n, rfl⟩ := Nat.exists_eq_add_of_lt hlt
    obtain ⟨_, _, hstands, -⟩ := hg
    have hletters : ∀ n < 8, "innerHTML".toList[n + 1]? ≠ some 'i' := by decide
    have hn : n + 1 < "innerHTML".toList.length := by
      show n + 1 < 9
      omega
    have hat := hstands.char (List.getElem?_eq_getElem hn)
    refine hletters n (by omega) ((List.getElem?_eq_getElem hn).trans ?_)
    exact hat.symm.trans (by rwa [← Nat.add_assoc])
  have hequals : i ≠ a - 1 := by
    rintro rfl
    exact absurd (hfirst.symm.trans hequals) (by decide)
  have := hblanks.le_of_other hletter hname
  exact hbehind.le_of_other hletter (by omega)

-- ---------------------------------------------------------------------------
-- The nullish operator
-- ---------------------------------------------------------------------------

def BracketAt (text : Array Char) (i : Nat) : Prop := ∃ x ∈ ['[', '\x7b'], text[i]? = some x

def nullishTree : Node := exceptTree (Node.letters "??") (.char (.of ['[', '\x7b']))

def strengthMatchers (id : String) : List Matcher :=
  (Strength.builtin.filter (·.id == id)).map (·.matcher)

theorem chooses_nullishTree :
    Node.Chooses text nullishTree (ExceptFor text (Stands text "??") (BracketAt text)) := by
  refine chooses_exceptTree (.letters "??") (stands_unique "??") (Node.means_of _) (fun c => ?_)
    fun c h => not_blank_of_mem (by decide) h
  · constructor
    · rintro ⟨_, x, hmem, hx, -⟩
      exact ⟨x, hmem, hx⟩
    · rintro ⟨x, hmem, hx⟩
      exact ⟨c + 1, x, hmem, hx, rfl⟩

theorem exists_nullishMatcher : ∃ matcher, strengthMatchers "CS-STR071" = [matcher] ∧
    ∀ text, Takes matcher text (ExceptFor text (Stands text "??") (BracketAt text)) :=
  exists_takes (by decide +kernel) rfl fun _ => chooses_nullishTree

theorem nullish_apart {excluded : Nat → Prop}
    (h : ExceptFor text (Stands text "??") excluded g k) (hi : Stands text "??" i b)
    (hfirst : ∀ p, i = p + 1 → text[p]? ≠ some '?') (hlt : g < i) : k ≤ i := by
  obtain ⟨a, hg, hbehind⟩ := h.blanks
  have hinside : a ≤ i := by
    have ha : a = g + 2 := hg.2
    by_contra hin
    exact hfirst g (by omega) (hg.char (k := 0) rfl)
  exact hbehind.le_of_other ⟨'?', hi.char (k := 0) rfl, by decide⟩ hinside

-- ---------------------------------------------------------------------------
-- Both exclusions
-- ---------------------------------------------------------------------------

/-- What is excluded behind an assignment of HTML or a nullish operator is excluded only directly
behind it. If there is a blank before it, the match is there, without the last blank. -/
theorem excluded_without_blank (text : Array Char) :
    (∃ matcher, builtinMatchers "CS-SEC020" = [matcher] ∧
      (∀ m ∈ matcher.findAll text,
        ExceptFor text (HtmlAssignment text) (QuotedTagAt text) m.start m.stop) ∧
      ∀ i b c, HtmlAssignment text i b → RunOf text isBlank b c →
        ((∃ m ∈ matcher.findAll text, m.start = i) ↔ (QuotedTagAt text c → b < c))) ∧
    ∃ matcher, strengthMatchers "CS-STR071" = [matcher] ∧
      (∀ m ∈ matcher.findAll text,
        ExceptFor text (Stands text "??") (BracketAt text) m.start m.stop) ∧
      ∀ i b c, Stands text "??" i b → (∀ p, i = p + 1 → text[p]? ≠ some '?') →
        RunOf text isBlank b c →
        ((∃ m ∈ matcher.findAll text, m.start = i) ↔ (BracketAt text c → b < c)) := by
  constructor
  · obtain ⟨matcher, hmatchers, htakes⟩ := exists_htmlMatcher
    refine ⟨matcher, hmatchers, (htakes text).only, fun i b c hi hrun => ?_⟩
    exact starts_iff (htakes text) htmlAssignment_unique hi hrun fun _ _ h hlt =>
      htmlAssignment_apart h hi hlt
  · obtain ⟨matcher, hmatchers, htakes⟩ := exists_nullishMatcher
    refine ⟨matcher, hmatchers, (htakes text).only, fun i b c hi hfirst hrun => ?_⟩
    exact starts_iff (htakes text) (stands_unique "??") hi hrun fun _ _ h hlt =>
      nullish_apart h hi hfirst hlt

/-- With one blank, a tag is assigned and a list is the fallback, and both are found. -/
theorem excluded_behind_blank :
    (HtmlAssignment "innerHTML = '<b>'".toList.toArray 0 11 ∧
        RunOf "innerHTML = '<b>'".toList.toArray isBlank 11 12 ∧
        QuotedTagAt "innerHTML = '<b>'".toList.toArray 12 ∧
        spans (builtinMatchers "CS-SEC020") "innerHTML = '<b>'" = [(0, 11)] ∧
        spans (builtinMatchers "CS-SEC020") "innerHTML ='<b>'" = []) ∧
      Stands "a ?? []".toList.toArray "??" 2 4 ∧ RunOf "a ?? []".toList.toArray isBlank 4 5 ∧
        BracketAt "a ?? []".toList.toArray 5 ∧
        spans (strengthMatchers "CS-STR071") "a ?? []" = [(2, 4)] ∧
        spans (strengthMatchers "CS-STR071") "a ??[]" = [] := by
  refine ⟨⟨⟨9, 10, by decide, by decide, by decide⟩, by decide, ⟨⟨'\'', by decide, rfl⟩, rfl⟩,
    by decide +kernel, by decide +kernel⟩, by decide, by decide, ⟨'[', by decide, rfl⟩,
    by decide +kernel, by decide +kernel⟩

end CodeAudit.Rule
