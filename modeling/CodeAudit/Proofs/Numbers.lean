import CodeAudit.Proofs.Beginnings
import CodeAudit.Proofs.Builtin
import CodeAudit.Proofs.Preference

/-!
# Magic numbers

Behind a number in a condition no unit of a style sheet may follow. Where one does, a digit less is
tried, and what stands behind that is a digit and no unit. So of a number with a unit that has more
digits than it needs, all but the last one are found. Of a decimal number whose integer part has
enough digits only that part is found, with or without a unit (`magicNumber_finds`).
-/

namespace CodeAudit.Regex

open CodeAudit.Text (isBlank isDigit)

variable {text : Array Char}

-- ---------------------------------------------------------------------------
-- Pieces of trees
-- ---------------------------------------------------------------------------

theorem Stands.allBetween (h : Stands text s i j) (hall : ∀ c ∈ s.toList, kind c = true) :
    AllBetween text kind i j := by
  refine ⟨h.le, fun k hk hlt => ?_⟩
  obtain ⟨n, rfl⟩ := Nat.exists_eq_add_of_le hk
  have hn : n < s.toList.length := by
    have := h.2
    rw [String.length_toList]
    omega
  exact ⟨_, h.char (List.getElem?_eq_getElem hn), hall _ (List.getElem_mem hn)⟩

theorem stands_char (hs : s.toList = [c]) :
    Stands text s i j ↔ text[i]? = some c ∧ j = i + 1 := by
  rw [Stands, hs, ← String.length_toList, hs, List.length_singleton, cons_prefix_drop]
  simp

theorem stands_push : Stands text (s.push c) i j ↔
    ∃ k, Stands text s i k ∧ text[k]? = some c ∧ j = k + 1 := by
  have hprefix : s.toList ++ [c] <+: text.toList.drop i ↔
      s.toList <+: text.toList.drop i ∧ text[i + s.length]? = some c := by
    rw [← Array.getElem?_toList, ← List.getElem?_drop, ← String.length_toList]
    constructor
    · rintro ⟨rest, hrest⟩
      rw [← hrest]
      simp
    · rintro ⟨⟨rest, hrest⟩, hc⟩
      rw [← hrest, List.getElem?_append_right (Nat.le_refl _), Nat.sub_self] at hc
      obtain ⟨rest, rfl⟩ := List.head?_eq_some_iff.mp (List.head?_eq_getElem?.trans hc)
      exact ⟨rest, by simpa using hrest⟩
  simp only [Stands, String.toList_push, hprefix, String.length_push]
  constructor
  · rintro ⟨⟨hs, hc⟩, rfl⟩
    exact ⟨_, ⟨hs, rfl⟩, hc, Nat.add_assoc i _ 1 ▸ rfl⟩
  · rintro ⟨_, ⟨hs, rfl⟩, hc, rfl⟩
    exact ⟨⟨hs, hc⟩, Nat.add_assoc i _ 1⟩

theorem Node.Means.alt (ha : Node.Means text a r) (hb : Node.Means text b r') :
    Node.Means text (.alt a b) fun i j => r i j ∨ r' i j := by
  intro i marks o
  rw [outcomes, List.mem_append, ha, hb, or_and_right]

namespace Node

def digitSet : Charset := { items := [.kind .digit false false] }

def digits (min : Nat) : Node := .repeated .greedy min none (.char digitSet)

def optional (c : Char) : Node := .repeated .greedy 0 (some 1) (.char (.of [c]))

theorem accepts_digitSet : digitSet.accepts = isDigit := by
  funext c
  simp [digitSet, Charset.accepts, Fold.apply, ClassItem.contains, CharKind.contains]

theorem means_digits (min : Nat) : Node.Means text (digits min) fun i j =>
    i + min ≤ j ∧ AllBetween text isDigit i j := by
  rw [← accepts_digitSet]
  exact .repeated (by decide) min

theorem means_optional (c : Char) : Node.Means text (optional c) fun i j =>
    j = i ∨ text[i]? = some c ∧ j = i + 1 := by
  rintro i marks ⟨j, later⟩
  have haccepts : acceptsAt text (.of [c]) i = true ↔ text[i]? = some c := by
    simp [acceptsAt_iff, Charset.accepts_of]
  rw [optional, outcomes, setEnds, capAt]
  by_cases hc : text[i]? = some c
  · have hroom : min 1 (text.size - i) = 0 + 1 := by
      have := (Array.getElem?_eq_some_iff.mp hc).1
      omega
    rw [hroom, runLength, if_pos (haccepts.mpr hc), runLength]
    simp [hc, List.range_succ, or_and_right, or_comm]
  · have hrun : runLength text (.of [c]) (min 1 (text.size - i)) i 0 = 0 := by
      by_contra hpos
      have hfirst := (le_runLength.mp (Nat.one_le_iff_ne_zero.mpr hpos)).2 0 Nat.one_pos
      exact hc (haccepts.mp hfirst)
    rw [hrun]
    simp [hc, eq_comm]

end Node

end CodeAudit.Regex

namespace CodeAudit.Rule

open CodeAudit.Regex
open CodeAudit.Text (isBlank isDigit)

variable {text : Array Char}

-- ---------------------------------------------------------------------------
-- Conditions, numbers and units
-- ---------------------------------------------------------------------------

def conditionWords : List String :=
  ["if", "while", "for", "==", "===", "!=", "!==", "<", ">", "<=", ">="]

/-- The beginning of a condition, and perhaps a parenthesis, with blanks behind each of them. -/
def LeadIn (text : Array Char) : Stretch := fun i a =>
  ∃ b c d, (∃ word ∈ conditionWords, Stands text word i b) ∧ AllBetween text isBlank b c ∧
    (d = c ∨ text[c]? = some '(' ∧ d = c + 1) ∧ AllBetween text isBlank d a

/-- A number up to its end. Its integer part goes up to `p`, and there may be a fraction. -/
def NumberAt (text : Array Char) (a p e : Nat) : Prop :=
  a < p ∧ RunOf text isDigit a p ∧
    (e = p ∧ (text[p]? = some '.' → ¬ ∃ c, text[p + 1]? = some c ∧ isDigit c = true) ∨
      text[p]? = some '.' ∧ p + 1 < e ∧ RunOf text isDigit (p + 1) e)

def cssUnits : List String := ["px", "em", "rem", "%", "vh", "vw", "s", "ms"]

def UnitBehind (text : Array Char) (b : Nat) : Prop :=
  ∃ c, AllBetween text isBlank b c ∧ ∃ name ∈ cssUnits, ∃ k, Stands text name c k

/-- How far digits that end at `p` are taken: up to their end, or up to the last digit if a unit
follows and there are more of them than there have to be. -/
def Trimmed (text : Array Char) (least p b : Nat) : Prop :=
  least ≤ p ∧ (¬ UnitBehind text p ∧ b = p ∨ UnitBehind text p ∧ least < p ∧ b + 1 = p)

/-- How far a number is taken. An integer part of three digits or more is taken without looking at
what follows it. -/
def TakenUpTo (text : Array Char) (a p e b : Nat) : Prop :=
  Trimmed text (a + 3) p b ∨ p < a + 3 ∧ p < e ∧ Trimmed text (p + 2) e b

-- ---------------------------------------------------------------------------
-- The tree
-- ---------------------------------------------------------------------------

def conditionTree : Node :=
  .oneOf [.ofList (Node.letters "if"), .ofList (Node.letters "while"), .ofList (Node.letters "for"),
    .ofList (Node.letters "==" ++ [.optional '=']), .ofList (Node.letters "!=" ++ [.optional '=']),
    .ofList [.char (.of ['<', '>']), .optional '=']]

def unitTree : Node :=
  .ofList [.blanks, .oneOf (cssUnits.map fun name => .ofList (Node.letters name))]

def magicNumberTree : Node :=
  .ofList ([conditionTree, .blanks, .optional '(', .blanks] ++
    [.alt (.digits 3) (.ofList [.digits 1, .char (.of ['.']), .digits 1]), .blanks,
      .ahead true unitTree])

theorem means_optionalEnd (hfront : Node.Means text (.ofList front) r) (c : Char) :
    Node.Means text (.ofList (front ++ [.optional c])) fun i j =>
      r i j ∨ ∃ k, r i k ∧ text[k]? = some c ∧ j = k + 1 := by
  have hoptional : Node.Means text (.ofList [.optional c]) _ := Node.means_optional c
  refine (hfront.append hoptional).of_iff fun i j => ?_
  constructor
  · rintro ⟨k, hr, rfl | hc⟩
    · exact .inl hr
    · exact .inr ⟨k, hr, hc⟩
  · rintro (hr | ⟨k, hr, hc⟩)
    · exact ⟨j, hr, .inl rfl⟩
    · exact ⟨k, hr, .inr hc⟩

theorem means_conditionTree : Node.Means text conditionTree fun i j =>
    ∃ word ∈ conditionWords, Stands text word i j := by
  have hangle : Node.Means text (.ofList [.char (.of ['<', '>'])]) fun i j =>
      Stands text "<" i j ∨ Stands text ">" i j := by
    refine (Node.means_of ['<', '>']).of_iff fun i j => ?_
    simp [stands_char (show "<".toList = ['<'] from rfl),
      stands_char (show ">".toList = ['>'] from rfl)]
  have htree : Node.Means text conditionTree _ :=
    .alt (.letters "if") (.alt (.letters "while") (.alt (.letters "for")
      (.alt (means_optionalEnd (.letters "==") '=') (.alt (means_optionalEnd (.letters "!=") '=')
        (means_optionalEnd hangle '=')))))
  refine htree.of_iff fun i j => ?_
  have hpush {s} : (∃ k, Stands text s i k ∧ text[k]? = some '=' ∧ j = k + 1) ↔
      Stands text (s.push '=') i j := stands_push.symm
  simp only [or_and_right, exists_or, hpush, conditionWords, List.mem_cons, List.not_mem_nil,
    or_false, exists_eq_left, or_assoc]
  exact Iff.rfl

theorem means_leadIn : Node.Means text
    (.ofList [conditionTree, .blanks, .optional '(', .blanks]) (LeadIn text) := by
  have hcondition : Node.Means text (.ofList [conditionTree]) _ := means_conditionTree
  have hblanks : Node.Means text (.ofList [.blanks]) _ := Node.means_blanks
  have hoptional : Node.Means text (.ofList [.optional '(']) _ := Node.means_optional '('
  refine (hcondition.append (hblanks.append (hoptional.append hblanks))).of_iff fun i a => ?_
  constructor
  · rintro ⟨b, hword, c, hblanks, d, hparen, hblanks'⟩
    exact ⟨b, c, d, hword, hblanks, hparen, hblanks'⟩
  · rintro ⟨b, c, d, hword, hblanks, hparen, hblanks'⟩
    exact ⟨b, hword, c, hblanks, d, hparen, hblanks'⟩

theorem means_unitTree : Node.Means text (.ahead true unitTree) fun b k =>
    ¬ UnitBehind text b ∧ k = b := by
  have hblanks : Node.Means text (.ofList [.blanks]) _ := Node.means_blanks
  have hunits : Node.Means text
      (.ofList [.oneOf (cssUnits.map fun name => .ofList (Node.letters name))]) _ :=
    Node.Means.oneOf (List.cons_ne_nil _ _) fun name _ => .letters name
  refine (hblanks.append hunits).notAhead.of_iff fun b k => and_congr_left fun _ => not_congr ?_
  constructor
  · rintro ⟨k, c, hblanks, name, hmem, hname⟩
    exact ⟨c, hblanks, name, hmem, k, hname⟩
  · rintro ⟨c, hblanks, name, hmem, k, hname⟩
    exact ⟨k, c, hblanks, name, hmem, hname⟩

-- ---------------------------------------------------------------------------
-- Characters of numbers
-- ---------------------------------------------------------------------------

def notNumeric (c : Char) : Bool := !isDigit c && c != '.'

theorem isBlank_of_digit (h : isDigit c = true) : isBlank c = false := by
  rw [← Node.accepts_digitSet] at h
  exact Charset.not_blank (by decide) h

theorem notNumeric_of_blank (h : isBlank c = true) : notNumeric c = true := by
  have hdot : c ≠ '.' := by
    rintro rfl
    exact absurd h (by decide)
  have hdigit : isDigit c = false := by
    by_contra hdigit
    exact Bool.eq_false_iff.mp (isBlank_of_digit (Bool.not_eq_false _ ▸ hdigit)) h
  simp [notNumeric, hdot, hdigit]

/-- The first character of a word is neither blank nor part of a number. -/
def StandsApart (word : String) : Prop :=
  word.toList[0]?.any (fun x => !isBlank x && notNumeric x) = true

instance (word : String) : Decidable (StandsApart word) := inferInstanceAs (Decidable (_ = true))

theorem units_apart : ∀ name ∈ cssUnits, StandsApart name := by
  decide

theorem conditionWords_apart : ∀ word ∈ conditionWords, StandsApart word := by
  decide

theorem StandsApart.first (hword : StandsApart word) (h : Stands text word i j) :
    i < j ∧ ∃ x, text[i]? = some x ∧ isBlank x = false ∧ notNumeric x = true := by
  obtain ⟨x, hx, hkind⟩ := (Option.any_eq_true _ _).mp hword
  have hlength : 0 < word.length := by
    rw [← String.length_toList]
    exact (List.getElem?_eq_some_iff.mp hx).1
  have := h.2
  exact ⟨by omega, x, h.char hx, by simpa using hkind⟩

theorem not_unitBehind (hx : text[b]? = some x) (hblank : isBlank x = false)
    (hnumeric : notNumeric x = false) : ¬ UnitBehind text b := by
  rintro ⟨c, hall, name, hmem, k, hname⟩
  have hle : c ≤ b := hall.le_of_other ⟨x, hx, hblank⟩ (Nat.le_refl b)
  obtain rfl := Nat.le_antisymm hall.1 hle
  obtain ⟨-, y, hy, -, hunit⟩ := (units_apart name hmem).first hname
  obtain rfl := Option.some.inj (hx.symm.trans hy)
  simp [hnumeric] at hunit

theorem not_unitBehind_digit (hx : text[b]? = some x) (hdigit : isDigit x = true) :
    ¬ UnitBehind text b :=
  not_unitBehind hx (isBlank_of_digit hdigit) (by simp [notNumeric, hdigit])

theorem not_unitBehind_dot (hx : text[b]? = some '.') : ¬ UnitBehind text b :=
  not_unitBehind hx (by decide) (by decide)

theorem unitBehind_iff (hall : AllBetween text isBlank b j) :
    UnitBehind text j ↔ UnitBehind text b := by
  constructor
  · rintro ⟨c, hall', hname⟩
    exact ⟨c, hall.trans hall', hname⟩
  · rintro ⟨c, hall', name, hmem, k, hname⟩
    obtain ⟨-, x, hx, hblank, -⟩ := (units_apart name hmem).first hname
    have hle : j ≤ c := hall.le_of_other ⟨x, hx, hblank⟩ hall'.1
    exact ⟨c, hall'.drop hall.1 hle, name, hmem, k, hname⟩

-- ---------------------------------------------------------------------------
-- What the tree chooses
-- ---------------------------------------------------------------------------

theorem chooses_noUnit : Node.Chooses text (.ofList [.blanks, .ahead true unitTree]) fun b k =>
    ¬ UnitBehind text b ∧ RunOf text isBlank b k := by
  have hblanks : Node.Means text (.ofList [.blanks]) _ := Node.means_blanks
  have hahead : Node.Chooses text (.ofList [.ahead true unitTree]) _ :=
    .of_means means_unitTree fun _ _ _ h h' => h.2.trans h'.2.symm
  refine (Node.Chooses.after_far hblanks hahead (.repeatedSet 0 none _)).of_iff fun b k => ?_
  obtain ⟨c, hrun⟩ := exists_runOf text isBlank b
  -- A unit is behind all blanks of the run or behind none, so giving some back does not help.
  constructor
  · rintro ⟨j, hall, ⟨hfree, rfl⟩, hlast⟩
    rw [unitBehind_iff hall] at hfree
    refine ⟨hfree, ?_⟩
    obtain rfl | hlt := Nat.eq_or_lt_of_le (hrun.le hall)
    · exact hrun
    · exact absurd ⟨c, mt (unitBehind_iff hrun.1).mp hfree, rfl⟩ (hlast c hrun.1 hlt)
  · rintro ⟨hfree, hrun'⟩
    refine ⟨k, hrun'.1, ⟨mt (unitBehind_iff hrun'.1).mp hfree, rfl⟩, fun l hall hlt => ?_⟩
    have := hrun'.le hall
    omega

/-- Digits up to a unit are taken without the last one of them. -/
theorem chooses_digits (least : Nat) :
    Node.Chooses text (.ofList [.digits least, .blanks, .ahead true unitTree]) fun a k =>
      ∃ p b, RunOf text isDigit a p ∧ Trimmed text (a + least) p b ∧ RunOf text isBlank b k := by
  have hdigits : Node.Means text (.ofList [.digits least]) _ := Node.means_digits least
  refine (Node.Chooses.after_run hdigits chooses_noUnit isDigit least (fun _ _ => Iff.rfl)
    (.repeatedSet least none _) fun l x hx hdigit => ?_).of_iff fun a k => ?_
  · obtain ⟨k, hrun⟩ := exists_runOf text isBlank l
    exact ⟨k, not_unitBehind_digit hx hdigit, hrun⟩
  · have hnone {p} : (¬ ∃ k, ¬ UnitBehind text p ∧ RunOf text isBlank p k) ↔ UnitBehind text p := by
      obtain ⟨k, hrun⟩ := exists_runOf text isBlank p
      constructor
      · intro h
        by_contra hfree
        exact h ⟨k, hfree, hrun⟩
      · rintro hunit ⟨_, hfree, -⟩
        exact hfree hunit
    simp only [hnone]
    constructor
    · rintro ⟨p, b, hrun, hleast, ⟨hfree, hblanks⟩, rfl | hlast⟩
      · exact ⟨b, b, hrun, ⟨hleast, .inl ⟨hfree, rfl⟩⟩, hblanks⟩
      · exact ⟨p, b, hrun, ⟨hleast, .inr hlast⟩, hblanks⟩
    · rintro ⟨p, b, hrun, ⟨hleast, ⟨hfree, rfl⟩ | ⟨hunit, hlt, rfl⟩⟩, hblanks⟩
      · exact ⟨b, b, hrun, hleast, ⟨hfree, hblanks⟩, .inl rfl⟩
      · obtain ⟨x, hx, hdigit⟩ := hrun.1.2 b (by omega) (Nat.lt_succ_self b)
        exact ⟨b + 1, b, hrun, hleast, ⟨not_unitBehind_digit hx hdigit, hblanks⟩,
          .inr ⟨hunit, hlt, rfl⟩⟩

theorem runOf_dot (hall : AllBetween text isDigit a p) (hdot : text[p]? = some '.') :
    RunOf text isDigit a p :=
  hall.runOf ⟨'.', hdot, by decide⟩

theorem chooses_decimal :
    Node.Chooses text (.ofList ([.digits 1, .char (.of ['.']), .digits 1] ++
      [.blanks, .ahead true unitTree])) fun a k => ∃ p q b, a < p ∧ RunOf text isDigit a p ∧
        text[p]? = some '.' ∧ RunOf text isDigit (p + 1) q ∧ Trimmed text (p + 2) q b ∧
          RunOf text isBlank b k := by
  have hdigits : Node.Means text (.ofList [.digits 1]) _ := Node.means_digits 1
  have hdot : Node.Means text (.ofList [.char (.of ['.'])]) _ := Node.means_of ['.']
  have hfraction := Node.Chooses.after_only hdot (chooses_digits 1) (by
    rintro i j k j' k' ⟨_, -, -, rfl⟩ - ⟨_, -, -, rfl⟩ -
    rfl)
  refine (Node.Chooses.after_only hdigits hfraction ?_).of_iff fun a k => ?_
  · rintro i j k j' k' ⟨-, hall⟩ ⟨_, ⟨c, hc, hat, -⟩, -⟩ ⟨-, hall'⟩ ⟨_, ⟨c', hc', hat', -⟩, -⟩
    rw [List.mem_singleton.mp hc] at hat
    rw [List.mem_singleton.mp hc'] at hat'
    exact (runOf_dot hall hat).unique (runOf_dot hall' hat')
  · constructor
    · rintro ⟨p, ⟨hlt, hall⟩, _, ⟨c, hc, hat, rfl⟩, q, b, hrun, htrimmed, hblanks⟩
      rw [List.mem_singleton.mp hc] at hat
      exact ⟨p, q, b, hlt, runOf_dot hall hat, hat, hrun, htrimmed, hblanks⟩
    · rintro ⟨p, q, b, hlt, hrun, hat, hrun', htrimmed, hblanks⟩
      exact ⟨p, ⟨hlt, hrun.1⟩, p + 1, ⟨'.', List.mem_singleton_self _, hat, rfl⟩, q, b, hrun',
        htrimmed, hblanks⟩

def TakenNumber (text : Array Char) : Stretch := fun a k =>
  ∃ p e b, NumberAt text a p e ∧ TakenUpTo text a p e b ∧ RunOf text isBlank b k

theorem exists_numberAt (hrun : RunOf text isDigit a p) (hlt : a < p) :
    ∃ e, NumberAt text a p e := by
  by_cases hdecimal : text[p]? = some '.' ∧ ∃ c, text[p + 1]? = some c ∧ isDigit c = true
  · obtain ⟨hdot, hdigit⟩ := hdecimal
    obtain ⟨e, hrun'⟩ := exists_runOf text isDigit (p + 1)
    refine ⟨e, hlt, hrun, .inr ⟨hdot, Nat.lt_of_le_of_ne hrun'.1.1 ?_, hrun'⟩⟩
    rintro rfl
    exact hrun'.2 hdigit
  · exact ⟨p, hlt, hrun, .inl ⟨rfl, not_and.mp hdecimal⟩⟩

theorem chooses_number :
    Node.Chooses text
      (.ofList [.alt (.digits 3) (.ofList [.digits 1, .char (.of ['.']), .digits 1]), .blanks,
        .ahead true unitTree])
      (TakenNumber text) := by
  refine ((chooses_digits 3).either chooses_decimal.flatten).of_iff fun a k => ?_
  constructor
  · rintro (⟨p, b, hrun, htrimmed, hblanks⟩ |
      ⟨hnone, p, q, b, hlt, hrun, hdot, hrun', htrimmed, hblanks⟩)
    · have hlt : a < p := by
        have := htrimmed.1
        omega
      obtain ⟨e, hnumber⟩ := exists_numberAt hrun hlt
      exact ⟨p, e, b, hnumber, .inl htrimmed, hblanks⟩
    · have hshort : p < a + 3 := by
        by_contra hlong
        obtain ⟨k', hblanks'⟩ := exists_runOf text isBlank p
        exact hnone ⟨k', p, p, hrun, ⟨by omega, .inl ⟨not_unitBehind_dot hdot, rfl⟩⟩, hblanks'⟩
      have hq : p + 2 ≤ q := htrimmed.1
      exact ⟨p, q, b, ⟨hlt, hrun, .inr ⟨hdot, hq, hrun'⟩⟩, .inr ⟨hshort, by omega, htrimmed⟩,
        hblanks⟩
  · rintro ⟨p, e, b, ⟨hlt, hrun, hend⟩, htrimmed | ⟨hshort, hfraction, htrimmed⟩, hblanks⟩
    · exact .inl ⟨p, b, hrun, htrimmed, hblanks⟩
    · obtain ⟨rfl, -⟩ | ⟨hdot, -, hrun'⟩ := hend
      · omega
      · refine .inr ⟨?_, p, e, b, hlt, hrun, hdot, hrun', htrimmed, hblanks⟩
        rintro ⟨_, p', b', hrun', ⟨hlong, -⟩, -⟩
        obtain rfl := hrun.unique hrun'
        omega

-- ---------------------------------------------------------------------------
-- Numbers and what is taken of them
-- ---------------------------------------------------------------------------

theorem exists_trimmed : (∃ b, Trimmed text least p b) ↔
    least < p ∨ least = p ∧ ¬ UnitBehind text p := by
  constructor
  · rintro ⟨b, hle, ⟨hfree, -⟩ | ⟨-, hlt, -⟩⟩
    · exact (Nat.lt_or_eq_of_le hle).imp_right fun heq => ⟨heq, hfree⟩
    · exact .inl hlt
  · rintro (hlt | ⟨rfl, hfree⟩)
    · by_cases hunit : UnitBehind text p
      · exact ⟨p - 1, by omega, .inr ⟨hunit, hlt, by omega⟩⟩
      · exact ⟨p, by omega, .inl ⟨hunit, rfl⟩⟩
    · exact ⟨least, Nat.le_refl _, .inl ⟨hfree, rfl⟩⟩

theorem Trimmed.eq_iff (h : Trimmed text least p b) : b = p ↔ ¬ UnitBehind text p := by
  obtain ⟨-, ⟨hfree, rfl⟩ | ⟨hunit, -, rfl⟩⟩ := h
  · exact iff_of_true rfl hfree
  · exact iff_of_false (by omega) (not_not.mpr hunit)

theorem Trimmed.between (h : Trimmed text least p b) : least ≤ b ∧ b ≤ p := by
  obtain ⟨hle, ⟨-, rfl⟩ | ⟨-, hlt, rfl⟩⟩ := h
  · exact ⟨hle, Nat.le_refl _⟩
  · exact ⟨by omega, by omega⟩

namespace NumberAt

theorem le (h : NumberAt text a p e) : p ≤ e := by
  obtain ⟨-, -, ⟨rfl, -⟩ | ⟨-, hlt, -⟩⟩ := h
  · exact Nat.le_refl _
  · omega

theorem dot (h : NumberAt text a p e) (hlt : p < e) : text[p]? = some '.' ∧ p + 1 < e := by
  obtain ⟨-, -, ⟨rfl, -⟩ | ⟨hdot, hfraction, -⟩⟩ := h
  · omega
  · exact ⟨hdot, hfraction⟩

theorem unique (h : NumberAt text a p e) (h' : NumberAt text a p' e') : p = p' ∧ e = e' := by
  obtain ⟨-, hrun, hend⟩ := h
  obtain ⟨-, hrun', hend'⟩ := h'
  obtain rfl := hrun.unique hrun'
  refine ⟨rfl, ?_⟩
  have hdigit {e} (hlt : p + 1 < e) (hrun : RunOf text isDigit (p + 1) e) :
      ∃ c, text[p + 1]? = some c ∧ isDigit c = true := hrun.1.2 (p + 1) (Nat.le_refl _) hlt
  rcases hend with ⟨rfl, hinteger⟩ | ⟨hdot, hlt, hfraction⟩
  · rcases hend' with ⟨rfl, -⟩ | ⟨hdot, hlt, hfraction⟩
    · rfl
    · exact absurd (hdigit hlt hfraction) (hinteger hdot)
  · rcases hend' with ⟨rfl, hinteger⟩ | ⟨-, -, hfraction'⟩
    · exact absurd (hdigit hlt hfraction) (hinteger hdot)
    · exact hfraction.unique hfraction'

theorem numeric (h : NumberAt text a p e) (hk : a ≤ k) (hlt : k < e) :
    ∃ c, text[k]? = some c ∧ notNumeric c = false := by
  have hdigits {a p} (hrun : RunOf text isDigit a p) (hk : a ≤ k) (hlt : k < p) :
      ∃ c, text[k]? = some c ∧ notNumeric c = false := by
    obtain ⟨c, hc, hdigit⟩ := hrun.1.2 k hk hlt
    exact ⟨c, hc, by simp [notNumeric, hdigit]⟩
  obtain ⟨-, hrun, ⟨rfl, -⟩ | ⟨hdot, -, hrun'⟩⟩ := h
  · exact hdigits hrun hk hlt
  · obtain hinteger | rfl | hfraction := Nat.lt_trichotomy k p
    · exact hdigits hrun hk hinteger
    · exact ⟨'.', hdot, by decide⟩
    · exact hdigits hrun' hfraction hlt

/-- Something of a number is taken if it is long enough, without the digit that a unit costs. -/
theorem exists_takenUpTo (h : NumberAt text a p e) :
    (UnitBehind text e → ((∃ b, TakenUpTo text a p e b) ↔
      a + 3 < p ∨ p < e ∧ (a + 3 ≤ p ∨ p + 2 < e))) ∧
    (¬ UnitBehind text e → ((∃ b, TakenUpTo text a p e b) ↔ a + 3 ≤ p ∨ p < e)) := by
  have hdecimal (hlt : p < e) : ¬ UnitBehind text p ∧ p + 2 ≤ e :=
    ⟨not_unitBehind_dot (h.dot hlt).1, (h.dot hlt).2⟩
  have hle := h.le
  simp only [TakenUpTo, exists_or, exists_and_left, exists_trimmed]
  obtain rfl | hlt := Nat.eq_or_lt_of_le hle
  · constructor
    · intro hunit
      simp only [hunit, not_true_eq_false, and_false, or_false]
      omega
    · intro hfree
      simp only [hfree, not_false_eq_true, and_true]
      omega
  · obtain ⟨hdot, hlong⟩ := hdecimal hlt
    constructor
    · intro hunit
      simp only [hunit, hdot, not_true_eq_false, not_false_eq_true, and_false, and_true, or_false]
      omega
    · intro hfree
      simp only [hfree, hdot, not_false_eq_true, and_true]
      omega

end NumberAt

section TakenUpTo

variable (hnumber : NumberAt text a p e) (h : TakenUpTo text a p e b)

include hnumber h

theorem TakenUpTo.between : a < b ∧ b ≤ e := by
  have hle := hnumber.le
  rcases h with htrimmed | ⟨-, -, htrimmed⟩
  · have := htrimmed.between
    omega
  · have := htrimmed.between
    have := hnumber.1
    omega

theorem TakenUpTo.eq_iff : b = e ↔ ¬ UnitBehind text e ∧ (p = e ∨ p < a + 3) := by
  have hle := hnumber.le
  rcases h with htrimmed | ⟨hshort, -, htrimmed⟩
  · have hleast := htrimmed.1
    have hbetween := htrimmed.between
    by_cases heq : p = e
    · subst heq
      simp [htrimmed.eq_iff]
    · exact iff_of_false (by omega) fun ⟨_, hcases⟩ => by omega
  · simp [htrimmed.eq_iff, hshort]

end TakenUpTo

-- ---------------------------------------------------------------------------
-- Leading in to a number
-- ---------------------------------------------------------------------------

namespace LeadIn

/-- What leads in to a number starts with a character that is no part of a number and no blank. -/
theorem first (h : LeadIn text i a) : i < a ∧
    ∃ x, text[i]? = some x ∧ isBlank x = false ∧ notNumeric x = true := by
  obtain ⟨b, c, d, ⟨word, hmem, hword⟩, hblanks, hparen, hblanks'⟩ := h
  obtain ⟨hlt, hfirst⟩ := (conditionWords_apart word hmem).first hword
  refine ⟨?_, hfirst⟩
  have := hblanks.1
  have := hblanks'.1
  omega

theorem notNumeric (h : LeadIn text i a) : AllBetween text notNumeric i a := by
  obtain ⟨b, c, d, ⟨word, hmem, hword⟩, hblanks, hparen, hblanks'⟩ := h
  have hwords : ∀ word ∈ conditionWords, word.toList.all Rule.notNumeric = true := by
    decide
  have hparen : AllBetween text Rule.notNumeric c d := by
    rcases hparen with rfl | ⟨hc, rfl⟩
    · exact ⟨Nat.le_refl _, fun k hk hlt => by omega⟩
    · refine ⟨Nat.le_succ _, fun k hk hlt => ?_⟩
      obtain rfl : k = c := by omega
      exact ⟨'(', hc, by decide⟩
  have hbefore := (hword.allBetween (List.all_eq_true.mp (hwords word hmem))).trans
    (hblanks.imp fun _ hx => notNumeric_of_blank hx)
  exact (hbefore.trans hparen).trans (hblanks'.imp fun _ hx => notNumeric_of_blank hx)

end LeadIn

-- ---------------------------------------------------------------------------
-- The matcher
-- ---------------------------------------------------------------------------

theorem chooses_magicNumberTree :
    Node.Chooses text magicNumberTree (Relation.Comp (LeadIn text) (TakenNumber text)) := by
  refine Node.Chooses.after_only means_leadIn chooses_number ?_
  -- The number starts with the first digit behind the beginning of the condition.
  rintro i a k a' k' hlead ⟨p, e, _, hnumber, -⟩ hlead' ⟨p', e', _, hnumber', -⟩
  have hfirst {a p e} (h : NumberAt text a p e) : ∃ c, text[a]? = some c ∧ notNumeric c = false :=
    h.numeric (Nat.le_refl a) (Nat.lt_of_lt_of_le h.1 h.le)
  exact Nat.le_antisymm
    (hlead.notNumeric.le_of_other (hfirst hnumber') hlead'.notNumeric.1)
    (hlead'.notNumeric.le_of_other (hfirst hnumber) hlead.notNumeric.1)

theorem exists_magicNumberMatcher : ∃ matcher, builtinMatchers "CS-ERR130" = [matcher] ∧
    ∀ text, Takes matcher text (Relation.Comp (LeadIn text) (TakenNumber text)) :=
  exists_takes (by decide +kernel) rfl fun _ => chooses_magicNumberTree

/-- A match reaches over the first digit of a number in a condition exactly if something of that
number is taken. -/
theorem over_iff (h : Takes matcher text (Relation.Comp (LeadIn text) (TakenNumber text)))
    (hlead : LeadIn text i a) (hnumber : NumberAt text a p e) :
    (∃ m ∈ matcher.findAll text, m.start ≤ a ∧ a < m.stop) ↔ ∃ b, TakenUpTo text a p e b := by
  have hdigit : ∃ c, text[a]? = some c ∧ notNumeric c = false :=
    hnumber.numeric (Nat.le_refl a) (Nat.lt_of_lt_of_le hnumber.1 hnumber.le)
  constructor
  · rintro ⟨m, hm, hstart, hstop⟩
    obtain ⟨a', hlead', p', e', b', hnumber', htaken, hblanks, -⟩ := h.only m hm
    obtain ⟨-, hb'⟩ := TakenUpTo.between hnumber' htaken
    have hle : a' ≤ a := hlead'.notNumeric.le_of_other hdigit hstart
    have hlt : a < b' := by
      by_contra hout
      have hbehind := hblanks.imp fun _ hx => notNumeric_of_blank hx
      have := hbehind.le_of_other hdigit (by omega)
      omega
    -- The character before the number is part of what leads in to it.
    obtain rfl : a' = a := by
      by_contra hne
      have hbefore := hnumber'.numeric (show a' ≤ a - 1 by omega) (by omega)
      have := hlead.first.1
      have := hlead.notNumeric.le_of_other hbefore (by omega)
      omega
    obtain ⟨rfl, rfl⟩ := hnumber.unique hnumber'
    exact ⟨b', htaken⟩
  · rintro ⟨b, htaken⟩
    obtain ⟨k, hblanks⟩ := exists_runOf text isBlank b
    obtain ⟨m, hm, hstart, hstop⟩ := h.covers i k ⟨a, hlead, p, e, b, hnumber, htaken, hblanks⟩
    obtain ⟨hlt, x, hx, hblank, hx'⟩ := hlead.first
    refine ⟨m, hm, by omega, ?_⟩
    obtain ⟨a', hlead', p', e', b', hnumber', htaken', hblanks', -⟩ := h.only m hm
    have hbetween := TakenUpTo.between hnumber' htaken'
    -- The match began with something that leads in to a number and goes on to this one.
    have hbegins : i < a' := by
      by_contra hin
      by_cases hib : i < b'
      · obtain ⟨y, hy, hnumeric⟩ := hnumber'.numeric (show a' ≤ i by omega) (by omega)
        obtain rfl := Option.some.inj (hx.symm.trans hy)
        simp [hx'] at hnumeric
      · have := hblanks'.le_of_other ⟨x, hx, hblank⟩ (by omega)
        omega
    have hfirst := hnumber'.numeric (Nat.le_refl a') (by omega)
    have hle : a ≤ a' := hlead.notNumeric.le_of_other hfirst (by omega)
    have := hlead'.notNumeric.le_of_other hdigit (by omega)
    have := hblanks'.1
    omega

/-- Of a number in a condition, the digits are found that its unit or its fraction leaves, and
nothing if these are too few. -/
theorem magicNumber_finds (text : Array Char) :
    ∃ matcher, builtinMatchers "CS-ERR130" = [matcher] ∧
      (∀ m ∈ matcher.findAll text, ∃ a p e b, LeadIn text m.start a ∧ NumberAt text a p e ∧
        TakenUpTo text a p e b ∧ RunOf text isBlank b m.stop ∧
        (b = e ↔ ¬ UnitBehind text e ∧ (p = e ∨ p < a + 3))) ∧
      ∀ i a p e, LeadIn text i a → NumberAt text a p e →
        (UnitBehind text e → ((∃ m ∈ matcher.findAll text, m.start ≤ a ∧ a < m.stop) ↔
          a + 3 < p ∨ p < e ∧ (a + 3 ≤ p ∨ p + 2 < e))) ∧
        (¬ UnitBehind text e → ((∃ m ∈ matcher.findAll text, m.start ≤ a ∧ a < m.stop) ↔
          a + 3 ≤ p ∨ p < e)) := by
  obtain ⟨matcher, hmatchers, htakes⟩ := exists_magicNumberMatcher
  refine ⟨matcher, hmatchers, fun m hm => ?_, fun i a p e hlead hnumber => ?_⟩
  · obtain ⟨a, hlead, p, e, b, hnumber, htaken, hblanks⟩ := (htakes text).only m hm
    exact ⟨a, p, e, b, hlead, hnumber, htaken, hblanks, TakenUpTo.eq_iff hnumber htaken⟩
  · rw [over_iff (htakes text) hlead hnumber]
    exact hnumber.exists_takenUpTo

/-- A thousand pixels are found without the last digit, and of a decimal number of a hundred and a
half the hundred. -/
theorem magicNumber_shortened :
    (LeadIn "if (1000px)".toList.toArray 0 4 ∧ NumberAt "if (1000px)".toList.toArray 4 8 8 ∧
        UnitBehind "if (1000px)".toList.toArray 8 ∧
        spans (builtinMatchers "CS-ERR130") "if (1000px)" = [(0, 7)] ∧
        spans (builtinMatchers "CS-ERR130") "if (100px)" = []) ∧
      LeadIn "if (100.5)".toList.toArray 0 4 ∧ NumberAt "if (100.5)".toList.toArray 4 7 9 ∧
        spans (builtinMatchers "CS-ERR130") "if (100.5)" = [(0, 7)] := by
  have hlead (code : String) (hstands : Stands code.toList.toArray "if" 0 2)
      (hblank : AllBetween code.toList.toArray isBlank 2 3)
      (hparen : code.toList.toArray[3]? = some '(') : LeadIn code.toList.toArray 0 4 :=
    ⟨2, 3, 4, ⟨"if", by decide, hstands⟩, hblank, .inr ⟨hparen, rfl⟩, by decide,
      fun k hk hlt => by omega⟩
  have hthousand : NumberAt "if (1000px)".toList.toArray 4 8 8 :=
    ⟨by decide, by decide, .inl ⟨rfl, fun hdot => absurd hdot (by decide)⟩⟩
  have hunit : UnitBehind "if (1000px)".toList.toArray 8 :=
    ⟨8, by decide, "px", by decide, 10, by decide⟩
  have hdecimal : NumberAt "if (100.5)".toList.toArray 4 7 9 :=
    ⟨by decide, by decide, .inr ⟨rfl, by decide, by decide⟩⟩
  exact ⟨⟨hlead _ (by decide) (by decide) rfl, hthousand, hunit, by decide +kernel,
    by decide +kernel⟩, hlead _ (by decide) (by decide) rfl, hdecimal, by decide +kernel⟩

end CodeAudit.Rule
