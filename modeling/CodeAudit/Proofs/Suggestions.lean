import CodeAudit.Advice.Suggestion
import CodeAudit.Proofs.LineLookup
import CodeAudit.Proofs.Outcome
import CodeAudit.Proofs.Searching
import CodeAudit.Rule.Recognizer

/-!
# Suggestions that are due

A suggestion is made exactly if its occasion shows as often as its threshold asks for, and at least
once, while nothing shows that it is followed already. A threshold of zero or below therefore asks
for one match all the same. Whether a suggestion is due depends on its own rule only, so a higher
threshold can take away the suggestion of its rule and nothing else (`suggest_exact`).
-/

namespace CodeAudit.Advice

open CodeAudit.Regex (Match slice)
open CodeAudit.Rule (Matcher pattern)
open CodeAudit.Source (Buffer LineIndex)

variable {code : String} {buffer : Buffer} {rule : SuggestionRule}

-- ---------------------------------------------------------------------------
-- Rules that are due
-- ---------------------------------------------------------------------------

namespace SuggestionRule

def countIn (rule : SuggestionRule) (code : String) : Nat :=
  rule.detector.count (Buffer.ofString code).text

structure Due (rule : SuggestionRule) (code : String) : Prop where
  often : max 1 rule.threshold ≤ rule.countIn code
  unadopted : ∀ m ∈ rule.adopted, m.Misses (Buffer.ofString code).text

theorem due_iff : rule.Due code ↔ max 1 rule.threshold ≤ rule.countIn code ∧
    rule.adopted.any (showsIn (Buffer.ofString code)) = false := by
  have hadopted : (∀ m ∈ rule.adopted, m.Misses (Buffer.ofString code).text) ↔
      rule.adopted.any (showsIn (Buffer.ofString code)) = false := by
    cases rule.adopted with
    | none => simp
    | some m => simp [Matcher.misses_iff, showsIn]
  exact ⟨fun h => ⟨h.often, hadopted.mp h.unadopted⟩, fun h => ⟨h.1, hadopted.mpr h.2⟩⟩

instance (rule : SuggestionRule) (code : String) : Decidable (rule.Due code) :=
  decidable_of_iff _ due_iff.symm

theorem due_raised {raised : Int} (h : rule.threshold ≤ raised) :
    Due { rule with threshold := raised } code ↔ rule.Due code ∧ raised ≤ rule.countIn code := by
  constructor
  · intro hdue
    have hoften : max 1 raised ≤ rule.countIn code := hdue.often
    exact ⟨⟨by omega, hdue.unadopted⟩, by omega⟩
  · rintro ⟨hdue, hmany⟩
    have hoften : max 1 raised ≤ rule.countIn code := by
      have := hdue.often
      omega
    exact ⟨hoften, hdue.unadopted⟩

end SuggestionRule

-- ---------------------------------------------------------------------------
-- What is suggested
-- ---------------------------------------------------------------------------

/-- What the code does now, as the first of `count` matches shows it: the stretch of the code that
the match covers, and the line that the newlines before it count. -/
def currentAt (code : String) (count : Nat) (first : Match) : CurrentApproach where
  name := "Current Implementation"
  description := "Found " ++ toString count ++ " instance(s) of this pattern"
  codeSample := String.ofList ((code.toList.drop first.start).take (first.stop - first.start))
  line := some (1 + (code.toList.take first.start).count '\n')

theorem currentAt_eq (code : String) (count : Nat) (first : Match) :
    { name := "Current Implementation"
      description := "Found " ++ toString count ++ " instance(s) of this pattern"
      codeSample := first.text (Buffer.ofString code).text
      line := some ((Buffer.ofString code).index.lineOf first.start) } =
      currentAt code count first := by
  have htext : first.text (Buffer.ofString code).text =
      String.ofList ((code.toList.drop first.start).take (first.stop - first.start)) := by
    simp [Match.text, slice, Buffer.ofString]
  rw [htext, Buffer.ofString, LineIndex.lineOf_eq, Nat.add_comm]
  rfl

def SuggestionRule.suggestion (rule : SuggestionRule) (code : String) (count : Nat)
    (first : Match) : Suggestion where
  id := rule.id
  title := rule.title
  level := rule.level
  priority := priorityFor count
  occurrences := count
  current := currentAt code count first
  suggested := rule.approach
  plan := rule.plan

theorem due?_eq (rule : SuggestionRule) (code : String) :
    rule.due? (Buffer.ofString code) =
      if rule.Due code then
        (rule.detector.findAll (Buffer.ofString code).text).head?.map
          (rule.suggestion code (rule.countIn code))
      else none := by
  rw [SuggestionRule.due?]
  cases hfound : rule.detector.findAll (Buffer.ofString code).text with
  | nil => simp
  | cons first rest =>
    have hcount : rule.countIn code = (first :: rest).length := by
      rw [SuggestionRule.countIn, Matcher.count, hfound]
    have hdue : rule.Due code ↔ ¬ ((first :: rest).length < rule.threshold ||
        rule.adopted.any (showsIn (Buffer.ofString code))) = true := by
      rw [SuggestionRule.due_iff, hcount, Bool.or_eq_true, not_or, Bool.not_eq_true,
        Bool.not_eq_true, decide_eq_false_iff_not, List.length_cons]
      refine and_congr_left fun _ => ?_
      omega
    rw [hcount, List.head?_cons, Option.map_some]
    simp only [currentAt_eq]
    by_cases h : rule.Due code
    · rw [if_pos h]
      exact if_neg (hdue.mp h)
    · rw [if_neg h]
      exact if_pos (not_not.mp (mt hdue.mpr h))

/-- What is suggested for a code by a rule that is due: what the rule says, how often its occasion
shows and a priority for that, and the first of the matches as an example. -/
structure Suggested (code : String) (rule : SuggestionRule) (s : Suggestion) : Prop where
  id : s.id = rule.id
  title : s.title = rule.title
  level : s.level = rule.level
  suggested : s.suggested = rule.approach
  plan : s.plan = rule.plan
  occurrences : s.occurrences = rule.countIn code
  high : s.priority = "high" ↔ 5 ≤ rule.countIn code
  medium : s.priority = "medium" ↔ rule.countIn code = 3 ∨ rule.countIn code = 4
  low : s.priority = "low" ↔ rule.countIn code ≤ 2
  current : ∃ first rest, rule.detector.findAll (Buffer.ofString code).text = first :: rest ∧
    s.current = currentAt code (rule.countIn code) first

theorem priorityFor_iff (count : Nat) :
    (priorityFor count = "high" ↔ 5 ≤ count) ∧
      (priorityFor count = "medium" ↔ count = 3 ∨ count = 4) ∧
      (priorityFor count = "low" ↔ count ≤ 2) := by
  unfold priorityFor
  by_cases hmany : 5 ≤ count
  · simp [hmany]
    omega
  · by_cases hsome : 3 ≤ count
    · simp [hmany, hsome]
      omega
    · simp [hmany, hsome]
      omega

theorem due?_suggested (h : rule.Due code) :
    ∃ s, rule.due? (Buffer.ofString code) = some s ∧ Suggested code rule s := by
  obtain ⟨first, rest, hfound⟩ :
      ∃ first rest, rule.detector.findAll (Buffer.ofString code).text = first :: rest := by
    refine List.exists_cons_of_length_pos ?_
    have hoften : max 1 rule.threshold ≤ rule.countIn code := h.often
    rw [SuggestionRule.countIn, Matcher.count] at hoften
    omega
  obtain ⟨hhigh, hmedium, hlow⟩ := priorityFor_iff (rule.countIn code)
  rw [due?_eq, if_pos h, hfound]
  exact ⟨_, rfl, rfl, rfl, rfl, rfl, rfl, rfl, hhigh, hmedium, hlow, first, rest, hfound, rfl⟩

/-- A higher threshold keeps the suggestion of a rule only if it occurs as often as is asked for
now. -/
theorem due?_raised {raised : Int} (h : rule.threshold ≤ raised) (code : String) :
    SuggestionRule.due? (Buffer.ofString code) { rule with threshold := raised } =
      (rule.due? (Buffer.ofString code)).filter (raised ≤ ·.occurrences) := by
  have hkept (found : Option Match) :
      (found.map (rule.suggestion code (rule.countIn code))).filter (raised ≤ ·.occurrences) =
        if raised ≤ rule.countIn code then found.map (rule.suggestion code (rule.countIn code))
        else none := by
    cases found with
    | none => simp
    | some first =>
      simp only [Option.map_some, Option.filter_some, decide_eq_true_eq]
      rfl
  rw [due?_eq, due?_eq]
  simp only [SuggestionRule.due_raised h, ite_and]
  split
  · exact (hkept _).symm
  · rfl

theorem suggest_around (before after : List SuggestionRule) (rule : SuggestionRule)
    (buffer : Buffer) : suggest (before ++ rule :: after) buffer =
      suggest before buffer ++ (rule.due? buffer).toList ++ suggest after buffer := by
  simp only [suggest, List.filterMap_append, List.filterMap_cons, List.append_assoc]
  cases rule.due? buffer <;> rfl

/-- The suggestions for a code are one for each rule that is due, in the order of the table, and
each is as it should be. If the threshold of a rule is raised, the suggestion of this rule stays as
it is or goes, by how often it occurs, and all others stay. -/
theorem suggest_exact (rules : List SuggestionRule) (code : String) :
    let buffer := Buffer.ofString code
    List.Forall₂ (Suggested code) (rules.filter (·.Due code)) (suggest rules buffer) ∧
    ∀ before rule after raised, rules = before ++ rule :: after → rule.threshold ≤ raised →
      ∃ own : Option Suggestion,
        suggest rules buffer = suggest before buffer ++ own.toList ++ suggest after buffer ∧
        suggest (before ++ { rule with threshold := raised } :: after) buffer =
          suggest before buffer ++ (own.filter (raised ≤ ·.occurrences)).toList ++
            suggest after buffer := by
  intro buffer
  constructor
  · refine forall₂_filterMap (fun rule _ hdue => ?_) fun rule _ hnot => ?_
    · exact due?_suggested (of_decide_eq_true hdue)
    · rw [due?_eq, if_neg (of_decide_eq_false hnot)]
  · rintro before rule after raised rfl h
    refine ⟨rule.due? buffer, suggest_around before after rule buffer, ?_⟩
    rw [suggest_around, due?_raised h]

def bareRule (id source : String) (threshold : Int) : SuggestionRule where
  id := id
  title := ""
  level := "design"
  detector := pattern source
  approach := { name := "" }
  plan := { kind := "add" }
  threshold := threshold

/-- A threshold below one does not make a suggestion without a match, and one that is raised above
the number of matches takes the suggestion away. -/
theorem suggest_exact_raised :
    let never := bareRule "S-1" "z" (-1)
    let twice := bareRule "S-2" "a" 0
    let once := bareRule "S-3" "b" 1
    let buffer := Buffer.ofString "b\n a a"
    twice.threshold ≤ 3 ∧
      (suggest [never, twice, once] buffer).map (·.id) = ["S-2", "S-3"] ∧
      (suggest [never, { twice with threshold := 3 }, once] buffer).map (·.id) = ["S-3"] ∧
      ∃ own : Option Suggestion,
        suggest [never, twice, once] buffer =
          suggest [never] buffer ++ own.toList ++ suggest [once] buffer ∧
        suggest [never, { twice with threshold := 3 }, once] buffer =
          suggest [never] buffer ++ (own.filter (3 ≤ ·.occurrences)).toList ++
            suggest [once] buffer := by
  intro never twice once buffer
  have hraised : twice.threshold ≤ 3 := by decide
  refine ⟨hraised, by decide +kernel, by decide +kernel, ?_⟩
  exact (suggest_exact [never, twice, once] "b\n a a").2 [never] twice [once] 3 rfl hraised

end CodeAudit.Advice
