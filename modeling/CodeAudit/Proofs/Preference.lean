import CodeAudit.Proofs.Meaning
import CodeAudit.Proofs.Scanning
import Mathlib.Data.List.Basic
import Mathlib.Data.Nat.Find

/-!
# Which outcome is preferred

Of all that a tree can lead to, a match is what is tried first. `Node.Chooses` says which stretch
that is. It is put together from the order in which the parts of the tree try their places: a greedy
repetition goes far first, a reluctant one stays near, alternatives are tried one after the other.
A matcher whose tree chooses a stretch takes such stretches and no others (`Takes`).
-/

namespace CodeAudit.Regex

variable {text : Array Char}

def Match.span (m : Match) : Nat × Nat := (m.start, m.stop)

-- ---------------------------------------------------------------------------
-- Runs of characters
-- ---------------------------------------------------------------------------

/-- Characters of a kind up to the first one of another kind. -/
def RunOf (text : Array Char) (kind : Char → Bool) : Stretch := fun i j =>
  AllBetween text kind i j ∧ ¬ ∃ c, text[j]? = some c ∧ kind c = true

instance : Decidable (RunOf text kind i j) :=
  decidable_of_iff (AllBetween text kind i j ∧ ¬ text[j]?.any kind = true) (by
    rw [RunOf, Option.any_eq_true])

theorem exists_runOf (text : Array Char) (kind : Char → Bool) (i : Nat) :
    ∃ j, RunOf text kind i j :=
  exists_between text kind i

theorem RunOf.le (h : RunOf text kind i j) (hall : AllBetween text kind i k) : k ≤ j := by
  by_contra hlt
  exact h.2 (hall.2 j h.1.1 (by omega))

theorem RunOf.unique : Relator.RightUnique (RunOf text kind) := fun _ _ _ h h' =>
  Nat.le_antisymm (h'.le h.1) (h.le h'.1)

theorem AllBetween.take (h : AllBetween text kind i k) (hij : i ≤ j) (hjk : j ≤ k) :
    AllBetween text kind i j :=
  ⟨hij, fun l hl hlt => h.2 l hl (by omega)⟩

theorem AllBetween.drop (h : AllBetween text kind i k) (hij : i ≤ j) (hjk : j ≤ k) :
    AllBetween text kind j k :=
  ⟨hjk, fun l hl hlt => h.2 l (by omega) hlt⟩

theorem AllBetween.trans (h : AllBetween text kind i j) (h' : AllBetween text kind j k) :
    AllBetween text kind i k :=
  ⟨Nat.le_trans h.1 h'.1, fun l hl hlt =>
    if hlj : l < j then h.2 l hl hlj else h'.2 l (by omega) hlt⟩

theorem AllBetween.le_of_other (h : AllBetween text kind i j)
    (hother : ∃ c, text[k]? = some c ∧ kind c = false) (hk : i ≤ k) : j ≤ k := by
  by_contra hlt
  obtain ⟨c, hc, hkind⟩ := hother
  obtain ⟨c', hc', hkind'⟩ := h.2 k hk (by omega)
  obtain rfl := Option.some.inj (hc.symm.trans hc')
  exact Bool.eq_false_iff.mp hkind hkind'

theorem AllBetween.runOf (h : AllBetween text kind i j)
    (hother : ∃ c, text[j]? = some c ∧ kind c = false) : RunOf text kind i j := by
  refine ⟨h, ?_⟩
  rintro ⟨c, hc, hkind⟩
  obtain ⟨c', hc', hkind'⟩ := hother
  obtain rfl := Option.some.inj (hc.symm.trans hc')
  exact Bool.eq_false_iff.mp hkind' hkind

/-- Characters of a kind come to an end where a string starts with a character of another kind. -/
theorem AllBetween.upTo (h : AllBetween text kind i j) (hs : Stands text s j k)
    (hfirst : ∃ c ∈ s.toList[0]?, kind c = false) : RunOf text kind i j := by
  obtain ⟨c, hc, hkind⟩ := hfirst
  exact h.runOf ⟨c, hs.char hc, hkind⟩

def FirstOf (r : Stretch) : Stretch := fun i k =>
  ∃ j, i ≤ j ∧ r j k ∧ ∀ l, i ≤ l → l < j → ¬ ∃ k, r l k

theorem exists_firstOf {r : Stretch} (hle : i ≤ j) (h : r j k) :
    ∃ k', FirstOf r i k' := by
  classical
  have hsome : ∃ j, i ≤ j ∧ ∃ k, r j k := ⟨j, hle, k, h⟩
  obtain ⟨hfrom, k', hr⟩ := Nat.find_spec hsome
  refine ⟨k', Nat.find hsome, hfrom, hr, fun l hl hlt hearlier => ?_⟩
  exact Nat.find_min hsome hlt ⟨hl, hearlier⟩

theorem FirstOf.unique {r : Stretch} (honly : Relator.RightUnique r) :
    Relator.RightUnique (FirstOf r) := by
  rintro i k k' ⟨j, hj, hr, hfirst⟩ ⟨j', hj', hr', hfirst'⟩
  obtain hlt | rfl | hgt := Nat.lt_trichotomy j j'
  · exact absurd ⟨k, hr⟩ (hfirst' j hj hlt)
  · exact honly hr hr'
  · exact absurd ⟨k', hr'⟩ (hfirst j' hj' hgt)

theorem firstOf_stands (hle : i ≤ j) (h : Stands text s j k)
    (hnone : ∀ l, i ≤ l → l < j → ¬ Stands text s l (l + s.length)) :
    FirstOf (Stands text s) i k :=
  ⟨j, hle, h, fun l hl hlt ⟨_, hstands⟩ => hnone l hl hlt (hstands.2 ▸ hstands)⟩

/-- The first of several things that stands at a place at all. -/
def FirstAmong (choices : List α) (r : α → Stretch) : Stretch := fun i k =>
  ∃ before x after, choices = before ++ x :: after ∧ r x i k ∧ ∀ y ∈ before, ¬ ∃ k, r y i k

section FirstAmong

variable {α : Type*} {choices : List α} {r : α → Stretch}

theorem FirstAmong.mem (h : FirstAmong choices r i k) : ∃ x ∈ choices, r x i k := by
  obtain ⟨before, x, after, rfl, hr, -⟩ := h
  exact ⟨x, by simp, hr⟩

theorem firstAmong_cons : FirstAmong (x :: choices) r i k ↔
    r x i k ∨ (¬ ∃ k, r x i k) ∧ FirstAmong choices r i k := by
  constructor
  · rintro ⟨before, y, after, hsplit, hr, hbefore⟩
    rcases List.cons_eq_append_iff.mp hsplit with ⟨rfl, heq⟩ | ⟨before, rfl, rfl⟩
    · obtain ⟨rfl, rfl⟩ := List.cons.inj heq
      exact .inl hr
    · obtain ⟨hx, hbefore⟩ := List.forall_mem_cons.mp hbefore
      exact .inr ⟨hx, before, y, after, rfl, hr, hbefore⟩
  · rintro (hr | ⟨hx, before, y, after, rfl, hr, hbefore⟩)
    · exact ⟨[], x, choices, rfl, hr, by simp⟩
    · exact ⟨x :: before, y, after, rfl, hr, List.forall_mem_cons.mpr ⟨hx, hbefore⟩⟩

theorem firstAmong_singleton : FirstAmong [x] r i k ↔ r x i k := by
  refine ⟨fun h => ?_, fun hr => firstAmong_cons.mpr (.inl hr)⟩
  obtain ⟨y, hy, hr⟩ := h.mem
  exact List.mem_singleton.mp hy ▸ hr

theorem exists_firstAmong (hmem : x ∈ choices) (hr : r x i k) :
    ∃ k', FirstAmong choices r i k' := by
  induction choices with
  | nil => cases hmem
  | cons y choices ih =>
    simp only [firstAmong_cons]
    by_cases hy : ∃ k, r y i k
    · exact hy.imp fun _ => .inl
    · rcases List.mem_cons.mp hmem with rfl | hmem
      · exact absurd ⟨k, hr⟩ hy
      · exact (ih hmem).imp fun _ hfirst => .inr ⟨hy, hfirst⟩

/-- If all of them end at the same place, it does not matter which one is the first. -/
theorem firstAmong_iff (honly : ∀ x ∈ choices, ∀ y ∈ choices, ∀ k k', r x i k → r y i k' → k = k') :
    FirstAmong choices r i k ↔ ∃ x ∈ choices, r x i k := by
  refine ⟨FirstAmong.mem, ?_⟩
  rintro ⟨x, hx, hr⟩
  obtain ⟨k', hfirst⟩ := exists_firstAmong hx hr
  obtain ⟨y, hy, hr'⟩ := hfirst.mem
  obtain rfl := honly x hx y hy k k' hr hr'
  exact hfirst

end FirstAmong

-- ---------------------------------------------------------------------------
-- Orders of trying
-- ---------------------------------------------------------------------------

namespace Node

/-- Of the places that a tree leads to, the ones further away are tried first. -/
def PrefersFar (text : Array Char) (node : Node) : Prop :=
  ∀ i marks, (outcomes text node i marks).Pairwise fun o o' => o'.1 ≤ o.1

/-- Of the places that a tree leads to, the ones less far away are tried first. -/
def PrefersNear (text : Array Char) (node : Node) : Prop :=
  ∀ i marks, (outcomes text node i marks).Pairwise fun o o' => o.1 ≤ o'.1

theorem PrefersFar.repeatedSet (min : Nat) (max : Option Nat) (set : Charset) :
    Node.PrefersFar text (.repeated .greedy min max (.char set)) := by
  intro i marks
  simp only [outcomes, setEnds]
  split
  · exact .nil
  · rw [List.pairwise_map, List.pairwise_map, List.pairwise_reverse]
    refine List.pairwise_lt_range.imp fun hlt => ?_
    show i + min + _ ≤ i + min + _
    omega

theorem PrefersNear.repeatedSet (min : Nat) (max : Option Nat) (set : Charset) :
    Node.PrefersNear text (.repeated .reluctant min max (.char set)) := by
  intro i marks
  simp only [outcomes, setEnds]
  split
  · exact .nil
  · rw [List.pairwise_map, List.pairwise_map]
    refine List.pairwise_lt_range.imp fun hlt => ?_
    show i + min + _ ≤ i + min + _
    omega

theorem PrefersFar.behind_chars {node : Node} (h : node.PrefersFar text) (sets : List Charset) :
    (Node.ofList (sets.map .char ++ [node])).PrefersFar text := by
  induction sets with
  | nil => exact h
  | cons set sets ih =>
    intro i marks
    obtain ⟨next, rest, hnodes⟩ : ∃ next rest, sets.map Node.char ++ [node] = next :: rest :=
      List.exists_cons_of_ne_nil (by simp)
    simp only [List.map_cons, List.cons_append, hnodes, Node.ofList, outcomes] at ih ⊢
    split
    · simpa using ih (i + 1) marks
    · exact .nil

theorem PrefersFar.head? {node : Node} (h : node.PrefersFar text)
    (ho : o ∈ outcomes text node i marks) :
    ∃ o', (outcomes text node i marks).head? = some o' ∧ o.1 ≤ o'.1 := by
  have hfar := h i marks
  cases houtcomes : outcomes text node i marks with
  | nil => simp [houtcomes] at ho
  | cons first rest =>
    rw [houtcomes] at ho hfar
    refine ⟨first, rfl, ?_⟩
    rcases List.mem_cons.mp ho with rfl | ho
    · exact Nat.le_refl _
    · exact (List.pairwise_cons.mp hfar).1 o ho

end Node

-- ---------------------------------------------------------------------------
-- The preferred outcome
-- ---------------------------------------------------------------------------

/-- What a tree leads to first is a stretch, and what groups recorded is left alone. -/
def Node.Chooses (text : Array Char) (node : Node) (r : Stretch) : Prop :=
  ∀ i marks o, (outcomes text node i marks).head? = some o ↔ r i o.1 ∧ o.2 = marks

theorem outcomes_ofList_append (text : Array Char) (front back : List Node) (i : Nat)
    (marks : Marks) :
    outcomes text (.ofList (front ++ back)) i marks =
      (outcomes text (.ofList front) i marks).flatMap fun o =>
        outcomes text (.ofList back) o.1 o.2 := by
  -- The induction is on how a sequence is folded up: its last node has no `seq` around it.
  fun_induction Node.ofList front generalizing i marks with
  | case1 => simp [outcomes]
  | case2 a => cases back <;> simp [Node.ofList, outcomes]
  | case3 a rest hrest ih =>
    obtain ⟨b, rest, rfl⟩ := List.exists_cons_of_ne_nil hrest
    simp only [List.cons_append, Node.ofList, outcomes] at ih ⊢
    simp only [ih, List.flatMap_assoc]

/-- A sequence leads first to where its second part leads first, from the first place at which the
first part arrives and from which the second part leads anywhere. -/
theorem head?_ofList_append : (outcomes text (.ofList (front ++ back)) i marks).head? = some o ↔
    ∃ before o' after, outcomes text (.ofList front) i marks = before ++ o' :: after ∧
      (outcomes text (.ofList back) o'.1 o'.2).head? = some o ∧
      ∀ x ∈ before, (outcomes text (.ofList back) x.1 x.2).head? = none := by
  rw [outcomes_ofList_append, List.head?_flatMap, List.findSome?_eq_some_iff]

namespace Node.Chooses

variable {r r' : Stretch} {front back : List Node}

theorem of_iff (h : Node.Chooses text node r) (hiff : ∀ i j, r i j ↔ r' i j) :
    Node.Chooses text node r' := by
  intro i marks o
  rw [h, hiff]

/-- For a stretch that has only one end, it is enough that what is tried first is such a stretch and
that anything is tried where there is one. -/
theorem of_head? (honly : Relator.RightUnique r)
    (hsound : ∀ i marks o, (outcomes text node i marks).head? = some o → r i o.1 ∧ o.2 = marks)
    (hsome : ∀ i marks j, r i j → outcomes text node i marks ≠ []) : Node.Chooses text node r := by
  intro i marks o
  refine ⟨hsound i marks o, ?_⟩
  rintro ⟨hr, hmarks⟩
  have hne := hsome i marks _ hr
  cases hhead : (outcomes text node i marks).head? with
  | none => exact absurd (List.head?_eq_none_iff.mp hhead) hne
  | some first =>
    obtain ⟨hr', hmarks'⟩ := hsound i marks first hhead
    exact congrArg some (Prod.ext (honly hr' hr) (hmarks'.trans hmarks.symm))

theorem of_means (h : Node.Means text node r) (honly : Relator.RightUnique r) :
    Node.Chooses text node r := by
  refine .of_head? honly (fun i marks o hhead => ?_) fun i marks j hr => ?_
  · exact (h i marks o).mp (List.mem_of_mem_head? hhead)
  · exact List.ne_nil_of_mem ((h i marks (j, marks)).mpr ⟨hr, rfl⟩)

theorem ne_nil_iff (h : Node.Chooses text node r) (marks : Marks) :
    outcomes text node i marks ≠ [] ↔ ∃ j, r i j := by
  constructor
  · intro hne
    obtain ⟨o, hhead⟩ := Option.ne_none_iff_exists'.mp (mt List.head?_eq_none_iff.mp hne)
    exact ⟨o.1, ((h i marks o).mp hhead).1⟩
  · rintro ⟨j, hr⟩ hnil
    have hhead := (h i marks (j, marks)).mpr ⟨hr, rfl⟩
    simp [hnil] at hhead

theorem unique (h : Node.Chooses text node r) : Relator.RightUnique r := by
  intro i j k hj hk
  have hsome := (h i (.blank 0) (j, .blank 0)).mpr ⟨hj, rfl⟩
  have hsome' := (h i (.blank 0) (k, .blank 0)).mpr ⟨hk, rfl⟩
  exact congrArg Prod.fst (Option.some.inj (hsome.symm.trans hsome'))

section Sequence

variable (hfront : Node.Means text (.ofList front) r) (hback : Node.Chooses text (.ofList back) r')

include hfront hback

theorem append_ne_nil (hr : r i j) (hr' : r' j k) (marks : Marks) :
    outcomes text (.ofList (front ++ back)) i marks ≠ [] := by
  have hmem : (j, marks) ∈ outcomes text (.ofList front) i marks := (hfront i marks _).mpr ⟨hr, rfl⟩
  rw [outcomes_ofList_append, ne_eq, List.flatMap_eq_nil_iff]
  exact fun hnil => (hback.ne_nil_iff marks).mpr ⟨k, hr'⟩ (hnil _ hmem)

/-- If the second part leads anywhere from only one of the places at which the first part arrives,
it does not matter in which order these are tried. -/
theorem after_only (honly : ∀ i j k j' k', r i j → r' j k → r i j' → r' j' k' → j = j') :
    Node.Chooses text (.ofList (front ++ back)) (Relation.Comp r r') := by
  refine .of_head? ?_ (fun i marks o hhead => ?_) ?_
  · rintro i k k' ⟨j, hr, hr'⟩ ⟨j', hj', hk'⟩
    obtain rfl := honly i j k j' k' hr hr' hj' hk'
    exact hback.unique hr' hk'
  · obtain ⟨before, o', after, hsplit, hfirst, -⟩ := head?_ofList_append.mp hhead
    obtain ⟨hr, hmarks⟩ := (hfront i marks o').mp (by simp [hsplit])
    obtain ⟨hr', hmarks'⟩ := (hback _ _ o).mp hfirst
    exact ⟨⟨o'.1, hr, hr'⟩, hmarks'.trans hmarks⟩
  · rintro i marks k ⟨j, hr, hr'⟩
    exact append_ne_nil hfront hback hr hr' marks

/-- With an order in which the places are tried, the second part starts from the first place that
leads anywhere. -/
theorem after_ordered (earlier : Nat → Nat → Prop) (hirrefl : ∀ j, ¬ earlier j j)
    (htotal : ∀ j k, earlier j k ∨ j = k ∨ earlier k j)
    (horder : ∀ i marks, (outcomes text (.ofList front) i marks).Pairwise fun o o' =>
      ¬ earlier o'.1 o.1) :
    Node.Chooses text (.ofList (front ++ back)) fun i k =>
      ∃ j, r i j ∧ r' j k ∧ ∀ l, r i l → earlier l j → ¬ ∃ k, r' l k := by
  refine .of_head? ?_ (fun i marks o hhead => ?_) ?_
  · rintro i k k' ⟨j, hr, hr', hfirst⟩ ⟨j', hj', hk', hfirst'⟩
    obtain hlt | rfl | hgt := htotal j j'
    · exact absurd ⟨k, hr'⟩ (hfirst' j hr hlt)
    · exact hback.unique hr' hk'
    · exact absurd ⟨k', hk'⟩ (hfirst j' hj' hgt)
  · obtain ⟨before, o', after, hsplit, hfirst, hbefore⟩ := head?_ofList_append.mp hhead
    obtain ⟨hr, hmarks⟩ := (hfront i marks o').mp (by simp [hsplit])
    obtain ⟨hr', hmarks'⟩ := (hback _ _ o).mp hfirst
    refine ⟨⟨o'.1, hr, hr', fun l hl hearlier hsome => ?_⟩, hmarks'.trans hmarks⟩
    -- From what was tried before, the second part leads nowhere, and the rest is not earlier.
    have hmem : (l, marks) ∈ outcomes text (.ofList front) i marks :=
      (hfront i marks _).mpr ⟨hl, rfl⟩
    have hpairs := horder i marks
    rw [hsplit] at hmem hpairs
    rcases List.mem_append.mp hmem with hmem | hmem
    · exact (hback.ne_nil_iff marks).mpr hsome (List.head?_eq_none_iff.mp (hbefore _ hmem))
    · rcases List.mem_cons.mp hmem with rfl | hmem
      · exact hirrefl l hearlier
      · exact (List.pairwise_cons.mp (List.pairwise_append.mp hpairs).2.1).1 _ hmem hearlier
  · rintro i marks k ⟨j, hr, hr', -⟩
    exact append_ne_nil hfront hback hr hr' marks

theorem after_near (hnear : Node.PrefersNear text (.ofList front)) :
    Node.Chooses text (.ofList (front ++ back)) fun i k =>
      ∃ j, r i j ∧ r' j k ∧ ∀ l, r i l → l < j → ¬ ∃ k, r' l k :=
  after_ordered hfront hback (· < ·) Nat.lt_irrefl Nat.lt_trichotomy fun i marks =>
    (hnear i marks).imp Nat.not_lt.mpr

/-- Behind a part that goes far, the second part starts as late as it can. -/
theorem after_far (hfar : Node.PrefersFar text (.ofList front)) :
    Node.Chooses text (.ofList (front ++ back)) fun i k =>
      ∃ j, r i j ∧ r' j k ∧ ∀ l, r i l → j < l → ¬ ∃ k, r' l k :=
  after_ordered hfront hback (fun j k => k < j) Nat.lt_irrefl
    (fun j k => by omega) fun i marks => (hfar i marks).imp Nat.not_lt.mpr

/-- Behind a run, something that can start everywhere inside it starts at its end. If it cannot
start there, one character of the run is given back. -/
theorem after_run (kind : Char → Bool) (n : Nat)
    (hr : ∀ i j, r i j ↔ i + n ≤ j ∧ AllBetween text kind i j)
    (hfar : Node.PrefersFar text (.ofList front))
    (hinside : ∀ l c, text[l]? = some c → kind c = true → ∃ k, r' l k) :
    Node.Chooses text (.ofList (front ++ back)) fun i k =>
      ∃ p b, RunOf text kind i p ∧ i + n ≤ p ∧ r' b k ∧
        (b = p ∨ (¬ ∃ k, r' p k) ∧ i + n < p ∧ b + 1 = p) := by
  refine (after_far hfront hback hfar).of_iff fun i k => ?_
  simp only [hr]
  obtain ⟨p, hrun⟩ := exists_runOf text kind i
  have hbefore {l} (hl : i ≤ l) (hlt : l < p) : ∃ k, r' l k := by
    obtain ⟨c, hc, hkind⟩ := hrun.1.2 l hl hlt
    exact hinside l c hc hkind
  constructor
  · rintro ⟨b, ⟨hmin, hall⟩, hb, hlast⟩
    have hle : b ≤ p := hrun.le hall
    refine ⟨p, b, hrun, by omega, hb, ?_⟩
    by_cases heq : b = p
    · exact .inl heq
    · -- More than one character is never given back: the second part starts anywhere in the run.
      refine .inr ⟨hlast p ⟨by omega, hrun.1⟩ (by omega), by omega, ?_⟩
      by_contra hne
      refine hlast (b + 1) ⟨by omega, hrun.1.take ?_ (by omega)⟩ (by omega) (hbefore ?_ (by omega))
      all_goals omega
  · rintro ⟨p', b, hrun', hmin, hb, hcases⟩
    obtain rfl := hrun.unique hrun'
    rcases hcases with rfl | ⟨hnone, hlt, rfl⟩
    · refine ⟨b, ⟨hmin, hrun.1⟩, hb, fun l ⟨_, hall⟩ hlt => ?_⟩
      have := hrun.le hall
      omega
    · refine ⟨b, ⟨by omega, hrun.1.take (by omega) (by omega)⟩, hb, fun l ⟨_, hall⟩ hgt => ?_⟩
      have hle := hrun.le hall
      obtain rfl : l = b + 1 := by omega
      exact hnone

end Sequence

/-- After as few characters as possible, something starts at the first place where it stands. -/
theorem after_anything {set : Charset} (hset : ∀ c, set.accepts c = true)
    (hback : Node.Chooses text (.ofList back) r) (hwithin : ∀ j k, r j k → j ≤ text.size) :
    Node.Chooses text (.ofList ([.repeated .reluctant 0 none (.char set)] ++ back))
      (FirstOf r) := by
  have hany : Node.Means text (.ofList [.repeated .reluctant 0 none (.char set)]) _ :=
    .repeated (by decide) 0
  refine (after_near hany hback (.repeatedSet 0 none set)).of_iff fun i k => ?_
  constructor
  · rintro ⟨j, ⟨hle, hall⟩, hr, hfirst⟩
    refine ⟨j, hle, hr, fun l hl hlt => hfirst l ⟨hl, hall.take hl (Nat.le_of_lt hlt)⟩ hlt⟩
  · rintro ⟨j, hle, hr, hfirst⟩
    refine ⟨j, ⟨hle, hle, fun l _ hlt => ?_⟩, hr, fun l ⟨hl, _⟩ hlt => hfirst l hl hlt⟩
    have hl : l < text.size := Nat.lt_of_lt_of_le hlt (hwithin j k hr)
    exact ⟨_, Array.getElem?_eq_getElem hl, hset _⟩

theorem flatten (h : Node.Chooses text (.ofList (front ++ back)) r) :
    Node.Chooses text (.ofList (.ofList front :: back)) r := by
  have houter := outcomes_ofList_append text [.ofList front] back
  intro i marks o
  rw [← h, outcomes_ofList_append, ← List.singleton_append, houter]
  rfl

theorem outcomes_alt_cons (a b : Node) (back : List Node) (i : Nat) (marks : Marks) :
    outcomes text (.ofList (.alt a b :: back)) i marks =
      outcomes text (.ofList (a :: back)) i marks ++
        outcomes text (.ofList (b :: back)) i marks := by
  have hcons (node : Node) := outcomes_ofList_append text [node] back i marks
  simp only [List.singleton_append, Node.ofList] at hcons
  rw [hcons, hcons, hcons, outcomes, List.flatMap_append]

/-- The second alternative is tried only where the first one, with all that comes behind it, leads
nowhere. -/
theorem either (ha : Node.Chooses text (.ofList (a :: back)) r)
    (hb : Node.Chooses text (.ofList (b :: back)) r') :
    Node.Chooses text (.ofList (.alt a b :: back)) fun i j =>
      r i j ∨ (¬ ∃ k, r i k) ∧ r' i j := by
  intro i marks o
  rw [outcomes_alt_cons, List.head?_append]
  by_cases hsome : ∃ k, r i k
  · obtain ⟨k, hr⟩ := hsome
    have hhead := (ha i marks (k, marks)).mpr ⟨hr, rfl⟩
    rw [hhead, Option.some_or, ← hhead, ha]
    simp only [show (∃ k, r i k) from ⟨k, hr⟩, not_true_eq_false, false_and, or_false]
  · have hnil : outcomes text (.ofList (a :: back)) i marks = [] := by
      by_contra hne
      exact hsome ((ha.ne_nil_iff marks).mp hne)
    have hno : ¬ r i o.1 := fun hr => hsome ⟨_, hr⟩
    rw [hnil, List.head?_nil, Option.none_or, hb]
    simp only [hno, hsome, not_false_eq_true, true_and, false_or]

theorem oneOf {node : α → Node} {r : α → Stretch} {choices : List α} (hne : choices ≠ [])
    (h : ∀ x ∈ choices, Node.Chooses text (.ofList (node x :: back)) (r x)) :
    Node.Chooses text (.ofList (.oneOf (choices.map node) :: back)) (FirstAmong choices r) := by
  induction choices with
  | nil => exact absurd rfl hne
  | cons x choices ih =>
    obtain ⟨hx, hchoices⟩ := List.forall_mem_cons.mp h
    cases choices with
    | nil =>
      exact hx.of_iff fun i k => firstAmong_singleton.symm
    | cons y choices =>
      refine (hx.either (ih (List.cons_ne_nil _ _) hchoices)).of_iff fun i k => ?_
      exact firstAmong_cons.symm

end Node.Chooses

-- ---------------------------------------------------------------------------
-- Pieces of trees
-- ---------------------------------------------------------------------------

namespace Node

def letters (s : String) : List Node := s.toList.map (.letter {})

def blanks : Node := .repeated .greedy 0 none (.char { items := [.kind .blank false false] })

theorem means_blanks : Node.Means text blanks (AllBetween text Text.isBlank) := by
  have haccepts : Charset.accepts { items := [.kind .blank false false] } = Text.isBlank := by
    funext c
    simp [Charset.accepts, Fold.apply, ClassItem.contains, CharKind.contains]
  refine (Node.Means.repeated (by decide) 0).of_iff fun i j => ?_
  rw [haccepts]
  exact and_iff_right_of_imp And.left

end Node

def Charset.blankOrNot : Charset :=
  { items := [.kind .blank false false, .kind .blank false true] }

theorem Charset.accepts_blankOrNot (c : Char) : blankOrNot.accepts c = true := by
  simp [blankOrNot, accepts, Fold.apply, ClassItem.contains, CharKind.contains]

def Node.anything : Node := .repeated .reluctant 0 none (.char .blankOrNot)

def Charset.of (cs : List Char) : Charset := { items := cs.map fun c => .single c.toNat }

theorem Charset.accepts_of : (Charset.of cs).accepts c = true ↔ c ∈ cs := by
  simp [Charset.of, Charset.accepts, Fold.apply, ClassItem.contains, Char.toNat_inj]

theorem Node.means_of (cs : List Char) : Node.Means text (.char (.of cs)) fun i j =>
    ∃ c ∈ cs, text[i]? = some c ∧ j = i + 1 := by
  refine (Node.Means.char _).of_iff fun i j => ?_
  simp only [Charset.accepts_of]
  constructor
  · rintro ⟨c, hc, hmem, hj⟩
    exact ⟨c, hmem, hc, hj⟩
  · rintro ⟨c, hmem, hc, hj⟩
    exact ⟨c, hc, hmem, hj⟩

end CodeAudit.Regex

namespace CodeAudit.Rule

open CodeAudit.Regex

variable {matcher : Matcher} {text : Array Char}

def spans (matchers : List Matcher) (code : String) : List (Nat × Nat) :=
  matchers.flatMap fun m => (m.findAll code.toList.toArray).map Match.span

def Spec.spans (spec : Spec) (code : String) : Option (List (Nat × Nat)) :=
  spec.matchers.toOption.map fun matchers => Rule.spans matchers code

/-- The matches of a matcher are stretches of one kind, and wherever there is one, there is a match
that begins there or reaches over it. -/
structure Takes (matcher : Matcher) (text : Array Char) (r : Stretch) : Prop where
  only : ∀ m ∈ matcher.findAll text, r m.start m.stop
  covers : ∀ i j, r i j → ∃ m ∈ matcher.findAll text, m.start ≤ i ∧ i < m.stop

theorem takes_of_chooses (hmatcher : (matcher.repeats, matcher.pattern.root) = (true, tree))
    (hconsumes : tree.nullable = false) (h : Node.Chooses text tree r) : Takes matcher text r := by
  obtain ⟨hrepeats, rfl⟩ := Prod.mk.inj hmatcher
  have hscan : Pattern.Scan _ text 0 _ := Pattern.scan_findAll hconsumes
  rw [show matcher.pattern.findAll text = matcher.findAll text by
    rw [Matcher.findAll, if_pos hrepeats]] at hscan
  refine ⟨fun m hm => ((h m.start _ _).mp (hscan.head?_of_mem hm)).1, fun i j hr => ?_⟩
  exact hscan.covers (Nat.zero_le i) ((h.ne_nil_iff _).mpr ⟨j, hr⟩)

theorem exists_takes {matchers : List Matcher} {r : Array Char → Stretch}
    (htree : matchers.map (fun m => (m.repeats, m.pattern.root)) = [(true, tree)])
    (hconsumes : tree.nullable = false) (h : ∀ text, Node.Chooses text tree (r text)) :
    ∃ matcher, matchers = [matcher] ∧ ∀ text, Takes matcher text (r text) := by
  obtain ⟨matcher, hmatchers, hmatcher⟩ := List.map_eq_singleton_iff.mp htree
  exact ⟨matcher, hmatchers, fun text => takes_of_chooses hmatcher hconsumes (h text)⟩

end CodeAudit.Rule
