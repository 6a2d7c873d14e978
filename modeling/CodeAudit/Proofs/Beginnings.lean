import CodeAudit.Proofs.Searching

/-!
# Where matches begin

`Node.solid` and `Node.nullable` decide from the tree of a pattern that every match consumes
something and starts with a character that is not blank (`firstSolid_of_startsSolid`), or that it
first takes in a single character of context (`firstSolid_of_startsLate`).
-/

namespace CodeAudit.Regex

open CodeAudit.Text (isBlank)

-- ---------------------------------------------------------------------------
-- Sets without blanks
-- ---------------------------------------------------------------------------

def blankCodes : List Nat :=
  [9, 10, 11, 12, 13, 28, 29, 30, 31, 32, 0x85, 0xA0, 0x1680, 0x2000, 0x2001, 0x2002, 0x2003,
    0x2004, 0x2005, 0x2006, 0x2007, 0x2008, 0x2009, 0x200A, 0x2028, 0x2029, 0x202F, 0x205F, 0x3000]

theorem mem_blankCodes {c : Char} (h : isBlank c = true) : c.toNat ∈ blankCodes := by
  simp only [isBlank, Bool.or_eq_true, Bool.and_eq_true, decide_eq_true_eq, beq_iff_eq] at h
  simp only [blankCodes, List.mem_cons, List.not_mem_nil, or_false]
  omega

theorem apply_blank : ∀ code ∈ blankCodes, ∀ fold : Fold, fold.apply code = code := by
  intro code hcode fold
  revert code
  cases fold <;> decide +kernel

def Charset.solid (set : Charset) : Bool :=
  blankCodes.all fun code => set.items.any (·.contains code) == set.negated

theorem Charset.not_blank {set : Charset} (h : set.solid = true) (hc : set.accepts c = true) :
    isBlank c = false := by
  by_contra hblank
  have hcode := mem_blankCodes (Bool.not_eq_false _ ▸ hblank)
  have hrefused := List.all_eq_true.mp h _ hcode
  rw [accepts, apply_blank _ hcode set.fold, beq_iff_eq.mp hrefused] at hc
  simp at hc

def SolidAt (text : Array Char) (i : Nat) : Prop :=
  ∃ c, text[i]? = some c ∧ isBlank c = false

theorem acceptsAt_solid {set : Charset} (h : set.solid = true) (hi : acceptsAt text set i = true) :
    SolidAt text i := by
  unfold acceptsAt at hi
  split at hi
  · next c hc => exact ⟨c, hc, set.not_blank h hi⟩
  · cases hi

-- ---------------------------------------------------------------------------
-- Trees that start solid
-- ---------------------------------------------------------------------------

namespace Node

def nullable : Node → Bool
  | .empty | .backref .. | .ahead .. | .behind .. | .anchor _ => true
  | .char _ => false
  | .seq a b => a.nullable && b.nullable
  | .alt a b => a.nullable || b.nullable
  | .repeated _ min _ body => min == 0 || body.nullable
  | .group _ body | .atomic body => body.nullable
  | .ifGroup _ yes no => yes.nullable || no.nullable

/-- Whether the first character that a tree consumes, if any, is surely not blank. -/
def solid : Node → Bool
  | .empty | .ahead .. | .behind .. | .anchor _ => true
  | .char set => set.solid
  | .seq a b => a.solid && (!a.nullable || b.solid)
  | .alt a b => a.solid && b.solid
  | .repeated _ _ _ body | .group _ body | .atomic body => body.solid
  | .backref .. => false
  | .ifGroup _ yes no => yes.solid && no.solid

end Node

variable {text : Array Char}

structure Begins (text : Array Char) (node : Node) (i j : Nat) : Prop where
  ge : i ≤ j
  within : j ≤ max i text.size
  moves : node.nullable = false → i < j
  solid : node.solid = true → j = i ∨ SolidAt text i

theorem Begins.stay (h : node.nullable = true) (i : Nat) : Begins text node i i where
  ge := Nat.le_refl i
  within := Nat.le_max_left i _
  moves hnot := absurd (h.symm.trans hnot) (by decide)
  solid _ := .inl rfl

theorem Begins.weaken (h : Begins text a i j) (hnull : b.nullable = false → a.nullable = false)
    (hsolid : b.solid = true → a.solid = true) : Begins text b i j where
  ge := h.ge
  within := h.within
  moves hb := h.moves (hnull hb)
  solid hb := h.solid (hsolid hb)

theorem Begins.seq (ha : Begins text a i j) (hb : Begins text b j k) :
    Begins text (.seq a b) i k where
  ge := Nat.le_trans ha.ge hb.ge
  within := by
    have hj := ha.within
    have hk := hb.within
    omega
  moves hnot := by
    rcases Bool.and_eq_false_iff.mp hnot with hnot | hnot
    · exact Nat.lt_of_lt_of_le (ha.moves hnot) hb.ge
    · exact Nat.lt_of_le_of_lt ha.ge (hb.moves hnot)
  solid hsolid := by
    obtain ⟨hsa, hsb⟩ := Bool.and_eq_true_iff.mp hsolid
    obtain rfl | hat := ha.solid hsa
    · -- The first tree stayed where it was, so it is nullable and the second one counts.
      cases hnull : a.nullable with
      | false => exact absurd (ha.moves hnull) (Nat.lt_irrefl _)
      | true => exact hb.solid (by simpa [hnull] using hsb)
    · exact .inr hat

theorem Begins.rounds (hbody : ∀ i marks o, o ∈ outcomes text body i marks → Begins text body i o.1)
    (h : Rounds (outcomes text body) n o o') :
    o.1 ≤ o'.1 ∧ o'.1 ≤ max o.1 text.size ∧ (0 < n → body.nullable = false → o.1 < o'.1) ∧
      (body.solid = true → o'.1 = o.1 ∨ SolidAt text o.1) := by
  induction h with
  | none o =>
    exact ⟨Nat.le_refl _, Nat.le_max_left _ _, fun h => absurd h (Nat.lt_irrefl 0), fun _ => .inl rfl⟩
  | more hround _ ih =>
    obtain ⟨hge, hwithin, -, hsolid⟩ := ih
    have hfirst := hbody _ _ _ hround
    refine ⟨Nat.le_trans hfirst.ge hge, ?_, fun _ hnull => ?_, fun hs => ?_⟩
    · have := hfirst.within
      omega
    · exact Nat.lt_of_lt_of_le (hfirst.moves hnull) hge
    · rcases hfirst.solid hs with heq | hat
      · rw [← heq]
        exact hsolid hs
      · exact .inr hat

theorem le_size_of_sameText (h : sameText text fold source length i = true) :
    i + length ≤ max i text.size := by
  induction length generalizing source i with
  | zero => exact Nat.le_max_left i _
  | succ length ih =>
    simp only [sameText] at h
    split at h
    · next hi =>
      obtain ⟨hi, -⟩ := Array.getElem?_eq_some_iff.mp hi
      have := ih (Bool.and_eq_true_iff.mp h).2
      omega
    · cases h

theorem begins_of_mem (node : Node) (h : o ∈ outcomes text node i marks) :
    Begins text node i o.1 := by
  induction node generalizing i marks o with
  | empty =>
    obtain rfl := List.mem_singleton.mp h
    exact .stay rfl i
  | char set =>
    simp only [outcomes] at h
    split at h
    · next hi =>
      obtain rfl := List.mem_singleton.mp h
      have hsize := acceptsAt_lt hi
      exact ⟨Nat.le_succ i, Nat.le_trans hsize (Nat.le_max_right i _), fun _ => Nat.lt_succ_self i,
        fun hs => .inr (acceptsAt_solid hs hi)⟩
    · cases h
  | seq a b iha ihb =>
    obtain ⟨o', ho', hrest⟩ := List.mem_flatMap.mp h
    exact (iha ho').seq (ihb hrest)
  | alt a b iha ihb =>
    rcases List.mem_append.mp h with h | h
    · exact (iha h).weaken (fun hn => (Bool.or_eq_false_iff.mp hn).1)
        fun hs => (Bool.and_eq_true_iff.mp hs).1
    · exact (ihb h).weaken (fun hn => (Bool.or_eq_false_iff.mp hn).2)
        fun hs => (Bool.and_eq_true_iff.mp hs).2
  | repeated greed min max body ih =>
    obtain ⟨n, hn, hrounds⟩ := rounds_of_mem h
    obtain ⟨hge, hwithin, hmoves, hsolid⟩ := Begins.rounds (fun i marks o => ih) hrounds
    refine ⟨hge, hwithin, fun hnull => ?_, hsolid⟩
    obtain ⟨hmin, hbody⟩ := Bool.or_eq_false_iff.mp hnull
    have hmin : min ≠ 0 := by simpa using hmin
    exact hmoves (by omega) hbody
  | group index body ih =>
    obtain ⟨o', ho', rfl⟩ := List.mem_map.mp h
    exact (ih ho').weaken id id
  | backref index fold width =>
    simp only [outcomes] at h
    split at h
    · split at h
      · next hsame =>
        obtain rfl := List.mem_singleton.mp h
        refine ⟨Nat.le_add_right _ _, le_size_of_sameText hsame, fun hnull => ?_, fun hs => ?_⟩
        · cases hnull
        · cases hs
      · cases h
    · cases h
  | ahead negated body =>
    simp only [outcomes] at h
    split at h
    · obtain rfl := List.mem_singleton.mp h
      exact .stay rfl i
    · obtain rfl := List.mem_singleton.mp h
      exact .stay rfl i
    · cases h
  | behind negated width body =>
    simp only [outcomes] at h
    split at h
    · obtain rfl := List.mem_singleton.mp h
      exact .stay rfl i
    · obtain rfl := List.mem_singleton.mp h
      exact .stay rfl i
    · cases h
  | atomic body ih =>
    rw [outcomes, Option.mem_toList] at h
    exact (ih (List.mem_of_mem_head? h)).weaken id id
  | ifGroup index yes no ihyes ihno =>
    simp only [outcomes] at h
    split at h
    · exact (ihyes h).weaken (fun hn => (Bool.or_eq_false_iff.mp hn).1)
        fun hs => (Bool.and_eq_true_iff.mp hs).1
    · exact (ihno h).weaken (fun hn => (Bool.or_eq_false_iff.mp hn).2)
        fun hs => (Bool.and_eq_true_iff.mp hs).2
  | anchor place =>
    simp only [outcomes] at h
    split at h
    · obtain rfl := List.mem_singleton.mp h
      exact .stay rfl i
    · cases h

-- ---------------------------------------------------------------------------
-- Trees that start with context
-- ---------------------------------------------------------------------------

namespace Node

def startsSolid (node : Node) : Bool :=
  !node.nullable && node.solid

def short : Node → Bool
  | .char _ | .anchor _ => true
  | .alt a b => a.short && b.short
  | _ => false

/-- Whether every match of a tree has at most one character before one that is not blank. -/
def startsLate : Node → Bool
  | .seq a b => a.short && b.startsSolid
  | _ => false

end Node

theorem short_le (h : node.short = true) (ho : o ∈ outcomes text node i marks) : o.1 ≤ i + 1 := by
  induction node with
  | char set =>
    simp only [outcomes] at ho
    split at ho
    · obtain rfl := List.mem_singleton.mp ho
      exact Nat.le_refl _
    · cases ho
  | anchor place =>
    simp only [outcomes] at ho
    split at ho
    · obtain rfl := List.mem_singleton.mp ho
      exact Nat.le_succ _
    · cases ho
  | alt a b iha ihb =>
    obtain ⟨ha, hb⟩ := Bool.and_eq_true_iff.mp h
    rcases List.mem_append.mp ho with ho | ho
    · exact iha ha ho
    · exact ihb hb ho
  | _ => cases h

theorem startsSolid_of_mem (h : node.startsSolid = true) (ho : o ∈ outcomes text node i marks) :
    i < o.1 ∧ SolidAt text i := by
  obtain ⟨hnull, hsolid⟩ := Bool.and_eq_true_iff.mp h
  have hbegins := begins_of_mem node ho
  have hlt : i < o.1 := hbegins.moves (by simpa using hnull)
  exact ⟨hlt, (hbegins.solid hsolid).resolve_left (by omega)⟩

/-- A match of such a tree starts with a character that is not blank, or this is the second one. -/
theorem startsLate_of_mem (h : node.startsLate = true) (ho : o ∈ outcomes text node i marks) :
    i < o.1 ∧ SolidAt text i ∨ i + 1 < o.1 ∧ SolidAt text (i + 1) := by
  cases node with
  | seq a b =>
    obtain ⟨ha, hb⟩ := Bool.and_eq_true_iff.mp h
    obtain ⟨o', ho', hrest⟩ := List.mem_flatMap.mp ho
    have hle : o'.1 ≤ i + 1 := short_le ha ho'
    have hge : i ≤ o'.1 := (begins_of_mem a ho').ge
    obtain ⟨hlt, hsolid⟩ := startsSolid_of_mem hb hrest
    obtain heq | heq : o'.1 = i ∨ o'.1 = i + 1 := by omega
    · rw [heq] at hlt hsolid
      exact .inl ⟨hlt, hsolid⟩
    · rw [heq] at hlt hsolid
      exact .inr ⟨hlt, hsolid⟩
  | _ => cases h

structure FirstSolid (text : Array Char) (m : Match) (p : Nat) : Prop where
  ge : m.start ≤ p
  lt : p < m.stop
  solid : SolidAt text p
  first : ∀ q, m.start ≤ q → q < p → ¬ SolidAt text q

theorem FirstSolid.start (hlt : m.start < m.stop) (h : SolidAt text m.start) :
    FirstSolid text m m.start where
  ge := Nat.le_refl _
  lt := hlt
  solid := h
  first q hge hq := absurd hge (by omega)

theorem FirstSolid.next (hlt : m.start + 1 < m.stop) (hblank : ¬ SolidAt text m.start)
    (h : SolidAt text (m.start + 1)) : FirstSolid text m (m.start + 1) where
  ge := Nat.le_succ _
  lt := hlt
  solid := h
  first q hge hq := by
    obtain rfl : q = m.start := by omega
    exact hblank

end CodeAudit.Regex

namespace CodeAudit.Rule

open CodeAudit.Regex

variable {matcher : Matcher}

theorem firstSolid_of_startsSolid (h : matcher.pattern.root.startsSolid = true)
    (hm : m ∈ matcher.findAll text) : FirstSolid text m m.start := by
  obtain ⟨-, hmem⟩ := Matcher.mem_findAll hm
  obtain ⟨hlt, hsolid⟩ := startsSolid_of_mem h hmem
  exact .start hlt hsolid

theorem firstSolid_of_startsLate (h : matcher.pattern.root.startsLate = true)
    (hm : m ∈ matcher.findAll text) :
    FirstSolid text m m.start ∨
      ¬ SolidAt text m.start ∧ FirstSolid text m (m.start + 1) := by
  obtain ⟨-, hmem⟩ := Matcher.mem_findAll hm
  rcases startsLate_of_mem h hmem with ⟨hlt, hsolid⟩ | ⟨hlt, hsolid⟩
  · exact .inl (.start hlt hsolid)
  · by_cases hfirst : SolidAt text m.start
    · exact .inl (.start (by omega) hfirst)
    · exact .inr ⟨hfirst, .next hlt hfirst hsolid⟩

end CodeAudit.Rule
