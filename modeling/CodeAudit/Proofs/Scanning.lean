import CodeAudit.Proofs.Blocks

/-!
# Scanning with patterns that consume something

If a pattern never matches without consuming something, all its matches in a text are described by
where they start and end (`Scan`): each one is the preferred outcome at the first place that has any,
counted from where the one before it ended. So a place with an outcome is passed over only if it lies
in a match (`Scan.covers`), and there are no more matches than characters (`Scan.length_le`).
-/

namespace CodeAudit.Regex

theorem nullable_ofList {nodes : List Node} (h : ∃ node ∈ nodes, node.nullable = false) :
    (Node.ofList nodes).nullable = false := by
  induction nodes with
  | nil => simp at h
  | cons a rest ih =>
    cases rest with
    | nil => simpa [Node.ofList] using h
    | cons b rest =>
      simp only [Node.ofList, Node.nullable, Bool.and_eq_false_iff]
      obtain ⟨node, hmem, hnull⟩ := h
      rcases List.mem_cons.mp hmem with rfl | hmem
      · exact .inl hnull
      · exact .inr (ih ⟨node, hmem, hnull⟩)

variable {p : Pattern} {text : Array Char}

namespace Pattern

inductive Scan (p : Pattern) (text : Array Char) : Nat → List Match → Prop where
  | done (hnone : ∀ k, i ≤ k → p.outcomesAt text k = []) : Scan p text i []
  | next (hfrom : i ≤ m.start) (hnone : ∀ k, i ≤ k → k < m.start → p.outcomesAt text k = [])
      (hfirst : (p.outcomesAt text m.start).head? = some (m.stop, m.marks))
      (hrest : Scan p text m.stop rest) : Scan p text i (m :: rest)

theorem Scan.head?_of_mem (h : Scan p text i found) (hm : m ∈ found) :
    (p.outcomesAt text m.start).head? = some (m.stop, m.marks) := by
  induction h with
  | done => cases hm
  | next _ _ hfirst _ ih =>
    rcases List.mem_cons.mp hm with rfl | hm
    · exact hfirst
    · exact ih hm

theorem Scan.covers (h : Scan p text i found) (hk : i ≤ k) (hsome : p.outcomesAt text k ≠ []) :
    ∃ m ∈ found, m.start ≤ k ∧ k < m.stop := by
  induction h with
  | done hnone => exact absurd (hnone k hk) hsome
  | @next i rest m hfrom hnone hfirst _ ih =>
    have hstart : m.start ≤ k := by
      by_contra hlt
      exact hsome (hnone k hk (by omega))
    by_cases hstop : k < m.stop
    · exact ⟨m, List.mem_cons_self, hstart, hstop⟩
    · obtain ⟨m', hm', hcovers⟩ := ih (by omega)
      exact ⟨m', List.mem_cons_of_mem _ hm', hcovers⟩

section Consuming

variable (hconsumes : p.root.nullable = false)

include hconsumes

theorem lt_of_outcomesAt (h : o ∈ p.outcomesAt text i) : i < o.1 ∧ o.1 ≤ text.size := by
  have hbegins : Begins text p.root i o.1 := begins_of_mem p.root h
  have hlt : i < o.1 := hbegins.moves hconsumes
  have hwithin := hbegins.within
  exact ⟨hlt, by omega⟩

theorem matchAt_eq_head (i : Nat) (nonEmpty : Bool) : p.matchAt text i nonEmpty =
    (p.outcomesAt text i).head?.map fun o => ⟨i, o.1, o.2⟩ := by
  rw [matchAt_eq]
  cases houtcomes : p.outcomesAt text i with
  | nil => rfl
  | cons o rest =>
    obtain ⟨hlt, -⟩ := lt_of_outcomesAt hconsumes (houtcomes ▸ List.mem_cons_self)
    have hne : o.1 ≠ i := by omega
    simp [hne]

theorem matchAt_eq_none : p.matchAt text i nonEmpty = none ↔ p.outcomesAt text i = [] := by
  simp [matchAt_eq_head hconsumes]

theorem matchAt_eq_some : p.matchAt text i nonEmpty = some m ↔
    m.start = i ∧ (p.outcomesAt text i).head? = some (m.stop, m.marks) := by
  rw [matchAt_eq_head hconsumes, Option.map_eq_some_iff]
  constructor
  · rintro ⟨o, ho, rfl⟩
    exact ⟨rfl, ho⟩
  · rintro ⟨rfl, ho⟩
    exact ⟨_, ho, rfl⟩

theorem searchFrom_eq_some (h : p.searchFrom text nonEmpty room i = some m) :
    (∀ k, i ≤ k → k < m.start → p.outcomesAt text k = []) ∧
      (p.outcomesAt text m.start).head? = some (m.stop, m.marks) := by
  induction room generalizing i nonEmpty with
  | zero =>
    obtain ⟨rfl, hfirst⟩ := (matchAt_eq_some hconsumes).mp h
    exact ⟨fun k hle hlt => by omega, hfirst⟩
  | succ room ih =>
    rw [searchFrom] at h
    split at h
    · next hat =>
      obtain rfl := Option.some.inj h
      obtain ⟨rfl, hfirst⟩ := (matchAt_eq_some hconsumes).mp hat
      exact ⟨fun k hle hlt => by omega, hfirst⟩
    · next hat =>
      have hhere := (matchAt_eq_none hconsumes).mp hat
      obtain ⟨hnone, hfirst⟩ := ih h
      refine ⟨fun k hle hlt => ?_, hfirst⟩
      obtain rfl | hlt' := Nat.eq_or_lt_of_le hle
      · exact hhere
      · exact hnone k hlt' hlt

theorem searchFrom_eq_none (h : p.searchFrom text nonEmpty room i = none) (hle : i ≤ k)
    (hroom : k ≤ i + room) : p.outcomesAt text k = [] := by
  induction room generalizing i nonEmpty with
  | zero =>
    obtain rfl : k = i := by omega
    exact (matchAt_eq_none hconsumes).mp h
  | succ room ih =>
    rw [searchFrom] at h
    split at h
    · cases h
    · next hat =>
      obtain rfl | hlt := Nat.eq_or_lt_of_le hle
      · exact (matchAt_eq_none hconsumes).mp hat
      · exact ih h hlt (by omega)

theorem scan_findFrom (hi : i ≤ text.size) (hfuel : text.size - i < fuel) (nonEmpty : Bool) :
    Scan p text i (p.findFrom text fuel i nonEmpty) := by
  induction fuel generalizing i nonEmpty with
  | zero => omega
  | succ fuel ih =>
    rw [findFrom, if_neg (by omega)]
    cases hsearch : p.searchFrom text nonEmpty (text.size - i) i with
    | none =>
      refine .done fun k hle => ?_
      by_cases hk : k ≤ text.size
      · exact searchFrom_eq_none hconsumes hsearch hle (by omega)
      · -- Behind the text there is nothing to consume.
        refine List.eq_nil_iff_forall_not_mem.mpr fun o ho => ?_
        have := lt_of_outcomesAt hconsumes ho
        omega
    | some m =>
      obtain ⟨hfrom, -, hmem⟩ := searchFrom_mem hsearch
      obtain ⟨hnone, hfirst⟩ := searchFrom_eq_some hconsumes hsearch
      obtain ⟨hlt, hwithin⟩ := lt_of_outcomesAt hconsumes hmem
      exact .next hfrom hnone hfirst (ih hwithin (by omega) _)

theorem scan_findAll : Scan p text 0 (p.findAll text) :=
  scan_findFrom hconsumes (Nat.zero_le _) (by omega) false

theorem Scan.length_le (h : Scan p text i found) : found.length ≤ text.size - i := by
  induction h with
  | done hnone => exact Nat.zero_le _
  | @next i rest m hfrom _ hfirst _ ih =>
    obtain ⟨hlt, hwithin⟩ := lt_of_outcomesAt hconsumes (List.mem_of_mem_head? hfirst)
    rw [List.length_cons]
    omega

end Consuming

end Pattern

end CodeAudit.Regex

namespace CodeAudit.Rule.Matcher

open CodeAudit.Regex

variable {matcher : Matcher} {text : Array Char}

theorem findAll_consuming (hconsumes : matcher.pattern.root.nullable = false)
    (text : Array Char) : (∀ m ∈ matcher.findAll text, m.start < m.stop) ∧
      matcher.count text ≤ text.size := by
  have hlt : ∀ m ∈ matcher.findAll text, m.start < m.stop ∧ m.stop ≤ text.size := fun m hm =>
    Pattern.lt_of_outcomesAt hconsumes (mem_findAll hm).2
  refine ⟨fun m hm => (hlt m hm).1, ?_⟩
  unfold count findAll at *
  split
  · have hscan : Pattern.Scan _ text 0 _ := Pattern.scan_findAll hconsumes
    simpa using hscan.length_le hconsumes
  · cases hsearch : matcher.search text with
    | none => exact Nat.zero_le _
    | some m =>
      rename_i hrepeats
      have := hlt m (by simp [hrepeats, hsearch])
      simp only [Option.toList_some, List.length_singleton]
      omega

end CodeAudit.Rule.Matcher
