import CodeAudit.Proofs.Counts
import CodeAudit.Proofs.Preference

/-!
# Access chains

A chain of accesses is found as a whole, from its first access to its last one, if it is long enough
(`chainedAccess_finds`). A name is taken in up to its end, since the characters of an operator are not
those of a name, and the loop over the accesses goes on for as long as there is one. A chain that is
too short is tried again from each of its later accesses, which leaves even fewer of them.
-/

namespace CodeAudit.Regex

variable {text : Array Char}

-- ---------------------------------------------------------------------------
-- Steps of a relation
-- ---------------------------------------------------------------------------

/-- A number of stretches, each of which starts where the one before it ended. -/
inductive Steps (r : Stretch) : Nat → Nat → Nat → Prop where
  | none (i : Nat) : Steps r 0 i i
  | more (hfirst : r i j) (hrest : Steps r n j k) : Steps r (n + 1) i k

section Steps

variable {r : Stretch}

theorem Steps.exists_first (h : Steps r n i j) (hn : 0 < n) : ∃ k, r i k := by
  cases h with
  | none => cases hn
  | more hfirst _ => exact ⟨_, hfirst⟩

theorem Steps.exists_last (h : Steps r n i j) (hn : 0 < n) : ∃ k, r k j := by
  induction h with
  | none => cases hn
  | @more i k n j hfirst hrest ih =>
    cases n with
    | zero =>
      cases hrest
      exact ⟨i, hfirst⟩
    | succ n => exact ih (Nat.succ_pos n)

/-- If each step is the only one from where it starts, nothing leads beyond where steps come to an
end. -/
theorem Steps.le_of_end (honly : Relator.RightUnique r) (h : Steps r n i j)
    (h' : Steps r m i k) (hend : ∀ l, ¬ r k l) : n ≤ m ∧ (n = m → j = k) := by
  induction h generalizing m with
  | none i =>
    refine ⟨Nat.zero_le _, ?_⟩
    rintro rfl
    cases h'
    rfl
  | more hfirst hrest ih =>
    cases h' with
    | none => exact absurd hfirst (hend _)
    | more hfirst' hrest' =>
      obtain rfl := honly hfirst hfirst'
      obtain ⟨hle, heq⟩ := ih hrest'
      exact ⟨by omega, fun hnm => heq (by omega)⟩

theorem Steps.end_unique (honly : Relator.RightUnique r) (h : Steps r n i j)
    (hend : ∀ l, ¬ r j l) (h' : Steps r m i k) (hend' : ∀ l, ¬ r k l) : n = m ∧ j = k := by
  obtain ⟨hle, heq⟩ := h.le_of_end honly h' hend'
  obtain ⟨hge, -⟩ := h'.le_of_end honly h hend
  have hnm : n = m := by omega
  exact ⟨hnm, heq hnm⟩

variable (hmoves : ∀ {i j}, r i j → i < j)

include hmoves

theorem Steps.add_le (h : Steps r n i j) : i + n ≤ j := by
  induction h with
  | none i => exact Nat.le_refl _
  | more hfirst _ ih =>
    have := hmoves hfirst
    omega

theorem exists_steps_end (hsize : ∀ {i j}, r i j → i < size) (i : Nat) :
    ∃ n j, Steps r n i j ∧ ∀ k, ¬ r j k := by
  by_cases h : ∃ j, r i j
  · obtain ⟨j, hfirst⟩ := h
    have hlt := hmoves hfirst
    have hi := hsize hfirst
    obtain ⟨n, k, hrest, hend⟩ := exists_steps_end hsize j
    exact ⟨n + 1, k, .more hfirst hrest, hend⟩
  · exact ⟨0, i, .none i, not_exists.mp h⟩
termination_by size - i

variable {step : Nat → Marks → List Outcome}

theorem head?_greedyEnds {min : Nat}
    (hsome : ∀ {i j}, r i j → ∀ marks, (step i marks).head? = some (j, marks))
    (hnone : ∀ {i}, (∀ j, ¬ r i j) → ∀ marks, step i marks = [])
    (hsteps : Steps r n i j) (hend : ∀ k, ¬ r j k) (hmin : min ≤ count + n) (hfuel : n < fuel)
    (hlast : ∀ k, last = some k → k < i) :
    (greedyEnds step min none fuel count last i marks).head? = some (j, marks) := by
  induction hsteps generalizing fuel count last with
  | none i =>
    obtain ⟨fuel, rfl⟩ := Nat.exists_eq_succ_of_ne_zero (n := fuel) (by omega)
    have hcount : ¬ count < min := by omega
    simp [greedyEnds, hcount, hnone hend]
  | @more i mid n j hfirst hrest ih =>
    obtain ⟨fuel, rfl⟩ := Nat.exists_eq_succ_of_ne_zero (n := fuel) (by omega)
    have hlt := hmoves hfirst
    obtain ⟨others, hround⟩ : ∃ others, step i marks = (mid, marks) :: others := by
      have hhead := hsome hfirst marks
      cases hround : step i marks with
      | nil => simp [hround] at hhead
      | cons o others =>
        rw [hround] at hhead
        exact ⟨others, by rw [Option.some.inj hhead]⟩
    have hnew : last ≠ some i := fun heq => Nat.lt_irrefl i (hlast i heq)
    simp only [greedyEnds, hround, List.flatMap_cons]
    split
    · have hhead : (greedyEnds step min none fuel (count + 1) last mid marks).head? =
          some (j, marks) :=
        ih hend (by omega) (by omega) fun k hk => Nat.lt_trans (hlast k hk) hlt
      rw [List.head?_append, hhead]
      rfl
    · have hhead : (greedyEnds step min none fuel (count + 1) (some i) mid marks).head? =
          some (j, marks) :=
        ih hend (by omega) (by omega) fun k hk => Option.some.inj hk ▸ hlt
      simp [hnew, hhead]

end Steps

end CodeAudit.Regex

namespace CodeAudit.Rule

open CodeAudit.Regex
open CodeAudit.Text (isWord)
open Phrasing (access fine_access chainedAccessRecipes_eq)

variable {text : Array Char} {op : String}

-- ---------------------------------------------------------------------------
-- Accesses in a text
-- ---------------------------------------------------------------------------

/-- An operator and at least one character of a name. -/
def AccessAt (text : Array Char) (op : String) : Stretch := fun i j =>
  ∃ a, Stands text op i a ∧ a < j ∧ AllBetween text isWord a j

/-- An operator and a name up to its end. -/
def Segment (text : Array Char) (op : String) : Stretch := fun i j =>
  AccessAt text op i j ∧ ¬ WordAt text j

/-- Segments one after the other, with no segment directly before or after them. -/
structure Chain (text : Array Char) (op : String) (n i j : Nat) : Prop where
  segments : Steps (Segment text op) n i j
  first : ∀ h, ¬ Segment text op h i
  last : ∀ k, ¬ Segment text op j k

/-- The operator with which accesses are written: every operator but `?.` is taken for a dot. -/
def accessText (operator : String) : String := if operator = "?." then "?." else "."

/-- An operator that is told apart from names by its first character, which it has only once. -/
structure Opens (op : String) (c : Char) : Prop where
  first : op.toList[0]? = some c
  once : c ∉ op.toList.tail
  noWord : isWord c = false

theorem opens_accessText (operator : String) : ∃ c, Opens (accessText operator) c := by
  unfold accessText
  split
  · exact ⟨'?', rfl, by decide, by decide⟩
  · exact ⟨'.', rfl, by decide, by decide⟩

theorem AccessAt.lt (h : AccessAt text op i j) : i < j := by
  obtain ⟨a, hop, hlt, -⟩ := h
  exact Nat.lt_of_le_of_lt hop.le hlt

theorem AccessAt.le_size (h : AccessAt text op i j) : j ≤ text.size := by
  obtain ⟨a, -, hlt, hle, hall⟩ := h
  obtain ⟨c, hc, -⟩ := hall a (Nat.le_refl a) hlt
  have hsize := (Array.getElem?_eq_some_iff.mp hc).1
  exact AllBetween.le_size ⟨hle, hall⟩ (Nat.le_of_lt hsize)

theorem AccessAt.exists_segment (h : AccessAt text op i j) : ∃ k, Segment text op i k := by
  obtain ⟨a, hop, hlt, -, hword⟩ := h
  obtain ⟨k, hall, hend⟩ := exists_between text isWord a
  refine ⟨k, ⟨a, hop, Nat.lt_of_le_of_ne hall.1 ?_, hall⟩, hend⟩
  rintro rfl
  exact hend (hword a (Nat.le_refl a) hlt)

theorem Segment.le (h : Segment text op i j) (h' : AccessAt text op i k) : k ≤ j := by
  obtain ⟨⟨a, ⟨-, rfl⟩, hlt, -⟩, hend⟩ := h
  obtain ⟨_, ⟨-, rfl⟩, -, -, hall⟩ := h'
  by_contra hle
  exact hend (hall j (by omega) (by omega))

theorem segment_unique : Relator.RightUnique (Segment text op) := fun _ _ _ h h' =>
  Nat.le_antisymm (h'.le h.1) (h.le h'.1)

section Operator

variable {c : Char} (hop : Opens op c)

include hop

theorem Opens.not_word (h : Stands text op i j) : ¬ WordAt text i := by
  rintro ⟨x, hx, hword⟩
  obtain rfl := Option.some.inj ((h.char hop.first).symm.trans hx)
  rw [hop.noWord] at hword
  cases hword

theorem Segment.le_of_stands (h : Segment text op i j) (h' : Stands text op k b) (hlt : i < k) :
    j ≤ k := by
  obtain ⟨⟨a, hi, -, -, hall⟩, -⟩ := h
  by_contra hle
  by_cases ha : k < a
  · -- The second operator would start in the first one.
    obtain ⟨d, rfl⟩ := Nat.exists_eq_add_of_le (Nat.le_of_lt hlt)
    have hlen : d < op.toList.length := by
      have := hi.2
      rw [String.length_toList]
      omega
    have hd := hi.char (List.getElem?_eq_getElem hlen)
    have hsame := Option.some.inj ((h'.char hop.first).symm.trans hd)
    refine hop.once (List.mem_iff_getElem?.mpr ⟨d - 1, ?_⟩)
    rw [List.getElem?_tail, Nat.sub_add_cancel (by omega), List.getElem?_eq_getElem hlen, hsame]
  · exact hop.not_word h' (hall k (by omega) (by omega))

/-- A segment that starts within segments in a row is one of them, and not the first one. -/
theorem exists_segment_before (h : Steps (Segment text op) n a b) (hk : Segment text op k l)
    (hfrom : a < k) (hto : k < b) : ∃ g, Segment text op g k := by
  induction h with
  | none i => omega
  | @more a c n b hfirst hrest ih =>
    obtain ⟨_, hstands, -⟩ := hk.1
    have hle := hfirst.le_of_stands hop hstands hfrom
    obtain rfl | hlt := Nat.eq_or_lt_of_le hle
    · exact ⟨a, hfirst⟩
    · exact ih hlt hto

theorem Chain.le_of_steps (h : Chain text op n i j) (hn : 0 < n)
    (hsteps : Steps (Segment text op) m a b) (hlt : a < i) : b ≤ i := by
  by_contra hinside
  obtain ⟨k, hfirst⟩ := h.segments.exists_first hn
  obtain ⟨g, hbefore⟩ := exists_segment_before hop hsteps hfirst hlt (by omega)
  exact h.first g hbefore

end Operator

def RunFrom (text : Array Char) (op : String) (depth : Nat) : Stretch := fun i j =>
  ∃ n, depth ≤ n ∧ Steps (Segment text op) n i j ∧ ∀ k, ¬ Segment text op j k

theorem RunFrom.unique (h : RunFrom text op depth i j) (h' : RunFrom text op depth i k) : j = k := by
  obtain ⟨n, -, hsteps, hend⟩ := h
  obtain ⟨m, -, hsteps', hend'⟩ := h'
  exact (hsteps.end_unique segment_unique hend hsteps' hend').2

theorem Chain.runFrom (h : Chain text op n i j) (hn : depth ≤ n) : RunFrom text op depth i j :=
  ⟨n, hn, h.segments, h.last⟩

theorem exists_runFrom (h : Steps (Segment text op) n i j) (hn : depth ≤ n) :
    ∃ k, RunFrom text op depth i k := by
  obtain ⟨m, k, hsteps, hend⟩ : ∃ m k, Steps (Segment text op) m i k ∧ ∀ l, ¬ Segment text op k l :=
    exists_steps_end (fun h => h.1.lt) (fun h => Nat.lt_of_lt_of_le h.1.lt h.1.le_size) i
  have hle := (h.le_of_end segment_unique hsteps hend).1
  exact ⟨k, m, by omega, hsteps, hend⟩

/-- Two segments in a row both start before the position, or both do not. -/
def Divides (text : Array Char) (op : String) (s : Nat) : Prop :=
  ∀ ⦃h k l⦄, Segment text op h k → Segment text op k l → h < s → k < s

theorem RunFrom.divides (hop : Opens op c) (h : RunFrom text op depth i j) (hdepth : 0 < depth) :
    Divides text op j := by
  obtain ⟨n, hn, hsteps, hend⟩ := h
  obtain ⟨g, hlast⟩ := hsteps.exists_last (by omega)
  intro h k l hfirst hsecond hlt
  have hg := hlast.1.lt
  obtain hgh | rfl | hhg := Nat.lt_trichotomy g h
  · -- The first one would start in the last segment of the run.
    obtain ⟨_, hstands, -⟩ := hfirst.1
    have := hlast.le_of_stands hop hstands hgh
    omega
  · obtain rfl := segment_unique hlast hfirst
    exact absurd hsecond (hend l)
  · obtain ⟨_, hstands, -⟩ := hlast.1
    have := hfirst.le_of_stands hop hstands hhg
    omega

/-- The first run from a position between segments on is a chain: with a segment before it, there
would be a run from that one, or a segment before the position would have gone on behind it. -/
theorem RunFrom.exists_chain (h : RunFrom text op depth i j) (hdepth : 0 < depth)
    (hs : Divides text op s) (hi : s ≤ i)
    (hfirst : ∀ g, s ≤ g → g < i → ∀ k, ¬ RunFrom text op depth g k) :
    ∃ n, depth ≤ n ∧ Chain text op n i j := by
  obtain ⟨n, hn, hsteps, hend⟩ := h
  refine ⟨n, hn, hsteps, fun g hg => ?_, hend⟩
  have hlt := hg.1.lt
  by_cases hgs : g < s
  · obtain ⟨l, hl⟩ := hsteps.exists_first (by omega)
    have := hs hg hl hgs
    omega
  · exact hfirst g (by omega) hlt j ⟨n + 1, by omega, .more hg hsteps, hend⟩

-- ---------------------------------------------------------------------------
-- The tree of an access chain
-- ---------------------------------------------------------------------------

def wordSet : Charset := { items := [.kind .word false false] }

theorem accepts_wordSet : wordSet.accepts = isWord := by
  funext c
  simp [wordSet, Charset.accepts, Fold.apply, ClassItem.contains, CharKind.contains]

def accessTree (op : String) : Node :=
  .ofList (op.toList.map (.letter {}) ++ [.repeated .greedy 1 none (.char wordSet)])

def chainTree (depth : Nat) (op : String) : Node :=
  .repeated .greedy depth none (accessTree op)

theorem means_accessTree (text : Array Char) (op : String) :
    (accessTree op).Means text (AccessAt text op) := by
  have hname : Node.Means text (.ofList [.repeated .greedy 1 none (.char wordSet)]) _ :=
    .repeated (by decide) 1
  refine ((Node.Means.letters op).append hname).of_iff fun i j => ?_
  rw [accepts_wordSet]
  rfl

theorem prefersFar_accessTree (text : Array Char) (op : String) :
    (accessTree op).PrefersFar text := by
  have hchars : Node.PrefersFar text _ := .behind_chars (.repeatedSet 1 none wordSet)
    (op.toList.map fun c => Charset.literal (Flags.fold {}) c.toNat false)
  rwa [List.map_map] at hchars

theorem root_chainedAccess (operator : String) (depth : Nat) :
    (((access operator).atLeast depth).extend (.start {})).level.node =
      chainTree depth (accessText operator) := by
  unfold access accessText
  split <;> rfl

theorem head?_accessTree (h : Segment text op i j) (marks : Marks) :
    (outcomes text (accessTree op) i marks).head? = some (j, marks) := by
  have hmeans := means_accessTree text op
  have hmem : (j, marks) ∈ outcomes text (accessTree op) i marks := (hmeans i marks _).mpr ⟨h.1, rfl⟩
  obtain ⟨⟨k, later⟩, hhead, hle⟩ := (prefersFar_accessTree text op).head? hmem
  obtain ⟨haccess, rfl⟩ := (hmeans i marks _).mp (List.mem_of_mem_head? hhead)
  obtain rfl : k = j := Nat.le_antisymm (h.le haccess) hle
  exact hhead

theorem outcomes_accessTree (h : ∀ j, ¬ Segment text op i j) (marks : Marks) :
    outcomes text (accessTree op) i marks = [] := by
  refine List.eq_nil_iff_forall_not_mem.mpr fun o ho => ?_
  obtain ⟨j, hsegment⟩ := (((means_accessTree text op) i marks o).mp ho).1.exists_segment
  exact h j hsegment

section Operator

variable {c : Char} (hop : Opens op c)

include hop

theorem accessTree_ne_char (set : Charset) : accessTree op ≠ .char set := by
  obtain ⟨cs, hcs⟩ : ∃ cs, op.toList = c :: cs := by
    have hfirst := hop.first
    cases hlist : op.toList with
    | nil => simp [hlist] at hfirst
    | cons d cs => exact ⟨cs, by simpa [hlist] using hfirst⟩
  obtain ⟨next, rest, hnodes⟩ := List.exists_cons_of_ne_nil
    (show cs.map (Node.letter {}) ++ [.repeated .greedy 1 none (.char wordSet)] ≠ [] by simp)
  simp [accessTree, hcs, hnodes, Node.ofList]

/-- Where accesses follow each other, each one but the last goes up to the end of its name, since
names and operators have no character in common. -/
theorem exists_steps_of_rounds (h : Rounds (outcomes text (accessTree op)) n o o') :
    ∃ j, Steps (Segment text op) n o.1 j := by
  induction h with
  | none o => exact ⟨o.1, .none _⟩
  | @more n o mid o' hround hrest ih =>
    have haccess := ((means_accessTree text op _ _ _).mp hround).1
    obtain ⟨j, hsteps⟩ := ih
    cases hsteps with
    | none =>
      obtain ⟨k, hsegment⟩ := haccess.exists_segment
      exact ⟨k, .more hsegment (.none k)⟩
    | more hfirst hsteps =>
      obtain ⟨a, hstands, -⟩ := hfirst.1
      exact ⟨j, .more ⟨haccess, hop.not_word hstands⟩ (.more hfirst hsteps)⟩

theorem exists_runFrom_of_mem (h : o ∈ outcomes text (chainTree depth op) i marks) :
    ∃ j, RunFrom text op depth i j := by
  obtain ⟨n, hn, hrounds⟩ := rounds_of_mem h
  obtain ⟨j, hsteps⟩ := exists_steps_of_rounds hop hrounds
  exact exists_runFrom hsteps hn

theorem head?_chainTree (h : RunFrom text op depth i j) (marks : Marks) :
    (outcomes text (chainTree depth op) i marks).head? = some (j, marks) := by
  obtain ⟨n, hn, hsteps, hend⟩ := h
  have hsize : n ≤ text.size - i := by
    by_cases hzero : n = 0
    · omega
    · obtain ⟨g, hlast⟩ := hsteps.exists_last (by omega)
      have hle := hsteps.add_le fun h => h.1.lt
      have := hlast.1.le_size
      omega
  rw [chainTree, outcomes]
  · exact head?_greedyEnds (fun h => h.1.lt) head?_accessTree outcomes_accessTree hsteps hend
      (by omega) (by omega) (by simp)
  · exact accessTree_ne_char hop

theorem runFrom_of_head? (h : (outcomes text (chainTree depth op) i marks).head? = some o) :
    RunFrom text op depth i o.1 := by
  obtain ⟨j, hrun⟩ := exists_runFrom_of_mem hop (List.mem_of_mem_head? h)
  obtain rfl := Option.some.inj (h.symm.trans (head?_chainTree hop hrun marks))
  exact hrun

end Operator

theorem nullable_chainTree (hdepth : 0 < depth) (op : String) :
    (chainTree depth op).nullable = false := by
  have haccess : (accessTree op).nullable = false :=
    nullable_ofList ⟨_, List.mem_append_right _ List.mem_cons_self, rfl⟩
  simp [chainTree, Node.nullable, haccess, Nat.ne_of_gt hdepth]

-- ---------------------------------------------------------------------------
-- Chains that are found
-- ---------------------------------------------------------------------------

section Scan

variable {p : Pattern} {c : Char} (hop : Opens op c) (hdepth : 0 < depth)
  (hroot : p.root = chainTree depth op)

include hop hdepth hroot

/-- From a position between segments on, the matches are the chains that are long enough. -/
theorem scan_chains (h : Pattern.Scan p text s found) (hs : Divides text op s) (i j : Nat) :
    (∃ m ∈ found, m.start = i ∧ m.stop = j) ↔ s ≤ i ∧ ∃ n, depth ≤ n ∧ Chain text op n i j := by
  have hhead {i j} (h : RunFrom text op depth i j) :
      (p.outcomesAt text i).head? = some (j, .blank p.groups) := by
    rw [Pattern.outcomesAt, hroot]
    exact head?_chainTree hop h _
  have hsome {i j} (h : RunFrom text op depth i j) : p.outcomesAt text i ≠ [] := fun hnil => by
    simpa [hnil] using hhead h
  induction h with
  | @done s hnone =>
    refine iff_of_false (by simp) ?_
    rintro ⟨hi, n, hn, hchain⟩
    exact hsome (hchain.runFrom hn) (hnone i hi)
  | @next s rest m hfrom hnone hfirst hrest ih =>
    rw [Pattern.outcomesAt, hroot] at hfirst
    have hrun : RunFrom text op depth m.start m.stop := runFrom_of_head? hop hfirst
    obtain ⟨n, hn, hchain⟩ := hrun.exists_chain hdepth hs hfrom fun g hle hlt k hg =>
      hsome hg (hnone g hle hlt)
    have hmoves : m.start < m.stop := by
      have := hchain.segments.add_le fun h => h.1.lt
      omega
    have hrest := ih (hrun.divides hop hdepth)
    constructor
    · rintro ⟨m', hm', hspan⟩
      rcases List.mem_cons.mp hm' with rfl | hm'
      · obtain ⟨rfl, rfl⟩ := hspan
        exact ⟨hfrom, n, hn, hchain⟩
      · obtain ⟨hi, hchain'⟩ := hrest.mp ⟨m', hm', hspan⟩
        exact ⟨by omega, hchain'⟩
    · rintro ⟨hi, n', hn', hchain'⟩
      have hrun' := hchain'.runFrom hn'
      obtain hlt | rfl | hgt := Nat.lt_trichotomy i m.start
      · exact absurd (hnone i hi hlt) (hsome hrun')
      · exact ⟨m, List.mem_cons_self, rfl, hrun.unique hrun'⟩
      · have hstop : m.stop ≤ i := hchain'.le_of_steps hop (by omega) hchain.segments hgt
        obtain ⟨m', hm', hspan⟩ := hrest.mpr ⟨hstop, n', hn', hchain'⟩
        exact ⟨m', List.mem_cons_of_mem m hm', hspan⟩

end Scan

/-- Spans of matches in the order of the text, which are the chains that are long enough. -/
structure SpansChains (matcher : Matcher) (depth : Int) (op : String) (text : Array Char) : Prop where
  ordered : ((matcher.findAll text).map Match.span).Pairwise (·.1 < ·.1)
  mem_iff : ∀ i j, (i, j) ∈ (matcher.findAll text).map Match.span ↔
    ∃ n : Nat, max depth 1 ≤ n ∧ Chain text op n i j

theorem exists_chain_matcher (depth : Int) (operator : String) (h : max depth 1 < countLimit) :
    ∃ matcher, (Spec.chainedAccess depth operator).matchers = .ok [matcher] ∧
      ∀ text, SpansChains matcher depth (accessText operator) text := by
  obtain ⟨c, hop⟩ := opens_accessText operator
  obtain ⟨least, hleast⟩ : ∃ least : Nat, max depth 1 = least :=
    ⟨_, (Int.toNat_of_nonneg (by omega)).symm⟩
  have hpositive : 0 < least := by omega
  have hfine : ((access operator).atLeast least).fine = true :=
    fine_atLeast (fine_access operator) rfl (by omega)
  obtain ⟨p, hcompile, hroot⟩ : ∃ p, compile ((access operator).atLeast least).source {} = .ok p ∧
      p.root = chainTree least (accessText operator) :=
    ⟨_, compile_source hfine rfl, root_chainedAccess operator least⟩
  have hconsumes : p.root.nullable = false := hroot ▸ nullable_chainTree hpositive _
  have hwritten : isLongInteger least = false := isLongInteger_of_lt (by omega) (by omega)
  refine ⟨{ pattern := p }, ?_, fun text => ⟨?_, fun i j => ?_⟩⟩
  · simp only [Spec.matchers, Spec.recipes, chainedAccessRecipes_eq, ok_bind, hleast, hwritten,
      Bool.false_eq_true, if_false, Int.toNat_natCast, List.mapM_cons, List.mapM_nil,
      Recipe.matcher, hcompile, pure_ok]
  · have hleft := Matcher.leftToRight_findAll { pattern := p } text
    have hpattern : (Matcher.mk p true).pattern.root.nullable = false := hconsumes
    obtain ⟨hlt, -⟩ := Matcher.findAll_consuming hpattern text
    refine List.pairwise_map.mpr (hleft.apart.imp_of_mem fun {a b} ha _ hab => ?_)
    exact Nat.lt_of_lt_of_le (hlt a ha) hab
  · have hscan : Pattern.Scan p text 0 (p.findAll text) := Pattern.scan_findAll hconsumes
    have hchains := scan_chains hop hpositive hroot hscan
      (fun _ _ _ _ _ hlt => absurd hlt (Nat.not_lt_zero _)) i j
    simpa [Match.span, Matcher.findAll, hleast] using hchains

/-- The spans of a description of access chains are the chains that are deep enough, each one as a
whole. A description of deeper chains finds some of these. -/
theorem chainedAccess_finds (depth : Int) (operator : String) (h : max depth 1 < countLimit) :
    ∃ matcher, (Spec.chainedAccess depth operator).matchers = .ok [matcher] ∧
      (∀ text, SpansChains matcher depth (accessText operator) text) ∧
      ∀ deeper matcher', depth ≤ deeper →
        (Spec.chainedAccess deeper operator).matchers = .ok [matcher'] →
        ∀ text, (matcher'.findAll text).map Match.span ⊆ (matcher.findAll text).map Match.span := by
  obtain ⟨matcher, hmatchers, hspans⟩ := exists_chain_matcher depth operator h
  refine ⟨matcher, hmatchers, hspans, ?_⟩
  rintro deeper matcher' hdeeper hmatchers' text ⟨i, j⟩ hmem
  have hlimit : max deeper 1 < countLimit := by
    by_contra hlarge
    have hone : (1 : Int) < countLimit := by decide
    have hdepth : (countLimit : Int) ≤ deeper := by omega
    obtain ⟨e, hfault⟩ := exists_refusal_chainedAccess operator hdepth
    rw [hfault] at hmatchers'
    cases hmatchers'
  obtain ⟨found, hfound, hspans'⟩ := exists_chain_matcher deeper operator hlimit
  obtain rfl : found = matcher' := by
    simpa using Except.ok.inj (hfound.symm.trans hmatchers')
  obtain ⟨n, hn, hchain⟩ := ((hspans' text).mem_iff i j).mp hmem
  exact ((hspans text).mem_iff i j).mpr ⟨n, by omega, hchain⟩

theorem chainedAccess_finds_two : max (2 : Int) 1 < countLimit ∧
    ∃ matcher, (Spec.chainedAccess 2 "?.").matchers = .ok [matcher] ∧
      (1, 7) ∈ (matcher.findAll "a?.b?.c".toList.toArray).map Match.span := by
  refine ⟨by decide, ?_⟩
  obtain ⟨matcher, hmatchers, hspans, -⟩ := chainedAccess_finds 2 "?." (by decide)
  refine ⟨matcher, hmatchers, ((hspans _).mem_iff 1 7).mpr ⟨2, by decide, ?_⟩⟩
  have hsegment {i : Nat} (hstands : Stands "a?.b?.c".toList.toArray "?." i (i + 2))
      (hname : wordAt "a?.b?.c".toList.toArray false (i + 2) = true)
      (hend : wordAt "a?.b?.c".toList.toArray false (i + 3) = false) :
      Segment "a?.b?.c".toList.toArray "?." i (i + 3) := by
    refine ⟨⟨i + 2, hstands, by omega, by omega, fun k hle hlt => ?_⟩, fun hword => ?_⟩
    · obtain rfl : k = i + 2 := by omega
      exact wordAt_iff.mp hname
    · exact absurd (wordAt_iff.mpr hword) (by rw [hend]; decide)
  have hfirst := hsegment (i := 1) ⟨by decide, rfl⟩ (by decide) (by decide)
  have hsecond := hsegment (i := 4) ⟨by decide, rfl⟩ (by decide) (by decide)
  refine ⟨.more hfirst (.more hsecond (.none 7)), fun h hbefore => ?_, fun k hafter => ?_⟩
  · obtain ⟨_, hstands, -⟩ := hbefore.1
    have hlt := hbefore.1.lt
    obtain rfl : h = 0 := by omega
    exact absurd (hstands.char (k := 0) (c := '?') rfl) (by decide)
  · obtain ⟨_, hstands, -⟩ := hafter.1
    exact absurd (hstands.lt_size (by decide)) (by decide)

end CodeAudit.Rule
