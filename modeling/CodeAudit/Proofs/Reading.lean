import CodeAudit.Proofs.Outcome
import CodeAudit.Proofs.Phrase
import Mathlib.Logic.Relation

/-!
# Reading phrases

A well-formed phrase is read back as what it was meant to be, whatever surrounds it
(`reads_phrase`). Each construct has a law of its own for the steps of the reader that it takes, and
the laws are put together along the syntax of phrases.
-/

namespace CodeAudit.Regex

open CodeAudit.Text

-- ---------------------------------------------------------------------------
-- Runs of the reader
-- ---------------------------------------------------------------------------

def Reader.Moves (s s' : Reader × Cursor) : Prop :=
  ∃ t, s.2.next? = some t ∧ s.1.step t s.2 = .ok s' ∧ s'.2.rest.length < s.2.rest.length

open Reader (Moves)

/-- What the reader does from a state is what it does from any state that it moves on to. -/
theorem loop_along (h : Relation.ReflTransGen Moves s s') (hfuel : s.2.rest.length ≤ fuel) :
    ∃ fuel', s'.2.rest.length ≤ fuel' ∧
      Reader.loop fuel s.1 s.2 = Reader.loop fuel' s'.1 s'.2 := by
  induction h using Relation.ReflTransGen.head_induction_on generalizing fuel with
  | refl => exact ⟨fuel, hfuel, rfl⟩
  | head hmove _ ih =>
    obtain ⟨t, ht, hstep, hless⟩ := hmove
    obtain ⟨fuel, rfl⟩ := Nat.exists_eq_succ_of_ne_zero (n := fuel) (by omega)
    simp only [Reader.loop, ht, hstep]
    exact ih (by omega)

theorem loop_of_moves (h : Relation.ReflTransGen Moves s s') (hend : s'.2.rest = [])
    (hfuel : s.2.rest.length ≤ fuel) : Reader.loop fuel s.1 s.2 = s'.1.finish := by
  obtain ⟨fuel', -, hloop⟩ := loop_along h hfuel
  rw [hloop]
  cases fuel' with
  | zero => rfl
  | succ fuel' => simp [Reader.loop, Cursor.next?, hend]

def Reads (r : Reader) (ts rest : List Token) (r' : Reader) : Prop :=
  ∀ p, ∃ p', Relation.ReflTransGen Moves (r, ⟨ts ++ rest, p⟩) (r', ⟨rest, p'⟩)

theorem Reads.nil : Reads r [] rest r :=
  fun p => ⟨p, .refl⟩

theorem Reads.append (h : Reads r ts (us ++ rest) r₁) (h' : Reads r₁ us rest r₂) :
    Reads r (ts ++ us) rest r₂ := by
  intro p
  obtain ⟨p₁, hrun⟩ := h p
  obtain ⟨p₂, hrun'⟩ := h' p₁
  rw [List.append_assoc]
  exact ⟨p₂, hrun.trans hrun'⟩

theorem Reads.of_step
    (h : ∀ p, ∃ p', r.step t ⟨t :: (ts ++ rest), p⟩ = .ok (r', ⟨rest, p'⟩)) :
    Reads r (t :: ts) rest r' := by
  intro p
  obtain ⟨p', hstep⟩ := h p
  exact ⟨p', .single ⟨t, rfl, hstep, by simp only [List.length_cons, List.length_append]; omega⟩⟩

-- ---------------------------------------------------------------------------
-- Cursors
-- ---------------------------------------------------------------------------

theorem checked_eq_ok (h : .dangling ∉ ts) : Cursor.checked ⟨ts, p⟩ = .ok ⟨ts, p⟩ := by
  cases ts with
  | nil => rfl
  | cons t ts =>
    cases t with
    | dangling => simp at h
    | plain c => rfl
    | escape c => rfl

theorem advance_cons (h : .dangling ∉ rest) :
    Cursor.advance ⟨t :: rest, p⟩ = .ok ⟨rest, p + t.width⟩ :=
  checked_eq_ok h

theorem takeUpTo_plain {test : Char → Bool} (hcs : ∀ c ∈ cs, test c = true)
    (hrest : .dangling ∉ rest) (hnext : ∀ c, rest.head? = some (.plain c) → test c = false)
    (hn : cs.length ≤ n) :
    Cursor.takeUpTo test n ⟨cs.map .plain ++ rest, p⟩ = .ok (cs, ⟨rest, p + cs.length⟩) := by
  induction cs generalizing n p with
  | nil =>
    cases n with
    | zero => rfl
    | succ n =>
      unfold Cursor.takeUpTo
      split
      · rename_i c hc
        simp [hnext c hc]
      · rfl
  | cons c cs ih =>
    obtain ⟨n, rfl⟩ := Nat.exists_eq_succ_of_ne_zero (n := n) (by simp at hn; omega)
    obtain ⟨hc, hcs⟩ := List.forall_mem_cons.mp hcs
    have hwhole : .dangling ∉ cs.map Token.plain ++ rest := by simpa using hrest
    simp only [List.map_cons, List.cons_append, Cursor.takeUpTo, Cursor.next?, List.head?_cons, hc,
      ↓reduceIte, advance_cons hwhole]
    have := ih (n := n) (p := p + Token.width (.plain c)) hcs (by simpa using hn)
    simp only [ok_bind, this]
    simp [pure_ok, Token.width, Token.chars]
    omega

-- ---------------------------------------------------------------------------
-- Tokens
-- ---------------------------------------------------------------------------

theorem tokens_chars (h : ∀ t ∈ ts, t ≠ .dangling ∧ t ≠ .plain '\\') :
    Regex.tokens (ts.flatMap Token.chars) = ts := by
  induction ts with
  | nil => rfl
  | cons t ts ih =>
    obtain ⟨⟨hdangling, hslash⟩, hts⟩ := List.forall_mem_cons.mp h
    cases t with
    | dangling => contradiction
    | escape c => simp [Token.chars, Regex.tokens, ih hts]
    | plain c =>
      have hc : c ≠ '\\' := by simpa using hslash
      simp [Token.chars, Regex.tokens, hc, ih hts]

-- ---------------------------------------------------------------------------
-- Bracketed sets
-- ---------------------------------------------------------------------------

theorem isAlpha_isDigit_eq_false {c : Char} (h : c.isAlphanum = false) :
    c.isAlpha = false ∧ c.isDigit = false := by
  simpa [Char.isAlphanum] using h

theorem codeEscape?_eq_none (h : c.isAlphanum = false) : codeEscape? c cur = none := by
  unfold codeEscape?
  split <;> first | rfl | simp at h

theorem isOctDigit_eq_false (h : c.isDigit = false) : isOctDigit c = false := by
  by_contra hoct
  simp only [isOctDigit, Bool.not_eq_false, Bool.and_eq_true, decide_eq_true_eq, Char.le_def,
    UInt32.le_iff_toNat_le] at hoct
  simp only [Char.isDigit, Bool.and_eq_false_iff, decide_eq_false_iff_not,
    UInt32.le_iff_toNat_le, ge_iff_le] at h
  have : '0'.val.toNat = 48 := rfl
  have : '7'.val.toNat = 55 := rfl
  have : '9'.val.toNat = 57 := rfl
  omega

theorem setMember_slashed (h : (Member.slashed c).fine = true) :
    setMember ascii (.escape c) cur = .ok ((Member.slashed c).item ascii, cur) := by
  simp only [setMember, setEscape, Member.item]
  cases hcontrol : controlEscape? c with
  | some code => rfl
  | none =>
    cases hkind : kindEscape? c with
    | some kind => rfl
    | none =>
      have hc : c.isAlphanum = false := by simpa [Member.fine, hcontrol, hkind] using h
      have hletter := isAlpha_isDigit_eq_false hc
      simp [codeEscape?_eq_none hc, isOctDigit_eq_false hletter.2, hletter]

theorem bracketLoop_single (hmember : ∀ cur, setMember ascii t cur = .ok (item, cur))
    (ht : t ≠ .plain ']') (hrest : .dangling ∉ rest) (hnext : rest.head? ≠ some (.plain '-')) :
    bracketLoop ascii opened (fuel + 1) items ⟨t :: rest, p⟩ =
      bracketLoop ascii opened fuel (item :: items) ⟨rest, p + t.width⟩ := by
  simp [bracketLoop, Cursor.next?, Cursor.sees, advance_cons hrest, hmember, ht, hnext, ok_bind]

theorem bracketLoop_dash (hmember : ∀ cur, setMember ascii t cur = .ok (item, cur))
    (ht : t ≠ .plain ']') (hrest : .dangling ∉ rest) :
    bracketLoop ascii opened (fuel + 1) items ⟨t :: .plain '-' :: .plain ']' :: rest, p⟩ =
      .ok ((.single 45 :: item :: items).reverse, ⟨rest, p + t.width + 2⟩) := by
  simp [bracketLoop, Cursor.next?, Cursor.sees, advance_cons, hrest, hmember, ht, ok_bind, pure_ok,
    Token.width, Token.chars]

theorem bracketLoop_span (ha : a ≠ ']') (hb : b ≠ ']') (hle : a ≤ b) (hrest : .dangling ∉ rest) :
    bracketLoop ascii opened (fuel + 1) items
        ⟨.plain a :: .plain '-' :: .plain b :: rest, p⟩ =
      bracketLoop ascii opened fuel (.range a.toNat b.toNat :: items) ⟨rest, p + 3⟩ := by
  have hcodes : ¬ b.toNat < a.toNat := Nat.not_lt.mpr hle
  simp [bracketLoop, Cursor.next?, Cursor.sees, advance_cons, hrest, ha, hb, setMember, setRange,
    hcodes, ok_bind, Token.width, Token.chars]

theorem bracketLoop_close (hitems : items ≠ []) (hrest : .dangling ∉ rest) :
    bracketLoop ascii opened (fuel + 1) items ⟨.plain ']' :: rest, p⟩ =
      .ok (items.reverse, ⟨rest, p + 1⟩) := by
  simp [bracketLoop, Cursor.next?, advance_cons hrest, hitems, ok_bind, pure_ok, Token.width,
    Token.chars]

theorem dangling_notMem_setTokens : .dangling ∉ setTokens members dash := by
  have hmember : ∀ m : Member, .dangling ∉ m.tokens := by
    intro m
    cases m <;> simp [Member.tokens]
  simp only [setTokens, List.mem_append, List.mem_flatMap, not_or, not_exists, not_and]
  exact ⟨fun m _ => hmember m, by cases dash <;> simp⟩

variable {members : List Member} {rest : List Token}

/-- What stands between the first member of a set and its closing bracket begins with a dash only
if that dash ends the set. -/
theorem head?_setTokens (hfine : ∀ m ∈ members, m.fine = true)
    (h : (setTokens members dash ++ .plain ']' :: rest).head? = some (.plain '-')) :
    members = [] ∧ dash = true := by
  cases members with
  | nil => cases dash <;> simp [setTokens] at h ⊢
  | cons m members =>
    obtain ⟨hm, -⟩ := List.forall_mem_cons.mp hfine
    cases m <;> simp [setTokens, Member.tokens] at h <;> simp [Member.fine, h] at hm

def ReadsSet (ascii : Bool) (opened fuel : Nat) (items : List ClassItem) (members : List Member)
    (dash : Bool) (rest : List Token) : Prop :=
  ∀ p, ∃ p', bracketLoop ascii opened fuel items
      ⟨setTokens members dash ++ .plain ']' :: rest, p⟩ =
    .ok (items.reverse ++ setItems ascii members dash, ⟨rest, p'⟩)

theorem bracketLoop_token (hmember : ∀ cur, setMember ascii t cur = .ok (item, cur))
    (ht : t ≠ .plain ']') (hfine : ∀ m ∈ members, m.fine = true) (hrest : .dangling ∉ rest)
    (hloop : ReadsSet ascii opened fuel (item :: items) members dash rest) :
    ∃ p', bracketLoop ascii opened (fuel + 1) items
        ⟨t :: (setTokens members dash ++ .plain ']' :: rest), p⟩ =
      .ok ((item :: items).reverse ++ setItems ascii members dash, ⟨rest, p'⟩) := by
  by_cases hnext : (setTokens members dash ++ .plain ']' :: rest).head? = some (.plain '-')
  · obtain ⟨rfl, rfl⟩ := head?_setTokens hfine hnext
    exact ⟨_, by simpa [setTokens, setItems] using bracketLoop_dash hmember ht hrest⟩
  · rw [bracketLoop_single hmember ht (by simp [dangling_notMem_setTokens, hrest]) hnext]
    exact hloop _

theorem readsSet_nil (hitems : items ≠ []) (hrest : .dangling ∉ rest)
    (hfuel : (setTokens [] dash).length < fuel) :
    ReadsSet ascii opened fuel items [] dash rest := by
  intro p
  cases dash with
  | false =>
    obtain ⟨fuel, rfl⟩ := Nat.exists_eq_succ_of_ne_zero (n := fuel) (by omega)
    exact ⟨_, by simpa [setTokens, setItems] using bracketLoop_close hitems hrest⟩
  | true =>
    have hlength : (setTokens [] true).length = 1 := rfl
    obtain ⟨fuel, rfl⟩ := Nat.exists_eq_add_of_le' (m := 2) (n := fuel) (by omega)
    have hdash : bracketLoop ascii opened (fuel + 2) items
        ⟨.plain '-' :: .plain ']' :: rest, p⟩ = _ :=
      bracketLoop_single (fun cur => rfl) (by simp) (by simpa using hrest) (by simp)
    exact ⟨_, by simpa [setTokens, setItems, bracketLoop_close, hrest] using hdash⟩

theorem readsSet (hfine : ∀ m ∈ members, m.fine = true) (hsome : items ≠ [] ∨ members ≠ [])
    (hrest : .dangling ∉ rest) (hfuel : (setTokens members dash).length < fuel) :
    ReadsSet ascii opened fuel items members dash rest := by
  induction members generalizing items fuel with
  | nil => exact readsSet_nil (by simpa using hsome) hrest hfuel
  | cons m members ih =>
    intro p
    obtain ⟨hm, hothers⟩ := List.forall_mem_cons.mp hfine
    obtain ⟨fuel, rfl⟩ := Nat.exists_eq_succ_of_ne_zero (n := fuel) (by omega)
    have htokens : setTokens (m :: members) dash = m.tokens ++ setTokens members dash := by
      simp [setTokens]
    have hitems : items.reverse ++ setItems ascii (m :: members) dash =
        (m.item ascii :: items).reverse ++ setItems ascii members dash := by
      simp [setItems]
    have hlength : (setTokens members dash).length < fuel := by
      cases m <;> simp [htokens, Member.tokens] at hfuel <;> omega
    have hloop : ReadsSet ascii opened fuel (m.item ascii :: items) members dash rest :=
      ih hothers (.inl (by simp)) hlength
    rw [htokens, hitems, List.append_assoc]
    cases m with
    | one c =>
      have hc : c ≠ ']' := by
        rintro rfl
        simp [Member.fine] at hm
      exact bracketLoop_token (fun cur => rfl) (by simpa using hc) hothers hrest hloop
    | slashed c =>
      exact bracketLoop_token (fun cur => setMember_slashed hm) (by simp) hothers hrest hloop
    | span a b =>
      simp only [Member.fine, List.contains_eq_mem, List.mem_cons, List.not_mem_nil, or_false,
        Bool.and_eq_true, Bool.not_eq_true', decide_eq_false_iff_not, not_or,
        decide_eq_true_eq] at hm
      obtain ⟨⟨⟨-, ha, -, -⟩, -, hb⟩, hle⟩ := hm
      simp only [Member.tokens, List.cons_append, List.nil_append]
      rw [bracketLoop_span ha hb hle (by simp [dangling_notMem_setTokens, hrest])]
      exact hloop _

theorem bracketed_members (hfine : ∀ m ∈ members, m.fine = true) (hsome : members ≠ [])
    (hrest : .dangling ∉ rest) :
    ∃ p', bracketed ascii ⟨(if negated then [.plain '^'] else []) ++
        (setTokens members dash ++ .plain ']' :: rest), p⟩ =
      .ok ((negated, setItems ascii members dash), ⟨rest, p'⟩) := by
  have hloop : ReadsSet ascii (p - 1) ((setTokens members dash ++ .plain ']' :: rest).length + 1)
      [] members dash rest :=
    readsSet hfine (.inr hsome) hrest (by simp only [List.length_cons, List.length_append]; omega)
  cases negated with
  | true =>
    obtain ⟨p', hloop⟩ := hloop (p + 1)
    have hadvance : Cursor.advance ⟨.plain '^' :: (setTokens members dash ++ .plain ']' :: rest), p⟩
        = .ok ⟨setTokens members dash ++ .plain ']' :: rest, p + 1⟩ :=
      advance_cons (by simp [dangling_notMem_setTokens, hrest])
    have hsees : Cursor.sees ⟨.plain '^' :: (setTokens members dash ++ .plain ']' :: rest), p⟩ '^' =
        true := by
      simp [Cursor.sees, Cursor.next?]
    refine ⟨p', ?_⟩
    simp only [bracketed, ↓reduceIte, List.cons_append, List.nil_append, hsees, hadvance, hloop,
      ok_bind, List.reverse_nil, pure_ok]
  | false =>
    obtain ⟨p', hloop⟩ := hloop p
    have hfirst : (setTokens members dash ++ .plain ']' :: rest).head? ≠ some (.plain '^') := by
      obtain ⟨m, others, rfl⟩ := List.exists_cons_of_ne_nil hsome
      obtain ⟨hm, -⟩ := List.forall_mem_cons.mp hfine
      intro h
      cases m <;> simp [setTokens, Member.tokens] at h <;> simp [Member.fine, h] at hm
    refine ⟨p', ?_⟩
    have hsees : Cursor.sees ⟨setTokens members dash ++ .plain ']' :: rest, p⟩ '^' = false := by
      simpa only [Cursor.sees, Cursor.next?, beq_eq_false_iff_ne] using hfirst
    simp only [bracketed, Bool.false_eq_true, ↓reduceIte, List.nil_append, hsees, hloop,
      ok_bind, List.reverse_nil, pure_ok]

-- ---------------------------------------------------------------------------
-- Quantifiers
-- ---------------------------------------------------------------------------

/-- Tokens that do not change the order in which a quantifier before them is tried. -/
def Quiet (ts : List Token) : Prop :=
  ts.head? ≠ some (.plain '?') ∧ ts.head? ≠ some (.plain '+')

def Reader.repeating (r : Reader) (m : Mark) (item : Item) (before : List Item) : Reader :=
  let repeated : Item := { node := m.node item.node, kind := .repetition }
  { r with level := { r.level with items := repeated :: before } }

theorem quantify_mark {r : Reader} {m : Mark} (hitems : r.level.items = item :: before)
    (hatom : item.kind = .atom) (hrest : .dangling ∉ rest) (hquiet : Quiet rest) :
    ∃ p', r.quantify m.bound.limits.1 m.bound.limits.2 position
        ⟨m.tail ++ rest, p⟩ =
      .ok (r.repeating m item before, ⟨rest, p'⟩) := by
  cases hreluctant : m.reluctant with
  | true =>
    simp [Mark.tail, Reader.quantify, hitems, hatom, Cursor.sees, Cursor.next?, advance_cons hrest,
      Reader.repeating, Mark.node, Mark.greed, hreluctant, ok_bind, pure_ok]
  | false =>
    simp [Mark.tail, Reader.quantify, hitems, hatom, Cursor.sees, Cursor.next?, hquiet.1, hquiet.2,
      Reader.repeating, Mark.node, Mark.greed, hreluctant, ok_bind, pure_ok]

theorem ofDigits_toDigits (n : Nat) : ofDigits 10 (Nat.toDigits 10 n) = n := by
  have hdigits : ∀ c ∈ Nat.toDigits 10 n, digitOf c = c.toNat - '0'.toNat := by
    intro c hc
    simp [digitOf, Nat.isDigit_of_mem_toDigits (by decide) (by decide) hc]
  calc ofDigits 10 (Nat.toDigits 10 n)
      = Nat.ofDigitChars 10 (Nat.toDigits 10 n) 0 :=
        List.foldl_ext _ _ _ fun m c hc => by rw [hdigits c hc]
    _ = n := Nat.ofDigitChars_ten_toDigits

theorem length_toDigits_le_maxDigits (h : n ≤ countLimit) :
    (Nat.toDigits 10 n).length ≤ maxDigits := by
  have hten : n < 10 ^ 10 := Nat.lt_of_le_of_lt h (by decide)
  exact Nat.le_trans ((Nat.length_toDigits_le_iff (by decide) (by decide)).mpr hten) (by decide)

theorem repeatCount?_toDigits (h : n < countLimit) :
    Reader.repeatCount? (Nat.toDigits 10 n) = .ok (some n) := by
  have hsome : Nat.toDigits 10 n ≠ [] := Nat.toDigits_ne_nil
  have hshort : ¬ maxDigits < (Nat.toDigits 10 n).length :=
    Nat.not_lt.mpr (length_toDigits_le_maxDigits (Nat.le_of_lt h))
  simp [Reader.repeatCount?, hsome, ofDigits_toDigits, hshort, Nat.not_le.mpr h]

theorem step_read (hr : r.level.flags.verbose = false) (hrest : .dangling ∉ rest)
    (hbar : t ≠ .plain '|') (hclose : t ≠ .plain ')') :
    Reader.step r t ⟨t :: rest, p⟩ = r.readToken t ⟨rest, p + t.width⟩ := by
  simp [Reader.step, hbar, hclose, advance_cons hrest, hr, ok_bind]

theorem Reads.of_read (hr : r.level.flags.verbose = false) (hwhole : .dangling ∉ ts ++ rest)
    (hbar : t ≠ .plain '|') (hclose : t ≠ .plain ')')
    (h : ∀ p, ∃ p', r.readToken t ⟨ts ++ rest, p⟩ = .ok (r', ⟨rest, p'⟩)) :
    Reads r (t :: ts) rest r' := by
  refine .of_step fun p => ?_
  rw [step_read hr hwhole hbar hclose]
  exact h _

theorem takeAll_digits (hrest : .dangling ∉ rest) (hc : c.isDigit = false) :
    Cursor.takeAll Char.isDigit ⟨digitTokens n ++ .plain c :: rest, p⟩ =
      .ok (Nat.toDigits 10 n, ⟨.plain c :: rest, p + (Nat.toDigits 10 n).length⟩) := by
  refine takeUpTo_plain ?_ (by simpa using hrest) ?_ (by simp [digitTokens])
  · intro d hd
    exact Nat.isDigit_of_mem_toDigits (by decide) (by decide) hd
  · intro d hd
    obtain rfl : c = d := by simpa using hd
    exact hc

theorem sees_digits (hc : c.isDigit = false) :
    Cursor.sees ⟨digitTokens n ++ rest, p⟩ c = false := by
  obtain ⟨d, ds, hds⟩ := List.exists_cons_of_ne_nil (Nat.toDigits_ne_nil (n := n) (b := 10))
  have hd : d.isDigit = true :=
    Nat.isDigit_of_mem_toDigits (by decide) (by decide) (hds ▸ List.mem_cons_self)
  have hne : d ≠ c := by
    rintro rfl
    simp [hc] at hd
  simpa [Cursor.sees, Cursor.next?, digitTokens, hds] using hne

theorem takeAll_none (hrest : .dangling ∉ rest) (hc : c.isDigit = false) :
    Cursor.takeAll Char.isDigit ⟨.plain c :: rest, p⟩ = .ok ([], ⟨.plain c :: rest, p⟩) := by
  show Cursor.takeUpTo _ _ ⟨List.map .plain [] ++ .plain c :: rest, p⟩ = _
  exact takeUpTo_plain (by simp) (by simpa using hrest) (by simpa using hc) (by simp)

theorem brace_atLeast {r : Reader} (h : n < countLimit) (hrest : .dangling ∉ rest) :
    r.brace ⟨digitTokens n ++ .plain ',' :: .plain '}' :: rest, p⟩ =
      r.quantify n none (p - 1) ⟨rest, p + (Nat.toDigits 10 n).length + 2⟩ := by
  have hclose : .dangling ∉ Token.plain '}' :: rest := by simpa using hrest
  have hnone : Reader.repeatCount? [] = .ok none := rfl
  simp only [Reader.brace, sees_digits (show Char.isDigit '}' = false by decide),
    takeAll_digits hclose (show Char.isDigit ',' = false by decide), ok_bind]
  simp [Cursor.sees, Cursor.next?, advance_cons, hrest, ok_bind, takeAll_none, pure_ok,
    repeatCount?_toDigits h, hnone, Token.width, Token.chars]

theorem brace_exactly {r : Reader} (h : n < countLimit) (hrest : .dangling ∉ rest) :
    r.brace ⟨digitTokens n ++ .plain '}' :: rest, p⟩ =
      r.quantify n (some n) (p - 1) ⟨rest, p + (Nat.toDigits 10 n).length + 1⟩ := by
  simp only [Reader.brace, sees_digits (show Char.isDigit '}' = false by decide),
    takeAll_digits hrest (show Char.isDigit '}' = false by decide), ok_bind]
  simp [Cursor.sees, Cursor.next?, advance_cons, hrest, ok_bind, pure_ok,
    repeatCount?_toDigits h, Token.width, Token.chars]

theorem dangling_notMem_digitTokens : .dangling ∉ digitTokens n := by
  simp [digitTokens]

theorem reads_mark {r : Reader} {m : Mark} (hfine : m.bound.fine = true)
    (hr : r.level.flags.verbose = false) (hitems : r.level.items = item :: before)
    (hatom : item.kind = .atom) (hrest : .dangling ∉ rest) (hquiet : Quiet rest) :
    Reads r m.tokens rest (r.repeating m item before) := by
  have hmark : ∀ position p, ∃ p', r.quantify m.bound.limits.1 m.bound.limits.2 position
      ⟨m.tail ++ rest, p⟩ = .ok (r.repeating m item before, ⟨rest, p'⟩) :=
    fun position p => quantify_mark hitems hatom hrest hquiet
  have hwhole : .dangling ∉ m.tail ++ rest := by
    cases h : m.reluctant <;> simpa [Mark.tail, h] using hrest
  obtain ⟨bound, reluctant⟩ := m
  cases bound with
  | any => exact .of_read hr hwhole (by simp) (by simp) fun p => hmark _ _
  | some => exact .of_read hr hwhole (by simp) (by simp) fun p => hmark _ _
  | optional => exact .of_read hr hwhole (by simp) (by simp) fun p => hmark _ _
  | atLeast n =>
    have hn : n < countLimit := by simpa [Bound.fine] using hfine
    refine .of_read hr ?_ (by simp) (by simp) fun p => ?_
    · simpa [dangling_notMem_digitTokens] using hwhole
    · obtain ⟨p', hp'⟩ := hmark (p - 1) (p + (Nat.toDigits 10 n).length + 2)
      exact ⟨p', by simpa [Reader.readToken, brace_atLeast hn hwhole, Bound.limits] using hp'⟩
  | exactly n =>
    have hn : n < countLimit := by simpa [Bound.fine] using hfine
    refine .of_read hr ?_ (by simp) (by simp) fun p => ?_
    · simpa [dangling_notMem_digitTokens] using hwhole
    · obtain ⟨p', hp'⟩ := hmark (p - 1) (p + (Nat.toDigits 10 n).length + 1)
      exact ⟨p', by simpa [Reader.readToken, brace_exactly hn hwhole, Bound.limits] using hp'⟩

-- ---------------------------------------------------------------------------
-- Characters and classes
-- ---------------------------------------------------------------------------

theorem readToken_plain (h : c ∉ structuralChars) :
    Reader.readToken r (.plain c) cur = .ok (r.pushCode c.toNat, cur) := by
  unfold Reader.readToken
  split <;> simp_all [structuralChars]

theorem escape_slashed (h : c.isAlphanum = false) :
    Reader.escape r c cur = .ok (r.pushCode c.toNat, cur) := by
  by_cases hslash : c = '\\'
  · subst hslash
    rfl
  have hkind : kindEscape? c = none := by
    unfold kindEscape?
    split <;> first | rfl | simp at h
  have hcontrol : controlEscape? c = none := by
    unfold controlEscape?
    split <;> first | rfl | exact absurd rfl hslash | simp at h
  have hletter := isAlpha_isDigit_eq_false h
  unfold Reader.escape
  split
  · simp at h
  · simp at h
  · simp at h
  · simp at h
  · have hzero : c ≠ '0' := by
      rintro rfl
      simp at h
    simp [hkind, hcontrol, codeEscape?_eq_none h, hletter, hzero]

theorem escape_shorthand : Reader.escape r (kindLetter kind negated) cur =
    .ok (r.pushSet false [.kind kind r.level.flags.ascii negated], cur) := by
  cases kind <;> cases negated <;> rfl

-- ---------------------------------------------------------------------------
-- Phrases
-- ---------------------------------------------------------------------------

variable {e : Phrase}

theorem extend_flags (e : Phrase) (d : Draft) : (e.extend d).level.flags = d.level.flags := by
  induction e generalizing d with
  | repeated mark body ih =>
    simp only [Phrase.extend, Draft.repeatLast]
    split
    · exact ih d
    · exact ih d
  | group kind body ih => cases kind <;> rfl
  | append a b iha ihb => rw [Phrase.extend, ihb, iha]
  | _ => rfl

theorem extend_atom (h : e.isAtom = true) (d : Draft) :
    ∃ item, item.kind = .atom ∧ (e.extend d).level = d.level.push item := by
  cases e with
  | group kind body => cases kind <;> exact ⟨_, rfl, rfl⟩
  | plain c => exact ⟨_, rfl, rfl⟩
  | slashed c => exact ⟨_, rfl, rfl⟩
  | shorthand kind negated => exact ⟨_, rfl, rfl⟩
  | any => exact ⟨_, rfl, rfl⟩
  | set negated members dash => exact ⟨_, rfl, rfl⟩
  | _ => cases h

theorem repeatLast_eq {d : Draft} {m : Mark} (h : d.level.items = item :: before) :
    d.repeatLast m = { d with level := { d.level with
      items := { node := m.node item.node, kind := .repetition } :: before } } := by
  simp [Draft.repeatLast, h]

theorem dangling_notMem_tokens (e : Phrase) : .dangling ∉ e.tokens := by
  induction e with
  | set negated members dash =>
    cases negated <;> simp [Phrase.tokens, dangling_notMem_setTokens]
  | repeated mark body ih =>
    obtain ⟨bound, reluctant⟩ := mark
    cases bound <;> cases reluctant <;>
      simp [Phrase.tokens, Mark.tokens, Mark.tail, Bound.tokens, ih, dangling_notMem_digitTokens]
  | group kind body ih => cases kind <;> simp [Phrase.tokens, GroupKind.tokens, ih]
  | append a b iha ihb => simp [Phrase.tokens, iha, ihb]
  | _ => simp [Phrase.tokens]

theorem quiet_atom (hatom : e.isAtom = true) (hfine : e.fine = true) (rest : List Token) :
    Quiet (e.tokens ++ rest) := by
  cases e with
  | plain c =>
    have hc : c ∉ structuralChars := by simpa [Phrase.fine] using hfine
    refine ⟨?_, ?_⟩ <;> intro h <;> simp [Phrase.tokens] at h <;> simp [structuralChars, h] at hc
  | group kind body => cases kind <;> simp [Phrase.tokens, GroupKind.tokens, Quiet]
  | slashed c => simp [Phrase.tokens, Quiet]
  | shorthand kind negated => simp [Phrase.tokens, Quiet]
  | any => simp [Phrase.tokens, Quiet]
  | set negated members dash => simp [Phrase.tokens, Quiet]
  | _ => cases hatom

theorem quiet_tokens (hfine : e.fine = true) (hrest : Quiet rest) : Quiet (e.tokens ++ rest) := by
  induction e generalizing rest with
  | empty => exact hrest
  | repeated mark body ih =>
    simp only [Phrase.fine, Bool.and_eq_true] at hfine
    rw [Phrase.tokens, List.append_assoc]
    exact quiet_atom hfine.1.2 hfine.2 _
  | append a b iha ihb =>
    simp only [Phrase.fine, Bool.and_eq_true] at hfine
    rw [Phrase.tokens, List.append_assoc]
    exact iha hfine.1 (ihb hfine.2 hrest)
  | wordEdge => simp [Phrase.tokens, Quiet]
  | lineEnd => simp [Phrase.tokens, Quiet]
  | bar => simp [Phrase.tokens, Quiet]
  | _ => exact quiet_atom rfl hfine _

def Reader.draft (r : Reader) : Draft := ⟨r.level, r.widths⟩

def Reader.redraw (r : Reader) (d : Draft) : Reader :=
  { r with level := d.level, widths := d.widths }

/-- The states in which phrases are read: blanks count, and there are no conditional groups. -/
structure Reader.Ready (r : Reader) : Prop where
  exact : r.level.flags.verbose = false
  unconditional : ∀ frame ∈ r.outer, ∀ group, frame.opening ≠ .conditional group

theorem Reader.Ready.redraw_extend {r : Reader} (hr : r.Ready) (e : Phrase) :
    (r.redraw (e.extend r.draft)).Ready :=
  ⟨(congrArg Flags.verbose (extend_flags e r.draft)).trans hr.exact, hr.unconditional⟩

theorem reads_bar {r : Reader} (hr : r.Ready) (hrest : .dangling ∉ rest) :
    Reads r [.plain '|'] rest { r with level := r.level.bar } := by
  refine .of_step fun p => ⟨p + 1, ?_⟩
  have hadvance : Cursor.advance ⟨.plain '|' :: rest, p⟩ = .ok ⟨rest, p + 1⟩ := advance_cons hrest
  simp only [Reader.step, beq_self_eq_true, ↓reduceIte, List.nil_append, hadvance]
  split
  · rename_i group position level outer houter
    exact absurd rfl (hr.unconditional _ (houter ▸ List.mem_cons_self) group)
  · rfl

theorem step_close {r : Reader} (hrest : .dangling ∉ rest) (houter : r.outer = frame :: outer) :
    r.step (.plain ')') ⟨.plain ')' :: rest, p⟩ =
      .ok (r.closeGroup frame outer, ⟨rest, p + 1⟩) := by
  have hadvance : Cursor.advance ⟨.plain ')' :: rest, p⟩ = .ok ⟨rest, p + 1⟩ := advance_cons hrest
  simp [Reader.step, houter, hadvance, ok_bind, pure_ok]

def GroupKind.opening (groups : Nat) : GroupKind → Opening
  | .plain => .plain
  | .capture => .capture groups
  | .notAhead => .ahead true

def Reader.entered (r : Reader) (kind : GroupKind) (position : Nat) : Reader :=
  { r.redraw (r.draft.inside kind) with
    outer := ⟨kind.opening r.groupCount, position, r.level⟩ :: r.outer }

theorem Reader.Ready.entered {r : Reader} (hr : r.Ready) (kind : GroupKind) (position : Nat) :
    (r.entered kind position).Ready := by
  refine ⟨?_, ?_⟩
  · cases kind <;> exact hr.exact
  · intro frame hframe group
    rcases List.mem_cons.mp hframe with rfl | hframe
    · cases kind <;> simp [GroupKind.opening]
    · exact hr.unconditional frame hframe group

theorem step_open {r : Reader} {kind : GroupKind} (hr : r.Ready) (hrest : .dangling ∉ rest)
    (hquiet : Quiet rest) :
    r.step (.plain '(') ⟨kind.tokens ++ rest, p⟩ =
      .ok (r.entered kind p, ⟨rest, p + kind.tokens.length⟩) := by
  cases kind with
  | plain =>
    have hwhole : .dangling ∉ Token.plain '?' :: .plain ':' :: rest := by simpa using hrest
    simp only [GroupKind.tokens, List.cons_append, List.nil_append]
    rw [step_read hr.exact hwhole (by simp) (by simp)]
    simp [Reader.readToken, Reader.openGroup, Cursor.sees, Cursor.next?, advance_cons, hrest,
      ok_bind, pure_ok, Token.width, Token.chars]
    rfl
  | capture =>
    simp only [GroupKind.tokens, List.cons_append, List.nil_append]
    rw [step_read hr.exact hrest (by simp) (by simp)]
    simp [Reader.readToken, Reader.openGroup, Cursor.sees, Cursor.next?, hquiet.1, pure_ok,
      Token.width, Token.chars]
    rfl
  | notAhead =>
    have hwhole : .dangling ∉ Token.plain '?' :: .plain '!' :: rest := by simpa using hrest
    simp only [GroupKind.tokens, List.cons_append, List.nil_append]
    rw [step_read hr.exact hwhole (by simp) (by simp)]
    simp [Reader.readToken, Reader.openGroup, Cursor.sees, Cursor.next?, advance_cons, hrest,
      ok_bind, pure_ok, Token.width, Token.chars]
    rfl

theorem closeGroup_redraw {r : Reader} {kind : GroupKind} {inner : Draft} :
    ((r.entered kind position).redraw inner).closeGroup
        ⟨kind.opening r.groupCount, position, r.level⟩ r.outer =
      r.redraw (r.draft.close kind inner) := by
  cases kind <;> rfl

theorem reads_group {r : Reader} {kind : GroupKind} {inner : Draft} (hr : r.Ready)
    (hrest : .dangling ∉ rest)
    (hquiet : Quiet (body ++ .plain ')' :: rest)) (hbody : .dangling ∉ body)
    (h : ∀ position, Reads (r.entered kind position) body (.plain ')' :: rest)
      ((r.entered kind position).redraw inner)) :
    Reads r (kind.tokens ++ body ++ [.plain ')']) rest (r.redraw (r.draft.close kind inner)) := by
  intro p
  have hopen : Moves (r, ⟨kind.tokens ++ (body ++ .plain ')' :: rest), p⟩)
      (r.entered kind p, ⟨body ++ .plain ')' :: rest, p + kind.tokens.length⟩) :=
    ⟨.plain '(', by cases kind <;> rfl, step_open hr (by simp [hbody, hrest]) hquiet,
      by cases kind <;> simp [GroupKind.tokens] <;> omega⟩
  obtain ⟨p', hrun⟩ := h p (p + kind.tokens.length)
  have hclose : Moves ((r.entered kind p).redraw inner, ⟨.plain ')' :: rest, p'⟩)
      (r.redraw (r.draft.close kind inner), ⟨rest, p' + 1⟩) :=
    ⟨.plain ')', rfl, closeGroup_redraw ▸ step_close hrest rfl, by simp⟩
  simp only [List.append_assoc, List.cons_append, List.nil_append]
  exact ⟨p' + 1, (Relation.ReflTransGen.head hopen hrun).tail hclose⟩

/-- A well-formed phrase is read, and what it adds to the level and the groups of the reader is what
`extend` says. Only a phrase that is one item may be followed by a quantifier. -/
theorem reads_phrase {r : Reader} (hfine : e.fine = true) (hr : r.Ready)
    (hrest : .dangling ∉ rest) (hnext : e.isAtom = true ∨ Quiet rest) :
    Reads r e.tokens rest (r.redraw (e.extend r.draft)) := by
  induction e generalizing r rest with
  | empty => exact .nil
  | plain c =>
    have hc : c ∉ structuralChars := by simpa [Phrase.fine] using hfine
    refine .of_read hr.exact hrest ?_ ?_ fun p => ⟨p, readToken_plain hc⟩
    · rintro ⟨⟩
      simp [structuralChars] at hc
    · rintro ⟨⟩
      simp [structuralChars] at hc
  | slashed c =>
    have hc : c.isAlphanum = false := by simpa [Phrase.fine] using hfine
    exact .of_read hr.exact hrest (by simp) (by simp) fun p => ⟨p, escape_slashed hc⟩
  | shorthand kind negated =>
    exact .of_read hr.exact hrest (by simp) (by simp) fun p => ⟨p, escape_shorthand⟩
  | any => exact .of_read hr.exact hrest (by simp) (by simp) fun p => ⟨p, rfl⟩
  | wordEdge => exact .of_read hr.exact hrest (by simp) (by simp) fun p => ⟨p, rfl⟩
  | lineEnd => exact .of_read hr.exact hrest (by simp) (by simp) fun p => ⟨p, rfl⟩
  | set negated members dash =>
    simp only [Phrase.fine, Bool.and_eq_true, Bool.not_eq_true', List.isEmpty_eq_false_iff,
      List.all_eq_true] at hfine
    obtain ⟨hsome, hmembers⟩ := hfine
    have htokens : (Phrase.set negated members dash).tokens = .plain '[' ::
        ((if negated then [.plain '^'] else []) ++ (setTokens members dash ++ [.plain ']'])) := by
      simp [Phrase.tokens]
    rw [htokens]
    refine .of_read hr.exact ?_ (by simp) (by simp) fun p => ?_
    · cases negated <;> simp [dangling_notMem_setTokens, hrest]
    · obtain ⟨p', hset⟩ : ∃ p', bracketed r.level.flags.ascii
          ⟨(if negated then [.plain '^'] else []) ++
            (setTokens members dash ++ .plain ']' :: rest), p⟩ =
          .ok ((negated, setItems r.level.flags.ascii members dash), ⟨rest, p'⟩) :=
        bracketed_members hmembers hsome hrest
      refine ⟨p', ?_⟩
      simp only [List.append_assoc, List.cons_append, List.nil_append, Reader.readToken, hset,
        ok_bind, pure_ok]
      rfl
  | repeated mark body ih =>
    simp only [Phrase.fine, Bool.and_eq_true] at hfine
    obtain ⟨⟨hmark, hatom⟩, hbody⟩ := hfine
    -- The body is followed by its quantifier, and the quantifier by something quiet.
    have hquiet : Quiet rest := hnext.resolve_left Bool.false_ne_true
    have hwhole : .dangling ∉ mark.tokens ++ rest := by
      have := dangling_notMem_tokens (.repeated mark body)
      simp_all [Phrase.tokens]
    obtain ⟨item, hkind, hitem⟩ := extend_atom hatom r.draft
    have hitems : (body.extend r.draft).level.items = item :: r.level.items :=
      congrArg Level.items hitem
    refine (ih hbody hr hwhole (.inl hatom)).append ?_
    rw [Phrase.extend, repeatLast_eq hitems]
    exact reads_mark hmark (hr.redraw_extend body).exact hitems hkind hrest hquiet
  | group kind body ih =>
    have hwhole : .dangling ∉ Token.plain ')' :: rest := by simpa using hrest
    have hquiet : Quiet (.plain ')' :: rest) := by simp [Quiet]
    refine reads_group hr hrest (quiet_tokens hfine hquiet) (dangling_notMem_tokens body) ?_
    intro position
    have hready := hr.entered kind position
    have hdraft : (r.entered kind position).draft = r.draft.inside kind := rfl
    rw [← hdraft]
    exact ih hfine hready hwhole (.inr hquiet)
  | bar => exact reads_bar hr hrest
  | append a b iha ihb =>
    simp only [Phrase.fine, Bool.and_eq_true] at hfine
    have hquiet : Quiet rest := hnext.resolve_left Bool.false_ne_true
    refine (iha hfine.1 hr ?_ (.inr (quiet_tokens hfine.2 hquiet))).append
      (ihb hfine.2 (hr.redraw_extend a) hrest (.inr hquiet))
    simp [dangling_notMem_tokens, hrest]

end CodeAudit.Regex
