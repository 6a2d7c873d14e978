import CodeAudit.Json
import CodeAudit.Text.Radix
import Mathlib.Data.List.TakeWhile

/-!
# Reading JSON back

A reader of JSON values whose numbers are integers, and the round trip: the text of a value is ASCII
and is read back as that value, entry by entry and in the same order. What was read carries the rest
of the text with the fact that the rest is shorter, so that the reader recurses on rests.
-/

namespace CodeAudit.Json

open CodeAudit.Text

/-- What is left of a text behind something that was read at its start. -/
abbrev Rest (s : List Char) : Type := { r : List Char // r.length < s.length }

namespace Rest

def within (rest : Rest r) (h : r.length < s.length) : Rest s :=
  ⟨rest.1, Nat.lt_trans rest.2 h⟩

end Rest

def isSpace (c : Char) : Bool :=
  c == ' ' || c == '\n' || c == '\r' || c == '\t'

def skipSpace (s : List Char) : { r : List Char // r.length ≤ s.length } :=
  ⟨s.dropWhile isSpace, (List.dropWhile_sublist isSpace).length_le⟩

def readUnit : (s : List Char) → Option (Nat × Rest s)
  | a :: b :: c :: d :: r =>
    if [a, b, c, d].all isHexDigit then
      some (ofDigits 16 [a, b, c, d], ⟨r, by simp only [List.length_cons]; omega⟩)
    else none
  | _ => none

def shortEscapes : List (Char × Char) :=
  [('"', '"'), ('\\', '\\'), ('/', '/'), ('b', '\x08'), ('f', '\x0c'), ('n', '\n'), ('r', '\r'),
    ('t', '\t')]

def readEscape : (s : List Char) → Option (Char × Rest s)
  | [] => none
  | c :: r =>
    if c == 'u' then
      match readUnit r with
      | none => none
      | some (high, ⟨r₁, h₁⟩) =>
        -- A unit that is the first of a pair must have its second one behind it.
        if 0xD800 ≤ high && high < 0xDC00 then
          match r₁ with
          | '\\' :: 'u' :: r₂ =>
            match readUnit r₂ with
            | none => none
            | some (low, ⟨r₃, h₃⟩) =>
              if 0xDC00 ≤ low && low < 0xE000 then
                some (.ofNat (0x10000 + 0x400 * (high - 0xD800) + (low - 0xDC00)),
                  ⟨r₃, by simp only [List.length_cons] at *; omega⟩)
              else none
          | _ => none
        else if 0xDC00 ≤ high && high < 0xE000 then none
        else some (.ofNat high, ⟨r₁, by simp only [List.length_cons]; omega⟩)
    else (shortEscapes.lookup c).map (·, ⟨r, by simp⟩)

def readChar : (s : List Char) → Option (Char × Rest s)
  | [] => none
  | c :: r =>
    if c == '\\' then (readEscape r).map fun (d, rest) => (d, rest.within (by simp))
    else if c == '"' || c.toNat < 32 then none
    else some (c, ⟨r, by simp⟩)

def readText (s : List Char) : Option (List Char × Rest s) :=
  match s with
  | [] => none
  | c :: r =>
    if c == '"' then some ([], ⟨r, by simp⟩)
    else
      match readChar (c :: r) with
      | none => none
      | some (d, ⟨r', h⟩) => (readText r').map fun (ds, rest) => (d :: ds, rest.within h)
termination_by s.length
decreasing_by exact h

def readNat : (s : List Char) → Option (Nat × Rest s)
  | [] => none
  | c :: r =>
    if c == '0' then some (0, ⟨r, by simp⟩)
    else if c.isDigit then
      some (Nat.ofDigitChars 10 (c :: r.takeWhile Char.isDigit) 0,
        ⟨r.dropWhile Char.isDigit, Nat.lt_succ_of_le (List.dropWhile_sublist _).length_le⟩)
    else none

def readInt : (s : List Char) → Option (Int × Rest s)
  | [] => none
  | c :: r =>
    if c == '-' then (readNat r).map fun (n, rest) => (-n, rest.within (by simp))
    else (readNat (c :: r)).map fun (n, rest) => (n, rest)

mutual

def readValue (s : List Char) : Option (Json × Rest s) :=
  match skipSpace s with
  | ⟨[], _⟩ => none
  | ⟨c :: r, h⟩ =>
    if c == '-' || c.isDigit then
      (readInt (c :: r)).map fun (n, rest) => (.int n, ⟨rest.1, Nat.lt_of_lt_of_le rest.2 h⟩)
    else
      match c, r, h with
      | '"', r, h => (readText r).map fun (cs, rest) => (.str (.ofList cs), rest.within h)
      | '[', r, h =>
        match skipSpace r with
        | ⟨']' :: r', h'⟩ => some (.arr [], ⟨r', by simp only [List.length_cons] at *; omega⟩)
        | _ => (readItems r).map fun (items, rest) => (.arr items, rest.within h)
      | '{', r, h =>
        match skipSpace r with
        | ⟨'}' :: r', h'⟩ => some (.obj [], ⟨r', by simp only [List.length_cons] at *; omega⟩)
        | _ => (readEntries r).map fun (entries, rest) => (.obj entries, rest.within h)
      | 'n', 'u' :: 'l' :: 'l' :: r, h =>
        some (.null, ⟨r, by simp only [List.length_cons] at *; omega⟩)
      | 't', 'r' :: 'u' :: 'e' :: r, h =>
        some (.bool true, ⟨r, by simp only [List.length_cons] at *; omega⟩)
      | 'f', 'a' :: 'l' :: 's' :: 'e' :: r, h =>
        some (.bool false, ⟨r, by simp only [List.length_cons] at *; omega⟩)
      | _, _, _ => none
termination_by (s.length, 0)
decreasing_by
  · exact .left _ _ h
  · exact .left _ _ h

def readItems (s : List Char) : Option (List Json × Rest s) :=
  match readValue s with
  | none => none
  | some (item, ⟨r, h⟩) =>
    match skipSpace r with
    | ⟨',' :: r', h'⟩ =>
      (readItems r').map fun (items, rest) =>
        (item :: items, rest.within (by simp only [List.length_cons] at *; omega))
    | ⟨']' :: r', h'⟩ => some ([item], ⟨r', by simp only [List.length_cons] at *; omega⟩)
    | _ => none
termination_by (s.length, 1)
decreasing_by
  · exact .right _ Nat.one_pos
  · exact .left _ _ (by simp only [List.length_cons] at *; omega)

def readEntries (s : List Char) : Option (List (String × Json) × Rest s) :=
  match skipSpace s with
  | ⟨'"' :: r, h⟩ =>
    match readText r with
    | none => none
    | some (key, ⟨r₁, h₁⟩) =>
      match skipSpace r₁ with
      | ⟨':' :: r₂, h₂⟩ =>
        match readValue r₂ with
        | none => none
        | some (value, ⟨r₃, h₃⟩) =>
          match skipSpace r₃ with
          | ⟨',' :: r₄, h₄⟩ =>
            (readEntries r₄).map fun (entries, rest) =>
              ((.ofList key, value) :: entries,
                rest.within (by simp only [List.length_cons] at *; omega))
          | ⟨'}' :: r₄, h₄⟩ =>
            some ([(.ofList key, value)], ⟨r₄, by simp only [List.length_cons] at *; omega⟩)
          | _ => none
      | _ => none
  | _ => none
termination_by (s.length, 1)
decreasing_by
  · exact .left _ _ (by simp only [List.length_cons] at *; omega)
  · exact .left _ _ (by simp only [List.length_cons] at *; omega)

end

def ofText? (s : String) : Option Json :=
  match readValue s.toList with
  | some (value, ⟨r, _⟩) => if r.all isSpace then some value else none
  | none => none

-- ---------------------------------------------------------------------------
-- Characters
-- ---------------------------------------------------------------------------

/-- What was read and the rest, without the proof that the rest is shorter. -/
def found (reading : Option (α × Rest s)) : Option (α × List Char) :=
  reading.map fun (a, rest) => (a, rest.1)

theorem found_eq_some {reading : Option (α × Rest s)} :
    found reading = some (a, r) ↔ ∃ h, reading = some (a, ⟨r, h⟩) := by
  cases reading with
  | none => simp [found]
  | some p =>
    obtain ⟨b, r', h'⟩ := p
    simp only [found, Option.map_some, Option.some.injEq, Prod.mk.injEq, Subtype.mk.injEq]
    constructor
    · rintro ⟨rfl, rfl⟩
      exact ⟨h', rfl, rfl⟩
    · rintro ⟨h, rfl, rfl⟩
      exact ⟨rfl, rfl⟩

theorem digitOf_hexDigit :
    ∀ n < 16, isHexDigit (hexDigit n) = true ∧ digitOf (hexDigit n) = n := by
  decide

theorem readUnit_hexDigits (h : n < 0x10000) (r : List Char) :
    found (readUnit (hexDigits 4 n ++ r)) = some (n, r) := by
  obtain ⟨ha, hav⟩ := digitOf_hexDigit (n / 16 / 16 / 16 % 16) (Nat.mod_lt _ (by decide))
  obtain ⟨hb, hbv⟩ := digitOf_hexDigit (n / 16 / 16 % 16) (Nat.mod_lt _ (by decide))
  obtain ⟨hc, hcv⟩ := digitOf_hexDigit (n / 16 % 16) (Nat.mod_lt _ (by decide))
  obtain ⟨hd, hdv⟩ := digitOf_hexDigit (n % 16) (Nat.mod_lt _ (by decide))
  have hvalue : 16 * (16 * (16 * (n / 16 / 16 / 16 % 16) + n / 16 / 16 % 16) + n / 16 % 16) +
      n % 16 = n := by omega
  simp [found, hexDigits, readUnit, ha, hb, hc, hd, ofDigits, hav, hbv, hcv, hdv, hvalue]

theorem toNat_cases (c : Char) : c.toNat < 0xD800 ∨ (0xDFFF < c.toNat ∧ c.toNat < 0x110000) :=
  c.valid

theorem eq_ofNat_of_toNat {c : Char} (h : c.toNat = n) : c = .ofNat n := by
  rw [← h, Char.ofNat_toNat]

theorem readEscape_unit {c : Char} (hlow : c.toNat < 0x10000) (r : List Char) :
    found (readEscape ('u' :: (hexDigits 4 c.toNat ++ r))) = some (c, r) := by
  obtain ⟨hr, hunit⟩ := found_eq_some.mp (readUnit_hexDigits hlow r)
  have hvalid := toNat_cases c
  have hhigh : ¬ (0xD800 ≤ c.toNat ∧ c.toNat < 0xDC00) := by omega
  have hsecond : ¬ (0xDC00 ≤ c.toNat ∧ c.toNat < 0xE000) := by omega
  simp [found, readEscape, hunit, hhigh, hsecond]

theorem readEscape_pair (high low : Nat) (hhigh : 0xD800 ≤ high ∧ high < 0xDC00)
    (hlow : 0xDC00 ≤ low ∧ low < 0xE000) (r : List Char) :
    found (readEscape ('u' :: (hexDigits 4 high ++ '\\' :: 'u' :: (hexDigits 4 low ++ r)))) =
      some (.ofNat (0x10000 + 0x400 * (high - 0xD800) + (low - 0xDC00)), r) := by
  obtain ⟨h₁, hunit₁⟩ := found_eq_some.mp (readUnit_hexDigits (n := high) (by omega)
    ('\\' :: 'u' :: (hexDigits 4 low ++ r)))
  obtain ⟨h₂, hunit₂⟩ := found_eq_some.mp (readUnit_hexDigits (n := low) (by omega) r)
  simp [found, readEscape, hunit₁, hunit₂, hhigh, hlow]

theorem readChar_escape {r : List Char} (h : found (readEscape r) = some (c, r')) :
    found (readChar ('\\' :: r)) = some (c, r') := by
  obtain ⟨hr, hread⟩ := found_eq_some.mp h
  simp [found, readChar, hread, Rest.within]

theorem lookup_shortEscapes : ∀ p ∈ shortEscapes,
    p.1 ≠ 'u' ∧ p.1.toNat < 128 ∧ shortEscapes.lookup p.1 = some p.2 := by
  decide

theorem readChar_short (h : (letter, c) ∈ shortEscapes) (r : List Char) :
    found (readChar ('\\' :: letter :: r)) = some (c, r) := by
  obtain ⟨hu, -, hlookup⟩ := lookup_shortEscapes (letter, c) h
  dsimp only at hu hlookup
  exact readChar_escape (by simp [found, readEscape, hu, hlookup])

/-- All the ways in which a character is written: by a short escape, as it is, or by the escapes of
one or two units. -/
theorem writeChar_cases (c : Char) :
    (∃ letter, (letter, c) ∈ shortEscapes ∧ writeChar c = ['\\', letter]) ∨
    (c ≠ '"' ∧ c ≠ '\\' ∧ 32 ≤ c.toNat ∧ c.toNat < 127 ∧ writeChar c = [c]) ∨
    (c.toNat < 0x10000 ∧ writeChar c = unitEscape c.toNat) ∨
    (0x10000 ≤ c.toNat ∧ writeChar c = unitEscape (0xD800 + (c.toNat - 0x10000) / 0x400) ++
      unitEscape (0xDC00 + (c.toNat - 0x10000) % 0x400)) := by
  by_cases hshort : c ∈ ['"', '\\', '\n', '\r', '\t', '\x08', '\x0c']
  · left
    simp only [List.mem_cons, List.not_mem_nil, or_false] at hshort
    obtain rfl | rfl | rfl | rfl | rfl | rfl | rfl := hshort
    · exact ⟨'"', by decide, rfl⟩
    · exact ⟨'\\', by decide, rfl⟩
    · exact ⟨'n', by decide, rfl⟩
    · exact ⟨'r', by decide, rfl⟩
    · exact ⟨'t', by decide, rfl⟩
    · exact ⟨'b', by decide, rfl⟩
    · exact ⟨'f', by decide, rfl⟩
  · right
    simp only [List.mem_cons, List.not_mem_nil, or_false, not_or] at hshort
    obtain ⟨hquote, hslash, hn, hr, ht, hb, hf⟩ := hshort
    have hb' : c.toNat ≠ 8 := fun h => hb (eq_ofNat_of_toNat h)
    have hf' : c.toNat ≠ 12 := fun h => hf (eq_ofNat_of_toNat h)
    by_cases hplain : 32 ≤ c.toNat ∧ c.toNat < 127
    · exact .inl ⟨hquote, hslash, hplain.1, hplain.2,
        by simp [writeChar, hquote, hslash, hn, hr, ht, hb', hf', hplain]⟩
    · right
      by_cases hlow : c.toNat < 0x10000
      · exact .inl ⟨hlow,
          by simp [writeChar, hquote, hslash, hn, hr, ht, hb', hf', hplain, hlow]⟩
      · exact .inr ⟨Nat.not_lt.mp hlow,
          by simp [writeChar, hquote, hslash, hn, hr, ht, hb', hf', hplain, hlow]⟩

theorem readChar_writeChar (c : Char) (r : List Char) :
    found (readChar (writeChar c ++ r)) = some (c, r) := by
  obtain ⟨letter, hletter, hwrite⟩ | ⟨hquote, hslash, hle, -, hwrite⟩ | ⟨hlow, hwrite⟩ |
    ⟨hhigh, hwrite⟩ := writeChar_cases c
  · exact hwrite ▸ readChar_short hletter r
  · rw [hwrite, List.singleton_append]
    simp [found, readChar, hquote, hslash, hle]
  · exact hwrite ▸ readChar_escape (readEscape_unit hlow r)
  · -- The two units hold the code point, and both are in the ranges that the reader asks for.
    have hvalid := toNat_cases c
    have hpair := readEscape_pair (0xD800 + (c.toNat - 0x10000) / 0x400)
      (0xDC00 + (c.toNat - 0x10000) % 0x400) (by omega) (by omega) r
    have hcode : 0x10000 + 0x400 * (0xD800 + (c.toNat - 0x10000) / 0x400 - 0xD800) +
        (0xDC00 + (c.toNat - 0x10000) % 0x400 - 0xDC00) = c.toNat := by omega
    rw [hcode, Char.ofNat_toNat] at hpair
    rw [hwrite, List.append_assoc]
    exact readChar_escape hpair

theorem writeChar_head (c : Char) : ∃ d ds, writeChar c = d :: ds ∧ d ≠ '"' := by
  obtain ⟨letter, -, hwrite⟩ | ⟨hquote, -, -, -, hwrite⟩ | ⟨-, hwrite⟩ | ⟨-, hwrite⟩ :=
    writeChar_cases c
  · exact ⟨_, _, hwrite, by decide⟩
  · exact ⟨_, _, hwrite, hquote⟩
  · exact ⟨_, _, hwrite, by decide⟩
  · exact ⟨_, _, hwrite, by decide⟩

theorem readText_cons (hd : d ≠ '"') (hchar : found (readChar (d :: s)) = some (c, r))
    (htext : found (readText r) = some (cs, r')) :
    found (readText (d :: s)) = some (c :: cs, r') := by
  obtain ⟨h₁, hchar⟩ := found_eq_some.mp hchar
  obtain ⟨h₂, htext⟩ := found_eq_some.mp htext
  rw [readText]
  simp [hd, hchar, htext, found, Rest.within]

theorem readText_write (cs r : List Char) :
    found (readText (cs.flatMap writeChar ++ '"' :: r)) = some (cs, r) := by
  induction cs with
  | nil =>
    rw [List.flatMap_nil, List.nil_append, readText]
    rfl
  | cons c cs ih =>
    obtain ⟨d, ds, hc, hd⟩ := writeChar_head c
    have hchar := readChar_writeChar c (cs.flatMap writeChar ++ '"' :: r)
    rw [List.flatMap_cons, List.append_assoc]
    rw [hc] at hchar ⊢
    exact readText_cons hd hchar ih

-- ---------------------------------------------------------------------------
-- Numbers
-- ---------------------------------------------------------------------------

def NoDigit (r : List Char) : Prop := ∀ c ∈ r.head?, c.isDigit = false

theorem toDigits_head (h : n ≠ 0) : ∃ d ds, Nat.toDigits 10 n = d :: ds ∧ d ≠ '0' := by
  induction n using Nat.strongRecOn with
  | ind n ih =>
    by_cases hsmall : n < 10
    · exact ⟨_, _, Nat.toDigits_of_lt_base hsmall, by simpa using h⟩
    · obtain ⟨d, ds, hds, hd⟩ := ih (n / 10) (by omega) (by omega)
      exact ⟨d, _, by rw [Nat.toDigits_of_base_le (by decide) (Nat.not_lt.mp hsmall), hds]; rfl, hd⟩

theorem isDigit_of_mem_digits (hc : c ∈ Nat.toDigits 10 n) : c.isDigit = true :=
  Nat.isDigit_of_mem_toDigits (by decide) (by decide) hc

theorem takeWhile_digits (hds : ∀ c ∈ ds, c.isDigit = true) (hr : NoDigit r) :
    (ds ++ r).takeWhile Char.isDigit = ds ∧ (ds ++ r).dropWhile Char.isDigit = r := by
  rw [List.takeWhile_append_of_pos hds, List.dropWhile_append_of_pos hds]
  cases r with
  | nil => simp
  | cons c r =>
    have hc : c.isDigit = false := hr c rfl
    simp [hc]

theorem readNat_toDigits (n : Nat) (hr : NoDigit r) :
    found (readNat (Nat.toDigits 10 n ++ r)) = some (n, r) := by
  by_cases hzero : n = 0
  · rw [hzero, Nat.toDigits_zero]
    rfl
  · obtain ⟨d, ds, hds, hd⟩ := toDigits_head hzero
    obtain ⟨hdigit, hrest⟩ := List.forall_mem_cons.mp fun c (hc : c ∈ d :: ds) =>
      isDigit_of_mem_digits (hds ▸ hc)
    obtain ⟨htake, hdrop⟩ := takeWhile_digits hrest hr
    have hvalue : Nat.ofDigitChars 10 (d :: ds) 0 = n := hds ▸ Nat.ofDigitChars_ten_toDigits
    rw [hds, List.cons_append]
    simp [found, readNat, hd, hdigit, htake, hdrop, hvalue]

theorem toList_toString (n : Int) : (toString n).toList =
    if 0 ≤ n then Nat.toDigits 10 n.toNat else '-' :: Nat.toDigits 10 (-n).toNat := by
  rw [Int.toString_eq_repr, Int.repr_eq_if]
  split <;> simp

theorem toDigits_cons (n : Nat) :
    ∃ d ds, Nat.toDigits 10 n = d :: ds ∧ d.isDigit = true ∧ d ≠ '-' := by
  obtain ⟨d, ds, hds⟩ := List.exists_cons_of_ne_nil (Nat.toDigits_ne_nil (n := n) (b := 10))
  have hd : d.isDigit = true := isDigit_of_mem_digits (hds ▸ List.mem_cons_self)
  refine ⟨d, ds, hds, hd, ?_⟩
  rintro rfl
  exact absurd hd (by decide)

theorem toString_head (n : Int) :
    ∃ c cs, (toString n).toList = c :: cs ∧ (c == '-' || c.isDigit) = true := by
  rw [toList_toString]
  split
  · obtain ⟨d, ds, hds, hd, -⟩ := toDigits_cons n.toNat
    exact ⟨d, ds, hds, by simp [hd]⟩
  · exact ⟨'-', _, rfl, rfl⟩

theorem readInt_toString (n : Int) (hr : NoDigit r) :
    found (readInt ((toString n).toList ++ r)) = some (n, r) := by
  by_cases hn : 0 ≤ n
  · have hread := readNat_toDigits n.toNat hr
    obtain ⟨d, ds, hds, -, hsign⟩ := toDigits_cons n.toNat
    rw [toList_toString, if_pos hn]
    rw [hds, List.cons_append] at hread ⊢
    obtain ⟨h, hread⟩ := found_eq_some.mp hread
    simp only [readInt, hread, beq_iff_eq, hsign, if_false, found, Option.map_some,
      Option.some.injEq, Prod.mk.injEq, and_true]
    omega
  · obtain ⟨h, hread⟩ := found_eq_some.mp (readNat_toDigits (-n).toNat hr)
    rw [toList_toString, if_neg hn, List.cons_append]
    simp only [readInt, hread, beq_self_eq_true, if_true, found, Option.map_some, Rest.within,
      Option.some.injEq, Prod.mk.injEq, and_true]
    omega

-- ---------------------------------------------------------------------------
-- Values
-- ---------------------------------------------------------------------------

def Spaces (before : List Char) : Prop := ∀ c ∈ before, isSpace c = true

theorem Spaces.nil : Spaces [] :=
  List.forall_mem_nil _

theorem skipSpace_append (hbefore : Spaces before) (hc : isSpace c = false) (r : List Char) :
    skipSpace (before ++ c :: r) =
      ⟨c :: r, (List.sublist_append_right before (c :: r)).length_le⟩ := by
  refine Subtype.ext ?_
  simp only [skipSpace]
  rw [List.dropWhile_append_of_pos hbefore, List.dropWhile_cons_of_neg (by simp [hc])]

theorem skipSpace_cons (hc : isSpace c = false) (r : List Char) :
    skipSpace (c :: r) = ⟨c :: r, Nat.le_refl _⟩ :=
  skipSpace_append Spaces.nil hc r

theorem spaces_newLine (depth : Nat) : Spaces (newLine depth).toList := by
  intro c hc
  simp only [newLine, String.toList_ofList, List.mem_cons, List.mem_replicate] at hc
  obtain rfl | ⟨-, rfl⟩ := hc <;> rfl

theorem toList_write_arr (item : Json) (rest : List Json) (depth : Nat) (r : List Char) :
    (write depth (.arr (item :: rest))).toList ++ r = '[' ::
      ((writeItems (depth + 1) (item :: rest)).toList ++ ((newLine depth).toList ++ ']' :: r)) := by
  simp [write]

theorem toList_write_obj (entry : String × Json) (rest : List (String × Json)) (depth : Nat)
    (r : List Char) : (write depth (.obj (entry :: rest))).toList ++ r = '{' ::
      ((writeEntries (depth + 1) (entry :: rest)).toList ++
        ((newLine depth).toList ++ '}' :: r)) := by
  simp [write]

theorem toList_writeString (s : String) :
    (writeString s).toList = '"' :: (s.toList.flatMap writeChar ++ ['"']) := by
  simp [writeString]

theorem isSpace_of_number (h : (c == '-' || c.isDigit) = true) : isSpace c = false ∧ c ≠ ']' := by
  constructor
  · by_contra hspace
    simp only [isSpace, Bool.not_eq_false, Bool.or_eq_true, beq_iff_eq] at hspace
    obtain ((rfl | rfl) | rfl) | rfl := hspace <;> exact absurd h (by decide)
  · rintro rfl
    exact absurd h (by decide)

theorem write_head (v : Json) (depth : Nat) :
    ∃ c cs, (write depth v).toList = c :: cs ∧ isSpace c = false ∧ c ≠ ']' := by
  cases v with
  | null => exact ⟨'n', "ull".toList, by simp [write], by decide⟩
  | bool b =>
    cases b with
    | true => exact ⟨'t', "rue".toList, by simp [write], by decide⟩
    | false => exact ⟨'f', "alse".toList, by simp [write], by decide⟩
  | int n =>
    obtain ⟨c, cs, hcs, hc⟩ := toString_head n
    exact ⟨c, cs, by rw [write, hcs], isSpace_of_number hc⟩
  | str s => exact ⟨'"', _, by rw [write, toList_writeString], by decide⟩
  | arr items =>
    cases items with
    | nil => exact ⟨'[', [']'], by simp [write], by decide⟩
    | cons item rest => exact ⟨'[', _, by simp [write]; rfl, by decide⟩
  | obj entries =>
    cases entries with
    | nil => exact ⟨'{', ['}'], by simp [write], by decide⟩
    | cons entry rest => exact ⟨'{', _, by simp [write]; rfl, by decide⟩

theorem readValue_int (hbefore : Spaces before) (n : Int) (hr : NoDigit r) :
    found (readValue (before ++ ((toString n).toList ++ r))) = some (.int n, r) := by
  have hread := readInt_toString n hr
  obtain ⟨c, cs, hcs, hc⟩ := toString_head n
  rw [hcs, List.cons_append] at hread ⊢
  obtain ⟨h, hread⟩ := found_eq_some.mp hread
  rw [readValue, skipSpace_append hbefore (isSpace_of_number hc).1]
  simp [hc, hread, found]

theorem readValue_str (hbefore : Spaces before) (s : String) (r : List Char) :
    found (readValue (before ++ ((writeString s).toList ++ r))) = some (.str s, r) := by
  obtain ⟨h, hread⟩ := found_eq_some.mp (readText_write s.toList r)
  have htext : (writeString s).toList ++ r = '"' :: (s.toList.flatMap writeChar ++ '"' :: r) := by
    simp [toList_writeString]
  rw [htext, readValue, skipSpace_append hbefore (by decide)]
  simp [hread, found, Rest.within]

theorem readValue_word (hbefore : Spaces before) (r : List Char) :
    found (readValue (before ++ ("null".toList ++ r))) = some (.null, r) ∧
      found (readValue (before ++ ("true".toList ++ r))) = some (.bool true, r) ∧
      found (readValue (before ++ ("false".toList ++ r))) = some (.bool false, r) := by
  refine ⟨?_, ?_, ?_⟩
  · show found (readValue (before ++ 'n' :: 'u' :: 'l' :: 'l' :: r)) = _
    rw [readValue, skipSpace_append hbefore (by decide)]
    simp [found]
  · show found (readValue (before ++ 't' :: 'r' :: 'u' :: 'e' :: r)) = _
    rw [readValue, skipSpace_append hbefore (by decide)]
    simp [found]
  · show found (readValue (before ++ 'f' :: 'a' :: 'l' :: 's' :: 'e' :: r)) = _
    rw [readValue, skipSpace_append hbefore (by decide)]
    simp [found]

theorem readValue_empty (hbefore : Spaces before) (r : List Char) :
    found (readValue (before ++ '[' :: ']' :: r)) = some (.arr [], r) ∧
      found (readValue (before ++ '{' :: '}' :: r)) = some (.obj [], r) := by
  constructor
  · rw [readValue, skipSpace_append hbefore (by decide)]
    simp [found, skipSpace_cons (c := ']') (by decide)]
  · rw [readValue, skipSpace_append hbefore (by decide)]
    simp [found, skipSpace_cons (c := '}') (by decide)]

theorem readValue_arr (hbefore : Spaces before) (hstart : skipSpace s = ⟨c :: s', h'⟩)
    (hc : c ≠ ']') (hitems : found (readItems s) = some (items, r)) :
    found (readValue (before ++ '[' :: s)) = some (.arr items, r) := by
  obtain ⟨h, hread⟩ := found_eq_some.mp hitems
  rw [readValue, skipSpace_append hbefore (by decide)]
  simp [found, hstart, hc, hread, Rest.within]

theorem readValue_obj (hbefore : Spaces before) (hstart : skipSpace s = ⟨'"' :: s', h'⟩)
    (hentries : found (readEntries s) = some (entries, r)) :
    found (readValue (before ++ '{' :: s)) = some (.obj entries, r) := by
  obtain ⟨h, hread⟩ := found_eq_some.mp hentries
  rw [readValue, skipSpace_append hbefore (by decide)]
  simp [found, hstart, hread, Rest.within]

theorem readItems_last (hvalue : found (readValue s) = some (v, space ++ ']' :: r))
    (hspace : Spaces space) : found (readItems s) = some ([v], r) := by
  obtain ⟨h, hread⟩ := found_eq_some.mp hvalue
  rw [readItems]
  simp [found, hread, skipSpace_append hspace (c := ']') (by decide)]

theorem readItems_more (hvalue : found (readValue s) = some (v, ',' :: r))
    (hitems : found (readItems r) = some (vs, r')) :
    found (readItems s) = some (v :: vs, r') := by
  obtain ⟨h, hread⟩ := found_eq_some.mp hvalue
  obtain ⟨h', hread'⟩ := found_eq_some.mp hitems
  rw [readItems]
  simp [found, hread, skipSpace_cons (c := ',') (by decide), hread', Rest.within]

theorem readEntries_last (hbefore : Spaces before) (key : String)
    (hvalue : found (readValue s) = some (v, space ++ '}' :: r)) (hspace : Spaces space) :
    found (readEntries (before ++ ((writeString key).toList ++ ':' :: s))) =
      some ([(key, v)], r) := by
  obtain ⟨h, hkey⟩ := found_eq_some.mp (readText_write key.toList (':' :: s))
  obtain ⟨h', hread⟩ := found_eq_some.mp hvalue
  rw [toList_writeString, List.cons_append, List.append_assoc, List.singleton_append, readEntries,
    skipSpace_append hbefore (by decide)]
  simp [found, hkey, skipSpace_cons (c := ':') (by decide), hread,
    skipSpace_append hspace (c := '}') (by decide)]

theorem readEntries_more (hbefore : Spaces before) (key : String)
    (hvalue : found (readValue s) = some (v, ',' :: r))
    (hentries : found (readEntries r) = some (vs, r')) :
    found (readEntries (before ++ ((writeString key).toList ++ ':' :: s))) =
      some ((key, v) :: vs, r') := by
  obtain ⟨h, hkey⟩ := found_eq_some.mp (readText_write key.toList (':' :: s))
  obtain ⟨h', hread⟩ := found_eq_some.mp hvalue
  obtain ⟨h'', hread'⟩ := found_eq_some.mp hentries
  rw [toList_writeString, List.cons_append, List.append_assoc, List.singleton_append, readEntries,
    skipSpace_append hbefore (by decide)]
  simp [found, hkey, skipSpace_cons (c := ':') (by decide), hread,
    skipSpace_cons (c := ',') (by decide), hread', Rest.within]

theorem noDigit_newLine (depth : Nat) (r : List Char) : NoDigit ((newLine depth).toList ++ r) := by
  simp [NoDigit, newLine]

theorem noDigit_comma (r : List Char) : NoDigit (',' :: r) := by
  simp [NoDigit]

theorem toList_writeItems (item : Json) (rest : List Json) (depth : Nat) (r : List Char) :
    (writeItems depth (item :: rest)).toList ++ r = (newLine depth).toList ++
      ((write depth item).toList ++
        (if rest = [] then r else ',' :: ((writeItems depth rest).toList ++ r))) := by
  cases rest <;> simp [writeItems]

theorem toList_writeEntries (key : String) (value : Json) (rest : List (String × Json))
    (depth : Nat) (r : List Char) :
    (writeEntries depth ((key, value) :: rest)).toList ++ r = (newLine depth).toList ++
      ((writeString key).toList ++ ':' :: ([' '] ++ ((write depth value).toList ++
        (if rest = [] then r else ',' :: ((writeEntries depth rest).toList ++ r))))) := by
  cases rest <;> simp [writeEntries]

theorem skipSpace_writeItems (item : Json) (rest : List Json) (depth : Nat) (r : List Char) :
    ∃ c s h, skipSpace ((writeItems depth (item :: rest)).toList ++ r) = ⟨c :: s, h⟩ ∧
      c ≠ ']' := by
  obtain ⟨c, cs, hcs, hspace, hc⟩ := write_head item depth
  rw [toList_writeItems, hcs, List.cons_append, skipSpace_append (spaces_newLine depth) hspace]
  exact ⟨c, _, _, rfl, hc⟩

theorem skipSpace_writeEntries (key : String) (value : Json) (rest : List (String × Json))
    (depth : Nat) (r : List Char) :
    ∃ s h, skipSpace ((writeEntries depth ((key, value) :: rest)).toList ++ r) = ⟨'"' :: s, h⟩ := by
  rw [toList_writeEntries, toList_writeString, List.cons_append,
    skipSpace_append (spaces_newLine depth) (by decide)]
  exact ⟨_, _, rfl⟩

-- The round trip is by recursion on the value. Any text may stand behind a value unless it starts
-- with a digit, which would be read as part of a number. The writer puts a comma or a new line
-- there.
mutual

/-- A written value is read back, with white space in front of it and anything behind it that does
not go on with a number. -/
theorem readValue_write (v : Json) (depth : Nat) {before r : List Char} (hbefore : Spaces before)
    (hr : NoDigit r) :
    found (readValue (before ++ ((write depth v).toList ++ r))) = some (v, r) := by
  match v with
  | .null => exact (readValue_word hbefore r).1
  | .bool true => exact (readValue_word hbefore r).2.1
  | .bool false => exact (readValue_word hbefore r).2.2
  | .int n => exact readValue_int hbefore n hr
  | .str s => exact readValue_str hbefore s r
  | .arr [] => simpa [write] using (readValue_empty hbefore r).1
  | .arr (item :: rest) =>
    obtain ⟨c, s, h, hstart, hc⟩ :=
      skipSpace_writeItems item rest (depth + 1) ((newLine depth).toList ++ ']' :: r)
    rw [toList_write_arr]
    exact readValue_arr hbefore hstart hc (readItems_write item rest (depth + 1) depth r)
  | .obj [] => simpa [write] using (readValue_empty hbefore r).2
  | .obj ((key, value) :: rest) =>
    obtain ⟨s, h, hstart⟩ :=
      skipSpace_writeEntries key value rest (depth + 1) ((newLine depth).toList ++ '}' :: r)
    rw [toList_write_obj]
    exact readValue_obj hbefore hstart (readEntries_write key value rest (depth + 1) depth r)
termination_by sizeOf v

theorem readItems_write (item : Json) (rest : List Json) (depth outer : Nat) (r : List Char) :
    found (readItems ((writeItems depth (item :: rest)).toList ++
      ((newLine outer).toList ++ ']' :: r))) = some (item :: rest, r) := by
  rw [toList_writeItems]
  match rest with
  | [] =>
    have hitem := readValue_write item depth (spaces_newLine depth)
      (noDigit_newLine outer (']' :: r))
    exact readItems_last hitem (spaces_newLine outer)
  | next :: rest =>
    exact readItems_more (readValue_write item depth (spaces_newLine depth) (noDigit_comma _))
      (readItems_write next rest depth outer r)
termination_by sizeOf (item :: rest)

theorem readEntries_write (key : String) (value : Json) (rest : List (String × Json))
    (depth outer : Nat) (r : List Char) :
    found (readEntries ((writeEntries depth ((key, value) :: rest)).toList ++
      ((newLine outer).toList ++ '}' :: r))) = some ((key, value) :: rest, r) := by
  have hblank : Spaces [' '] := by simp [Spaces, isSpace]
  rw [toList_writeEntries]
  match rest with
  | [] =>
    have hvalue := readValue_write value depth hblank (noDigit_newLine outer ('}' :: r))
    exact readEntries_last (spaces_newLine depth) key hvalue (spaces_newLine outer)
  | (key', value') :: rest =>
    exact readEntries_more (spaces_newLine depth) key
      (readValue_write value depth hblank (noDigit_comma _))
      (readEntries_write key' value' rest depth outer r)
termination_by sizeOf ((key, value) :: rest)

end

/-- The text of a value is read back as that value. -/
theorem ofText?_render (v : Json) : ofText? v.render = some v := by
  have hread := readValue_write v 0 Spaces.nil (r := []) (by simp [NoDigit])
  rw [List.nil_append, List.append_nil] at hread
  obtain ⟨h, hread⟩ := found_eq_some.mp hread
  rw [ofText?, render, hread]
  rfl

-- ---------------------------------------------------------------------------
-- ASCII
-- ---------------------------------------------------------------------------

def Ascii (cs : List Char) : Prop := ∀ c ∈ cs, c.toNat < 128

@[simp]
theorem ascii_nil : Ascii [] :=
  List.forall_mem_nil _

@[simp]
theorem ascii_cons : Ascii (c :: cs) ↔ c.toNat < 128 ∧ Ascii cs :=
  List.forall_mem_cons

@[simp]
theorem ascii_append : Ascii (cs ++ ds) ↔ Ascii cs ∧ Ascii ds :=
  List.forall_mem_append

theorem ascii_toDigits (n : Nat) : Ascii (Nat.toDigits 10 n) := by
  intro c hc
  have hdigit := Char.isDigit_iff_toNat.mp (isDigit_of_mem_digits hc)
  exact Nat.lt_of_le_of_lt hdigit.2 (by decide)

theorem hexDigit_ascii : ∀ n < 16, (hexDigit n).toNat < 128 := by
  decide

theorem ascii_hexDigits (width n : Nat) : Ascii (hexDigits width n) := by
  induction width generalizing n with
  | zero => simp [hexDigits]
  | succ width ih => simp [hexDigits, ih, hexDigit_ascii _ (Nat.mod_lt n (by decide : 0 < 16))]

theorem ascii_unitEscape (n : Nat) : Ascii (unitEscape n) := by
  simp [unitEscape, ascii_hexDigits]

theorem ascii_writeChar (c : Char) : Ascii (writeChar c) := by
  obtain ⟨letter, hletter, hwrite⟩ | ⟨-, -, -, hplain, hwrite⟩ | ⟨-, hwrite⟩ | ⟨-, hwrite⟩ :=
    writeChar_cases c
  · have hcode : letter.toNat < 128 := (lookup_shortEscapes (letter, c) hletter).2.1
    simp [hwrite, hcode]
  · simp only [hwrite, ascii_cons, ascii_nil, and_true]
    omega
  · exact hwrite ▸ ascii_unitEscape _
  · exact hwrite ▸ ascii_append.mpr ⟨ascii_unitEscape _, ascii_unitEscape _⟩

theorem ascii_writeString (s : String) : Ascii (writeString s).toList := by
  have htext : Ascii (s.toList.flatMap writeChar) := by
    intro c hc
    obtain ⟨d, -, hd⟩ := List.mem_flatMap.mp hc
    exact ascii_writeChar d c hd
  simp [toList_writeString, htext]

theorem ascii_newLine (depth : Nat) : Ascii (newLine depth).toList := by
  intro c hc
  simp only [newLine, String.toList_ofList, List.mem_cons, List.mem_replicate] at hc
  obtain rfl | ⟨-, rfl⟩ := hc <;> decide

mutual

theorem ascii_write (v : Json) (depth : Nat) : Ascii (write depth v).toList := by
  match v with
  | .null => simp [write]
  | .bool true => simp [write]
  | .bool false => simp [write]
  | .int n =>
    rw [write, toList_toString]
    split <;> simp [ascii_toDigits]
  | .str s => exact ascii_writeString s
  | .arr [] => simp [write]
  | .arr (item :: rest) =>
    simp [write, ascii_newLine, ascii_writeItems (item :: rest) (depth + 1)]
  | .obj [] => simp [write]
  | .obj (entry :: rest) =>
    simp [write, ascii_newLine, ascii_writeEntries (entry :: rest) (depth + 1)]

theorem ascii_writeItems (items : List Json) (depth : Nat) :
    Ascii (writeItems depth items).toList := by
  match items with
  | [] => simp [writeItems]
  | [item] => simp [writeItems, ascii_newLine, ascii_write item depth]
  | item :: next :: rest =>
    simp [writeItems, ascii_newLine, ascii_write item depth,
      ascii_writeItems (next :: rest) depth]

theorem ascii_writeEntries (entries : List (String × Json)) (depth : Nat) :
    Ascii (writeEntries depth entries).toList := by
  match entries with
  | [] => simp [writeEntries]
  | [(key, value)] =>
    simp [writeEntries, ascii_newLine, ascii_writeString, ascii_write value depth]
  | (key, value) :: next :: rest =>
    simp [writeEntries, ascii_newLine, ascii_writeString, ascii_write value depth,
      ascii_writeEntries (next :: rest) depth]

end

theorem ascii_render (v : Json) : Ascii v.render.toList :=
  ascii_write v 0

end CodeAudit.Json
