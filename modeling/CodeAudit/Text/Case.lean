import CodeAudit.Text.CaseTable

/-!
# Letter case

Single-character folding, used when patterns ignore case, and full lower-casing and upper-casing
of texts, used when names are compared. Lower-casing does not look at the place of a sigma in its
word: no name that a lowered text is compared with holds one.
-/

namespace CodeAudit.Text

def applyRuns (runs : Array CaseRun) (code : Nat) : (rounds lo hi : Nat) → Nat
  | 0, _, _ => code
  | rounds + 1, lo, hi =>
    if lo < hi then
      let mid := (lo + hi) / 2
      let run := runs.getD mid (0, 0, 1, 0)
      if code < run.1 then applyRuns runs code rounds lo mid
      else if run.2.1 < code then applyRuns runs code rounds (mid + 1) hi
      else if (code - run.1) % run.2.2.1 == 0 then (Int.ofNat code + run.2.2.2).toNat
      else code
    else code

/-- The lower-case form of a code point, as a single code point. -/
def lowerCode (code : Nat) : Nat :=
  if code < 128 then (if 65 ≤ code && code ≤ 90 then code + 32 else code)
  else applyRuns lowerRuns code lowerRuns.size 0 lowerRuns.size

/-- The upper-case form of a code point, where it is a single code point. -/
def upperCode (code : Nat) : Nat :=
  if code < 128 then (if 97 ≤ code && code ≤ 122 then code - 32 else code)
  else applyRuns upperRuns code upperRuns.size 0 upperRuns.size

def lowerAsciiCode (code : Nat) : Nat :=
  if 65 ≤ code && code ≤ 90 then code + 32 else code

def isCasedCode (code : Nat) : Bool :=
  if code < 128 then (65 ≤ code && code ≤ 90) || (97 ≤ code && code ≤ 122)
  else casedSet.contains code

/-- The other lowered code points that share the upper-case form of a lowered code point. -/
def companions (code : Nat) : List Nat :=
  ((caseCompanions.find? (·.1 == code)).map (·.2)).getD []

def lowerChar (c : Char) : List Char :=
  if c.toNat == 0x130 then ['i', Char.ofNat 0x307] else [Char.ofNat (lowerCode c.toNat)]

def upperChar (c : Char) : List Char :=
  if c.toNat < 128 then [c.toUpper]
  else
    match upperExpansions.find? (·.1 == c.toNat) with
    | some (_, codes) => codes.map Char.ofNat
    | none => [Char.ofNat (upperCode c.toNat)]

def lower (s : String) : String :=
  String.ofList (s.toList.flatMap lowerChar)

def upper (s : String) : String :=
  String.ofList (s.toList.flatMap upperChar)

end CodeAudit.Text
