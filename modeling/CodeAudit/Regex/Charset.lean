import CodeAudit.Text.Blank
import CodeAudit.Text.Case
import CodeAudit.Text.Digit
import CodeAudit.Text.Word

/-!
# Character sets of patterns

Everything in a pattern that consumes one character is a `Charset`: a literal, the dot, a shorthand
class or a bracketed set. When case is ignored the set is prepared once, by adding the lowered
forms of its members, and the character is lowered before it is looked up.
-/

namespace CodeAudit.Regex

open CodeAudit.Text

/-- How a character is changed before it is compared. -/
inductive Fold where
  | exact
  | ascii
  | unicode
  deriving DecidableEq, Repr, Inhabited

def Fold.apply : Fold → Nat → Nat
  | .exact, code => code
  | .ascii, code => lowerAsciiCode code
  | .unicode, code => lowerCode code

inductive CharKind where
  | digit
  | blank
  | word
  deriving DecidableEq, Repr, Inhabited

def CharKind.contains (kind : CharKind) (ascii : Bool) (c : Char) : Bool :=
  match kind with
  | .digit => if ascii then c.isDigit else isDigit c
  | .blank => if ascii then c == ' ' || (9 ≤ c.toNat && c.toNat ≤ 13) else isBlank c
  | .word => if ascii then isAsciiWord c else isWord c

/-- A member of a set. Members are code points, which may lie outside the characters. -/
inductive ClassItem where
  | single (code : Nat)
  | range (lo hi : Nat)
  /-- The code point or its upper-case form lies in the range. -/
  | eitherCase (lo hi : Nat)
  | kind (kind : CharKind) (ascii negated : Bool)
  deriving DecidableEq, Repr, Inhabited

def ClassItem.contains : ClassItem → Nat → Bool
  | .single code, n => n == code
  | .range lo hi, n => lo ≤ n && n ≤ hi
  | .eitherCase lo hi, n =>
    (lo ≤ n && n ≤ hi) || (lo ≤ upperCode n && upperCode n ≤ hi)
  | .kind k ascii negated, n => k.contains ascii (Char.ofNat n) != negated

/-- A set of characters: the complement of its items if `negated`. -/
structure Charset where
  negated : Bool := false
  fold : Fold := .exact
  items : List ClassItem
  deriving DecidableEq, Repr, Inhabited

namespace Charset

def accepts (s : Charset) (c : Char) : Bool :=
  let code := s.fold.apply c.toNat
  s.items.any (·.contains code) != s.negated

def all : Charset := { negated := true, items := [] }

def notNewline : Charset := { negated := true, items := [.single 10] }

/-- One code point, compared as `fold` says. Code points without case are compared exactly. -/
def literal (fold : Fold) (code : Nat) (negated : Bool) : Charset :=
  match fold with
  | .exact => { negated, items := [.single code] }
  | .ascii =>
    if code < 128 && isCasedCode code then
      { negated, fold := .ascii, items := [.single (lowerAsciiCode code)] }
    else { negated, items := [.single code] }
  | .unicode =>
    if isCasedCode code then
      let low := lowerCode code
      { negated, fold := .unicode, items := (low :: companions low).map .single }
    else { negated, items := [.single code] }

/-- The last code point of the basic plane. Sets that ignore case treat the planes above it
differently: a literal there is compared as written and a range with either case. -/
def basicPlaneEnd : Nat := 0xFFFF

/-- The lowered forms of the part of one run that lies in a range, where they differ. -/
def loweredRun (lo hi : Nat) (run : CaseRun) : List ClassItem :=
  let first := run.1
  let last := run.2.1
  let step := run.2.2.1
  let shift (n : Nat) : Nat := (Int.ofNat n + run.2.2.2).toNat
  if last < lo || hi < first then []
  else if step == 1 then [.range (shift (max first lo)) (shift (min last hi))]
  else
    (List.range ((last - first) / step + 1)).filterMap fun k =>
      let n := first + step * k
      if lo ≤ n && n ≤ hi then some (.single (shift n)) else none

def foldedRange (lo hi : Nat) : List ClassItem :=
  let top := min hi basicPlaneEnd
  let lowered := lowerRuns.toList.flatMap (loweredRun lo top)
  let images := .range lo top :: lowered
  let extra := caseCompanions.flatMap fun (code, others) =>
    if images.any (·.contains code) then others.map ClassItem.single else []
  let base := if lo ≤ top then images ++ extra else []
  if basicPlaneEnd < hi then base ++ [.eitherCase lo hi] else base

def asciiFoldedRange (lo hi : Nat) : List ClassItem :=
  let top := min hi basicPlaneEnd
  let base := if lo ≤ top then .range lo top :: loweredRun lo top (65, 90, 1, 32) else []
  if basicPlaneEnd < hi then base ++ [.eitherCase lo hi] else base

def foldItem (fold : Fold) (item : ClassItem) : List ClassItem × Bool :=
  match fold, item with
  | .exact, item => ([item], false)
  | .ascii, .single code =>
    if code ≤ basicPlaneEnd then
      ([.single (lowerAsciiCode code)], code < 128 && isCasedCode code)
    else ([.single code], true)
  | .unicode, .single code =>
    let low := lowerCode code
    if low ≤ basicPlaneEnd then ((low :: companions low).map .single, isCasedCode code)
    else ([.single code], true)
  | .ascii, .range lo hi =>
    (asciiFoldedRange lo hi, basicPlaneEnd < hi || (lo ≤ 90 && 65 ≤ hi) || (lo ≤ 122 && 97 ≤ hi))
  | .unicode, .range lo hi => (foldedRange lo hi, basicPlaneEnd < hi || casedSet.meets lo hi)
  | _, item => ([item], false)

/-- A bracketed set. Characters are folded only if some member has case. -/
def ofItems (fold : Fold) (items : List ClassItem) (negated : Bool) : Charset :=
  let prepared := items.map (foldItem fold)
  { negated
    fold := if prepared.any (·.2) then fold else .exact
    items := prepared.flatMap (·.1) }

end Charset

end CodeAudit.Regex
