import CodeAudit.Limit
import CodeAudit.Text.Blank

/-!
# Decimal digits and the integers written with them

Every script's digits stand in a row of ten, so a digit is known by the zero of its row.
-/

namespace CodeAudit.Text

def digitZeros : List Nat :=
  [
    48, 1632, 1776, 1984, 2406, 2534, 2662, 2790, 2918, 3046, 3174, 3302, 3430, 3558, 3664, 3792,
    3872, 4160, 4240, 6112, 6160, 6470, 6608, 6784, 6800, 6992, 7088, 7232, 7248, 42528, 43216,
    43264, 43472, 43504, 43600, 44016, 65296, 66720, 68912, 69734, 69872, 69942, 70096, 70384,
    70736, 70864, 71248, 71360, 71472, 71904, 72016, 72784, 73040, 73120, 92768, 92864, 93008,
    120782, 120792, 120802, 120812, 120822, 123200, 123632, 125264, 130032]

def digitValue? (c : Char) : Option Nat :=
  (digitZeros.find? fun z => z ≤ c.toNat && c.toNat < z + 10).map (c.toNat - ·)

def isDigit (c : Char) : Bool :=
  if c.toNat < 128 then c.isDigit else (digitValue? c).isSome

/-- Reads digits that may be separated by single underscores, most significant digit first.
`afterDigit` says whether the previous character was a digit. -/
def readDigits? : List Char → Nat → (afterDigit : Bool) → Option Nat
  | [], n, afterDigit => if afterDigit then some n else none
  | c :: rest, n, afterDigit =>
    match digitValue? c with
    | some d => readDigits? rest (10 * n + d) true
    | none => if c == '_' && afterDigit then readDigits? rest n false else none

/-- Reads an integer: blanks around it, at most one sign, then digits of any script, but not too
many. -/
def readInt? (s : String) : Option Int :=
  if maxDigits < s.toList.countP fun c => (digitValue? c).isSome then none
  else match (strip s).toList with
  | '+' :: ds => (readDigits? ds 0 false).map Int.ofNat
  | '-' :: ds => (readDigits? ds 0 false).map fun n => -Int.ofNat n
  | ds => (readDigits? ds 0 false).map Int.ofNat

end CodeAudit.Text
