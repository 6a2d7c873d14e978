/-!
# Shortest decimals

A decimal is rounded to the nearest binary number with 53 significant bits, ties to even, and
written with the fewest digits that round back to the same binary number; of several such texts the
nearest one. All arithmetic is exact.
-/

namespace CodeAudit.Decimal

/-- A positive binary number: `significand * 2 ^ exponent`. -/
structure Binary where
  significand : Nat
  exponent : Int
  deriving DecidableEq, Repr, Inhabited

def precision : Nat := 53

def minExponent : Int := -1074

def maxExponent : Int := 971

def scaled (num den base : Nat) (power : Int) : Nat × Nat :=
  match power with
  | .ofNat n => (num * base.pow n, den)
  | .negSucc n => (num, den * base.pow (n + 1))

def roundHalfEven (num den : Nat) : Nat :=
  let q := num / den
  let r := num % den
  if 2 * r < den then q
  else if den < 2 * r then q + 1
  else if q % 2 == 0 then q else q + 1

/-- The nearest binary number of a positive fraction, or none if it is too large. A result of zero
has significand zero. -/
def nearest? (num den : Nat) : Option Binary :=
  let guess : Int := (Nat.log2 num : Int) - (Nat.log2 den : Int) - (precision : Int)
  -- the significand for an exponent, before rounding, is `num / den * 2 ^ -exponent`
  let fits (e : Int) : Bool :=
    let (n, d) := scaled num den 2 (-e)
    n < d * Nat.pow 2 precision
  let exponent := max minExponent (if fits guess then guess else if fits (guess + 1) then guess + 1
    else guess + 2)
  let (n, d) := scaled num den 2 (-exponent)
  let q := roundHalfEven n d
  let b :=
    if q == Nat.pow 2 precision then ⟨Nat.pow 2 (precision - 1), exponent + 1⟩
    else ⟨q, exponent⟩
  if maxExponent < b.exponent then none else some b

/-- The decimal point of a number: the least `p` with `value < 10 ^ p`, searched upwards. -/
def pointFrom (num den : Nat) : (fuel : Nat) → Int → Int
  | 0, p => p
  | fuel + 1, p =>
    let (n, d) := scaled num den 10 (-p)
    if n < d then p else pointFrom num den fuel (p + 1)

def roundsTo (b : Binary) (digits : Nat) (power : Int) : Bool :=
  let (n, d) := scaled digits 1 10 power
  n != 0 && nearest? n d == some b

/-- The digits of a binary number with `count` digits after the point `p`, if some round back. Of
two neighbours that do, the nearer one is taken. -/
def digitsWith? (b : Binary) (num den : Nat) (p : Int) (count : Nat) : Option Nat :=
  let (n, d) := scaled num den 10 ((count : Int) - p)
  let low := n / d
  let order := if 2 * (n % d) ≤ d then [low, low + 1] else [low + 1, low]
  order.find? fun digits => roundsTo b digits (p - (count : Int))

def fewestDigits (b : Binary) (num den : Nat) (p : Int) : (fuel count : Nat) → Nat × Nat
  | 0, count => (num / den, count)
  | fuel + 1, count =>
    match digitsWith? b num den p count with
    | some digits => (digits, count)
    | none => fewestDigits b num den p fuel (count + 1)

def trimZeros (ds : List Char) : List Char :=
  (ds.reverse.dropWhile (· == '0')).reverse

/-- Writes digits with a decimal point at `point`. Very large and very small numbers get an
exponent. -/
def layout (ds : List Char) (point : Int) : String :=
  let zeros (n : Nat) := List.replicate n '0'
  if -4 < point && point ≤ 16 then
    match point with
    | .ofNat p =>
      if ds.length ≤ p then String.ofList (ds ++ zeros (p - ds.length) ++ ['.', '0'])
      else if p == 0 then String.ofList ('0' :: '.' :: ds)
      else String.ofList (ds.take p ++ '.' :: ds.drop p)
    | .negSucc p => String.ofList ('0' :: '.' :: zeros (p + 1) ++ ds)
  else
    let e := point - 1
    let size := toString e.natAbs
    let mantissa := match ds with
      | d :: rest => if rest.isEmpty then [d] else d :: '.' :: rest
      | [] => ['0']
    String.ofList mantissa ++ "e" ++ (if e < 0 then "-" else "+") ++
      (if size.length < 2 then "0" ++ size else size)

/-- The shortest text of the binary number nearest to `digits * 10 ^ power`. -/
def shown (negative : Bool) (digits : Nat) (power : Int) : String :=
  let sign := if negative then "-" else ""
  if digits == 0 || power < -400 - (toString digits).length then sign ++ "0.0"
  else if 400 < power then sign ++ "inf"
  else
    let (num, den) := scaled digits 1 10 power
    match nearest? num den with
    | none => sign ++ "inf"
    | some b =>
      if b.significand == 0 then sign ++ "0.0"
      else
        let (n, d) := scaled b.significand 1 2 b.exponent
        let p := pointFrom n d 700 (-330)
        let (ds, count) := fewestDigits b n d p 17 1
        let text := (toString ds).toList
        -- one more digit than asked for means that rounding reached the next power of ten
        sign ++ layout (trimZeros text) (p + ((text.length : Int) - (count : Int)))

end CodeAudit.Decimal
