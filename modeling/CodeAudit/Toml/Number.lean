import CodeAudit.Decimal.Shortest
import CodeAudit.Text.Radix
import CodeAudit.Value

/-!
# Numbers in TOML

Integers in four bases, and numbers with a fraction or an exponent. Single underscores may stand
between digits. Numbers have any size here; the reader of documents refuses integers in base ten
that are too long, whereas the other bases have no such limit.
-/

namespace CodeAudit.Toml

open CodeAudit.Text (isHexDigit isOctDigit isBinDigit ofDigits)

def moreDigits (test : Char → Bool) : List Char → List Char × List Char
  | '_' :: c :: rest =>
    if test c then
      let (ds, after) := moreDigits test rest
      (c :: ds, after)
    else ([], '_' :: c :: rest)
  | c :: rest =>
    if test c then
      let (ds, after) := moreDigits test rest
      (c :: ds, after)
    else ([], c :: rest)
  | [] => ([], [])

def someDigits? (test : Char → Bool) : List Char → Option (List Char × List Char)
  | c :: rest =>
    if test c then
      let (ds, after) := moreDigits test rest
      some (c :: ds, after)
    else none
  | [] => none

def basedInteger? : List Char → Option (Value × List Char)
  | '0' :: 'x' :: rest =>
    (someDigits? isHexDigit rest).map fun (ds, after) => (.int (ofDigits 16 ds), after)
  | '0' :: 'b' :: rest =>
    (someDigits? isBinDigit rest).map fun (ds, after) => (.int (ofDigits 2 ds), after)
  | '0' :: 'o' :: rest =>
    (someDigits? isOctDigit rest).map fun (ds, after) => (.int (ofDigits 8 ds), after)
  | _ => none

/-- Reads the integer part of a decimal number: no leading zeros. -/
def integerPart? : List Char → Option (List Char × List Char)
  | '0' :: rest => some (['0'], rest)
  | cs => someDigits? Char.isDigit cs

def fraction : List Char → List Char × List Char
  | '.' :: rest => (someDigits? Char.isDigit rest).getD ([], '.' :: rest)
  | cs => ([], cs)

def exponent? (cs : List Char) : Option (Int × List Char) :=
  let signed : List Char → Option (Int × List Char)
    | '+' :: rest => (someDigits? Char.isDigit rest).map fun (ds, after) => (ofDigits 10 ds, after)
    | '-' :: rest =>
      (someDigits? Char.isDigit rest).map fun (ds, after) => (-(ofDigits 10 ds : Int), after)
    | rest => (someDigits? Char.isDigit rest).map fun (ds, after) => (ofDigits 10 ds, after)
  match cs with
  | 'e' :: rest => signed rest
  | 'E' :: rest => signed rest
  | _ => none

def decimal? (negative : Bool) (cs : List Char) : Option (Value × List Char) := do
  let (whole, rest) ← integerPart? cs
  let (part, rest) := fraction rest
  match exponent? rest, part with
  | none, [] =>
    let n : Int := ofDigits 10 whole
    return (.int (if negative then -n else n), rest)
  | exponent, part =>
    let (power, rest) := exponent.getD (0, rest)
    let digits := ofDigits 10 (whole ++ part)
    return (.real (Decimal.shown negative digits (power - part.length)), rest)

def number? (cs : List Char) : Option (Value × List Char) :=
  match basedInteger? cs with
  | some found => some found
  | none =>
    match cs with
    | '+' :: rest => decimal? false rest
    | '-' :: rest => decimal? true rest
    | _ => decimal? false cs

def integerDigits (cs : List Char) : Nat :=
  match number? cs with
  | some (.int _, _) =>
    let unsigned := if cs.head? == some '+' || cs.head? == some '-' then cs.drop 1 else cs
    if (basedInteger? cs).isSome then 0 else ((integerPart? unsigned).map (·.1.length)).getD 0
  | _ => 0

def specialNumber? : List Char → Option (Value × List Char)
  | 'i' :: 'n' :: 'f' :: rest => some (.real "inf", rest)
  | 'n' :: 'a' :: 'n' :: rest => some (.real "nan", rest)
  | '+' :: 'i' :: 'n' :: 'f' :: rest => some (.real "inf", rest)
  | '-' :: 'i' :: 'n' :: 'f' :: rest => some (.real "-inf", rest)
  | '+' :: 'n' :: 'a' :: 'n' :: rest => some (.real "nan", rest)
  | '-' :: 'n' :: 'a' :: 'n' :: rest => some (.real "nan", rest)
  | _ => none

end CodeAudit.Toml
