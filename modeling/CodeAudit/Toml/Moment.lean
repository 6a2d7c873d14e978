import CodeAudit.Text.Radix
import CodeAudit.Value

/-!
# Dates and times in TOML

Dates, times of day and both together, with or without an offset. They are kept as the text that
shows them.
-/

namespace CodeAudit.Toml

open CodeAudit.Text (ofDigits)

structure TimeOfDay where
  hour : Nat
  minute : Nat
  second : Nat
  micros : Nat
  deriving DecidableEq, Repr, Inhabited

def digitBlock? (n : Nat) (cs : List Char) : Option (Nat × List Char) :=
  let ds := cs.take n
  if ds.length == n && ds.all Char.isDigit then some (ofDigits 10 ds, cs.drop n) else none

def expect? (c : Char) : List Char → Option (List Char)
  | d :: rest => if c == d then some rest else none
  | [] => none

/-- A fraction of a second, in millionths; further digits are dropped. -/
def micros (cs : List Char) : Nat × List Char :=
  match cs with
  | '.' :: rest =>
    let ds := rest.takeWhile Char.isDigit
    if ds.isEmpty then (0, cs)
    else
      let six := ds.take 6
      (ofDigits 10 (six ++ List.replicate (6 - six.length) '0'), rest.drop ds.length)
  | _ => (0, cs)

def clock? (cs : List Char) : Option (Nat × Nat × List Char) := do
  let (hour, cs) ← digitBlock? 2 cs
  let cs ← expect? ':' cs
  let (minute, cs) ← digitBlock? 2 cs
  if hour < 24 && minute < 60 then some (hour, minute, cs) else none

def timeOfDay? (cs : List Char) : Option (TimeOfDay × List Char) := do
  let (hour, minute, cs) ← clock? cs
  let cs ← expect? ':' cs
  let (second, cs) ← digitBlock? 2 cs
  if 60 ≤ second then none
  else
    let (micros, cs) := micros cs
    some (⟨hour, minute, second, micros⟩, cs)

def offset? : List Char → Option (Int × List Char)
  | 'Z' :: rest => some (0, rest)
  | 'z' :: rest => some (0, rest)
  | '+' :: rest => (clock? rest).map fun (h, m, after) => ((60 * h + m : Nat), after)
  | '-' :: rest => (clock? rest).map fun (h, m, after) => (-((60 * h + m : Nat) : Int), after)
  | _ => none

def daysIn (year month : Nat) : Nat :=
  if month == 2 then
    if year % 4 == 0 && (year % 100 != 0 || year % 400 == 0) then 29 else 28
  else if month == 4 || month == 6 || month == 9 || month == 11 then 30
  else 31

def shownNumbers (ns : List Nat) : String :=
  String.intercalate ", " (ns.map toString)

/-- The numbers of a time, without seconds and millionths that are zero at the end. -/
def TimeOfDay.numbers (t : TimeOfDay) : List Nat :=
  [t.hour, t.minute] ++
    (if t.micros != 0 then [t.second, t.micros] else if t.second != 0 then [t.second] else [])

def shownOffset (minutes : Int) : String :=
  if minutes == 0 then "datetime.timezone.utc"
  else
    let days := minutes.fdiv 1440
    let seconds := 60 * (minutes - 1440 * days)
    let parts := (if days == 0 then [] else ["days=" ++ toString days]) ++
      (if seconds == 0 then [] else ["seconds=" ++ toString seconds])
    "datetime.timezone(datetime.timedelta(" ++ String.intercalate ", " parts ++ "))"

/-- Reads a date, possibly with a time and an offset. The flag says whether the day exists. -/
def moment? (cs : List Char) : Option ((Value × Bool) × List Char) := do
  let (year, rest) ← digitBlock? 4 cs
  let rest ← expect? '-' rest
  let (month, rest) ← digitBlock? 2 rest
  let rest ← expect? '-' rest
  let (day, rest) ← digitBlock? 2 rest
  if month < 1 || 12 < month || day < 1 || 31 < day then none
  else
    let valid := 1 ≤ year && day ≤ daysIn year month
    let timed := match rest with
      | 'T' :: after => timeOfDay? after
      | 't' :: after => timeOfDay? after
      | ' ' :: after => timeOfDay? after
      | _ => none
    match timed with
    | none =>
      let text := "datetime.date(" ++ shownNumbers [year, month, day] ++ ")"
      some ((.moment text, valid), rest)
    | some (time, rest) =>
      let numbers := shownNumbers ([year, month, day] ++ time.numbers)
      match offset? rest with
      | none => some ((.moment ("datetime.datetime(" ++ numbers ++ ")"), valid), rest)
      | some (minutes, rest) =>
        let text :=
          "datetime.datetime(" ++ numbers ++ ", tzinfo=" ++ shownOffset minutes ++ ")"
        some ((.moment text, valid), rest)

def localTime? (cs : List Char) : Option (Value × List Char) :=
  (timeOfDay? cs).map fun (t, rest) =>
    (.moment ("datetime.time(" ++ shownNumbers t.numbers ++ ")"), rest)

end CodeAudit.Toml
