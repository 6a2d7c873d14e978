/-!
# Points in time

The time of a report, written in UTC with milliseconds.
-/

namespace CodeAudit.Report

structure Day where
  year : Nat
  month : Nat
  day : Nat
  deriving DecidableEq, Repr, Inhabited

/-- The day that comes a number of days after the first of January 1970. Years are counted from
March on, so that a leap day is the last day of its year; 146097 days are four centuries, and 719468
days lie between the first of March of the year zero and that day. -/
def Day.ofCount (count : Nat) : Day :=
  let shifted := count + 719468
  let era := shifted / 146097
  let dayOfEra := shifted % 146097
  let yearOfEra := (dayOfEra - dayOfEra / 1460 + dayOfEra / 36524 - dayOfEra / 146096) / 365
  let dayOfYear := dayOfEra - (365 * yearOfEra + yearOfEra / 4 - yearOfEra / 100)
  let shiftedMonth := (5 * dayOfYear + 2) / 153
  let month := if shiftedMonth < 10 then shiftedMonth + 3 else shiftedMonth - 9
  { year := 400 * era + yearOfEra + (if month ≤ 2 then 1 else 0)
    month
    day := dayOfYear - (153 * shiftedMonth + 2) / 5 + 1 }

def padZeros (width n : Nat) : String :=
  let digits := toString n
  String.ofList (List.replicate (width - digits.length) '0') ++ digits

def timestampOf (millis : Nat) : String :=
  let seconds := millis / 1000
  let day := Day.ofCount (seconds / 86400)
  let clock := seconds % 86400
  padZeros 4 day.year ++ "-" ++ padZeros 2 day.month ++ "-" ++ padZeros 2 day.day ++ "T" ++
    padZeros 2 (clock / 3600) ++ ":" ++ padZeros 2 (clock / 60 % 60) ++ ":" ++
    padZeros 2 (clock % 60) ++ "." ++ padZeros 3 (millis % 1000) ++ "Z"

end CodeAudit.Report
