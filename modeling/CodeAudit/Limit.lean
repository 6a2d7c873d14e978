/-!
# Limits of the machine

Integers have any size, but no text of more than `maxDigits` decimal digits is read as one or
written for one, and calls can only be nested as deep as there is room for.
-/

namespace CodeAudit

/-- The most decimal digits that an integer is read from or written with. -/
def maxDigits : Nat := 4300

/-- What the machine gives up on. -/
inductive Limit where
  | digitsRead (digits : Nat)
  | digitsWritten
  | stack
  deriving DecidableEq, Repr, Inhabited

def Limit.message : Limit → String
  | .digitsRead digits =>
    "Exceeds the limit (" ++ toString maxDigits ++
      " digits) for integer string conversion: value has " ++ toString digits ++
      " digits; use sys.set_int_max_str_digits() to increase the limit"
  | .digitsWritten =>
    "Exceeds the limit (" ++ toString maxDigits ++
      " digits) for integer string conversion; use sys.set_int_max_str_digits() to increase the limit"
  | .stack => "maximum recursion depth exceeded"

def isLongInteger (n : Int) : Bool := maxDigits < (Nat.toDigits 10 n.natAbs).length

end CodeAudit
