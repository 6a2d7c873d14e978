import CodeAudit.Regex.Error

/-!
# Tokens of a pattern

A pattern is read as plain characters and backslash pairs. A backslash at the very end is an
error, found as soon as everything before it has been consumed; `Cursor.advance` is the only way
forward and checks for it.
-/

namespace CodeAudit.Regex

inductive Token where
  | plain (c : Char)
  | escape (c : Char)
  /-- The backslash that ends a pattern. -/
  | dangling
  deriving DecidableEq, Repr, Inhabited

def tokens : List Char → List Token
  | [] => []
  | ['\\'] => [.dangling]
  | '\\' :: c :: rest => .escape c :: tokens rest
  | c :: rest => .plain c :: tokens rest

namespace Token

def chars : Token → List Char
  | .plain c => [c]
  | .escape c => ['\\', c]
  | .dangling => ['\\']

def width (t : Token) : Nat :=
  t.chars.length

def text (t : Token) : String :=
  String.ofList t.chars

def plain? : Token → Option Char
  | .plain c => some c
  | _ => none

end Token

/-- A place in a pattern: the tokens that follow and their position. -/
structure Cursor where
  rest : List Token
  position : Nat
  deriving DecidableEq, Repr, Inhabited

namespace Cursor

/-- Refuses a place directly before a dangling backslash. -/
def checked (cur : Cursor) : Except Fault Cursor :=
  match cur.rest with
  | .dangling :: _ => .error (Problem.danglingEscape.placed cur.position)
  | _ => .ok cur

def start (source : List Char) : Except Fault Cursor :=
  checked ⟨tokens source, 0⟩

def next? (cur : Cursor) : Option Token :=
  cur.rest.head?

def sees (cur : Cursor) (c : Char) : Bool :=
  cur.next? == some (.plain c)

def advance (cur : Cursor) : Except Fault Cursor :=
  match cur.rest with
  | [] => .ok cur
  | t :: rest => checked ⟨rest, cur.position + t.width⟩

/-- The fault of a problem found `back` characters before this place. -/
def fault (cur : Cursor) (problem : Problem) (back : Nat) : Fault :=
  problem.placed (cur.position - back)

def takeUpTo (test : Char → Bool) : Nat → Cursor → Except Fault (List Char × Cursor)
  | 0, cur => .ok ([], cur)
  | n + 1, cur =>
    match cur.next? with
    | some (.plain c) =>
      if test c then do
        let (cs, after) ← takeUpTo test n (← cur.advance)
        return (c :: cs, after)
      else .ok ([], cur)
    | _ => .ok ([], cur)

def takeAll (test : Char → Bool) (cur : Cursor) : Except Fault (List Char × Cursor) :=
  takeUpTo test cur.rest.length cur

def nameLoop (closer : Char) (what : String) :
    (fuel : Nat) → Cursor → (read : List Char) → Except Fault (String × Cursor)
  | 0, cur, _ => .error (cur.fault (.missingName what) 0)
  | fuel + 1, cur, read =>
    match cur.next? with
    | none =>
      if read.isEmpty then .error (cur.fault (.missingName what) 0)
      else .error (cur.fault (.unterminatedName (String.ofList [closer])) read.length)
    | some t => do
      let after ← cur.advance
      if t == .plain closer then
        if read.isEmpty then .error (after.fault (.missingName what) 1)
        else return (String.ofList read, after)
      else nameLoop closer what fuel after (read ++ t.chars)

def takeName (closer : Char) (what : String) (cur : Cursor) : Except Fault (String × Cursor) :=
  nameLoop closer what (cur.rest.length + 1) cur []

def skipPast (c : Char) : (fuel : Nat) → Cursor → Except Fault Cursor
  | 0, cur => .ok cur
  | fuel + 1, cur =>
    match cur.next? with
    | none => .ok cur
    | some t => do
      let after ← cur.advance
      if t == .plain c then return after else skipPast c fuel after

end Cursor

end CodeAudit.Regex
