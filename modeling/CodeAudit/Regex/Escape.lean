import CodeAudit.Regex.Charset
import CodeAudit.Regex.Token
import CodeAudit.Text.CharacterName

/-!
# Escapes

What a backslash pair stands for, inside brackets and outside. Code points may be written with two,
four or eight hexadecimal digits or in octal; one or two decimal digits outside brackets refer to a
group.
-/

namespace CodeAudit.Regex

open CodeAudit.Text

def controlEscape? : Char → Option Nat
  | 'a' => some 7
  | 'b' => some 8
  | 'f' => some 12
  | 'n' => some 10
  | 'r' => some 13
  | 't' => some 9
  | 'v' => some 11
  | '\\' => some 92
  | _ => none

/-- The shorthand classes; the capital letter is the complement. -/
def kindEscape? : Char → Option (CharKind × Bool)
  | 'd' => some (.digit, false)
  | 'D' => some (.digit, true)
  | 's' => some (.blank, false)
  | 'S' => some (.blank, true)
  | 'w' => some (.word, false)
  | 'W' => some (.word, true)
  | _ => none

def escapeText (cs : List Char) : String :=
  String.ofList ('\\' :: cs)

def hexEscape (letter : Char) (n : Nat) (cur : Cursor) : Except Fault (Nat × Cursor) := do
  let (ds, after) ← cur.takeUpTo isHexDigit n
  if ds.length != n then
    throw (after.fault (.incompleteEscape (escapeText (letter :: ds))) (ds.length + 2))
  return (ofDigits 16 ds, after)

/-- Reads an escape that names a code point by number or name. The letter has been consumed. -/
def codeEscape? (letter : Char) (cur : Cursor) : Option (Except Fault (Nat × Cursor)) :=
  match letter with
  | 'x' => some (hexEscape 'x' 2 cur)
  | 'u' => some (hexEscape 'u' 4 cur)
  | 'U' => some do
    let (ds, after) ← cur.takeUpTo isHexDigit 8
    if ds.length != 8 then
      throw (after.fault (.incompleteEscape (escapeText ('U' :: ds))) (ds.length + 2))
    let code := ofDigits 16 ds
    if 0x10FFFF < code then throw (after.fault (.badEscape (escapeText ('U' :: ds))) 10)
    return (code, after)
  | 'N' => some do
    if !cur.sees '{' then throw (cur.fault .missingBrace 0)
    let (name, after) ← (← cur.advance).takeName '}' "character name"
    match characterNamed? name with
    | some code => return (code, after)
    | none => throw (after.fault (.undefinedCharacter name) (name.length + 4))
  | _ => none

def octalEscape (ds : List Char) (after : Cursor) : Except Fault Nat :=
  let code := ofDigits 8 ds
  if 0o377 < code then
    .error (after.fault (.octalTooLarge (escapeText ds)) (ds.length + 1))
  else .ok code

/-- An escape inside brackets, after its backslash pair has been consumed. -/
def setEscape (ascii : Bool) (c : Char) (cur : Cursor) : Except Fault (ClassItem × Cursor) :=
  match controlEscape? c, kindEscape? c, codeEscape? c cur with
  | some code, _, _ => .ok (.single code, cur)
  | _, some (kind, negated), _ => .ok (.kind kind ascii negated, cur)
  | _, _, some reading => do
    let (code, after) ← reading
    return (.single code, after)
  | _, _, _ =>
    if isOctDigit c then do
      let (ds, after) ← cur.takeUpTo isOctDigit 2
      return (.single (← octalEscape (c :: ds) after), after)
    else if c.isDigit || c.isAlpha then .error (cur.fault (.badEscape (escapeText [c])) 2)
    else .ok (.single c.toNat, cur)

end CodeAudit.Regex
