import CodeAudit.Regex.Flags
import CodeAudit.Regex.Token
import CodeAudit.Text.Letter

/-!
# Inline flags

The switches written after an opening parenthesis and a question mark: letters to turn on, a dash
and letters to turn off, then a colon for a group or a parenthesis for the whole pattern.
-/

namespace CodeAudit.Regex

open CodeAudit.Text

inductive FlagRequest where
  | whole (on : Flags)
  | inGroup (on off : Flags)
  deriving DecidableEq, Repr, Inhabited

/-- Whether a token is a flag letter, the refused locale letter included. -/
def isFlagLetter (t : Token) : Bool :=
  match t with
  | .plain c => c == 'L' || (Flags.ofInline? c).isSome
  | _ => false

def isLetterToken (t : Token) : Bool :=
  match t with
  | .plain c => isLetter c
  | _ => false

def flagFault (t : Token) (missing : Problem) (cur : Cursor) : Fault :=
  cur.fault (if isLetterToken t then .unknownFlag else missing) t.width

/-- Reads the letters to turn on; `t` has been consumed. Gives the token that ended them. -/
def flagsOn : (fuel : Nat) → Token → Flags → Cursor → Except Fault (Flags × Token × Cursor)
  | 0, _, _, cur => .error (cur.fault .missingFlagEnd 0)
  | fuel + 1, t, on, cur => do
    let some c := t.plain? | throw (cur.fault .missingFlagEnd 0)
    let some flag := Flags.ofInline? c | throw (cur.fault .localeFlag 0)
    let on := on.union flag
    if on.ascii && on.unicode && (flag.ascii || flag.unicode) then
      throw (cur.fault .incompatibleFlags 0)
    let some u := cur.next? | throw (cur.fault .missingFlagEnd 0)
    let cur ← cur.advance
    if u == .plain ')' || u == .plain '-' || u == .plain ':' then return (on, u, cur)
    if !isFlagLetter u then throw (flagFault u .missingFlagEnd cur)
    flagsOn fuel u on cur

/-- Reads the letters to turn off, up to the colon; `t` has been consumed. -/
def flagsOff : (fuel : Nat) → Token → Flags → Cursor → Except Fault (Flags × Cursor)
  | 0, _, _, cur => .error (cur.fault .missingColon 0)
  | fuel + 1, t, off, cur => do
    let some flag := t.plain?.bind Flags.ofInline? | throw (cur.fault .turnOffKind 0)
    if flag.ascii || flag.unicode then throw (cur.fault .turnOffKind 0)
    let off := off.union flag
    let some u := cur.next? | throw (cur.fault .missingColon 0)
    let cur ← cur.advance
    if u == .plain ':' then return (off, cur)
    if !isFlagLetter u then throw (flagFault u .missingColon cur)
    flagsOff fuel u off cur

def inlineFlags (t : Token) (cur : Cursor) : Except Fault (FlagRequest × Cursor) := do
  let (on, ending, cur) ←
    if t == .plain '-' then pure ({}, t, cur) else flagsOn (cur.rest.length + 1) t {} cur
  if ending == .plain ')' then return (.whole on, cur)
  if on.template then throw (cur.fault .turnOnGlobal 1)
  if ending == .plain ':' then return (.inGroup on {}, cur)
  let some u := cur.next? | throw (cur.fault .missingFlag 0)
  let cur ← cur.advance
  if !isFlagLetter u then throw (flagFault u .missingFlag cur)
  let (off, cur) ← flagsOff (cur.rest.length + 1) u {} cur
  if off.template then throw (cur.fault .turnOffGlobal 1)
  if on.meets off then throw (cur.fault .onAndOff 1)
  return (.inGroup on off, cur)

end CodeAudit.Regex
