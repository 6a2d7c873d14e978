import CodeAudit.Regex.Escape

/-!
# Bracketed sets

The members between brackets: characters, escapes and ranges. A closing bracket that comes first
is a member, and so is a dash at either end.
-/

namespace CodeAudit.Regex

def setMember (ascii : Bool) (t : Token) (cur : Cursor) : Except Fault (ClassItem × Cursor) :=
  match t with
  | .escape c => setEscape ascii c cur
  | .plain c => .ok (.single c.toNat, cur)
  | .dangling => .error (cur.fault .danglingEscape 1)

def setRange (lo hi : ClassItem) (first last : Token) (cur : Cursor) : Except Fault ClassItem :=
  let refused := cur.fault (.badRange first.text last.text) (first.width + 1 + last.width)
  match lo, hi with
  | .single a, .single b => if b < a then .error refused else .ok (.range a b)
  | _, _ => .error refused

/-- Reads members up to the closing bracket. `opened` is the position of the opening bracket and
`items` holds the members so far, last first. -/
def bracketLoop (ascii : Bool) (opened : Nat) :
    (fuel : Nat) → List ClassItem → Cursor → Except Fault (List ClassItem × Cursor)
  | 0, _, _ => .error (Problem.unterminatedSet.placed opened)
  | fuel + 1, items, cur =>
    match cur.next? with
    | none => .error (Problem.unterminatedSet.placed opened)
    | some t => do
      let afterFirst ← cur.advance
      if t == .plain ']' && !items.isEmpty then return (items.reverse, afterFirst)
      let (first, cur) ← setMember ascii t afterFirst
      if cur.sees '-' then
        let cur ← cur.advance
        match cur.next? with
        | none => throw (Problem.unterminatedSet.placed opened)
        | some u =>
          let cur ← cur.advance
          if u == .plain ']' then return ((.single 45 :: first :: items).reverse, cur)
          let (last, cur) ← setMember ascii u cur
          let range ← setRange first last t u cur
          bracketLoop ascii opened fuel (range :: items) cur
      else bracketLoop ascii opened fuel (first :: items) cur

/-- Reads a bracketed set whose opening bracket has been consumed. The flag says whether it is a
complement. -/
def bracketed (ascii : Bool) (cur : Cursor) : Except Fault ((Bool × List ClassItem) × Cursor) := do
  let opened := cur.position - 1
  let negated := cur.sees '^'
  let cur ← if negated then cur.advance else pure cur
  let (items, after) ← bracketLoop ascii opened (cur.rest.length + 1) [] cur
  return ((negated, items), after)

/-- The set of a bracket. A single member is compared like a literal. -/
def bracketCharset (fold : Fold) (negated : Bool) (items : List ClassItem) : Charset :=
  match items.eraseDups with
  | [.single code] => .literal fold code negated
  | distinct => .ofItems fold distinct negated

end CodeAudit.Regex
