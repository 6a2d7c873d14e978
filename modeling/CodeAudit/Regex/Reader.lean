import CodeAudit.Regex.Bracket
import CodeAudit.Regex.InlineFlags
import CodeAudit.Regex.Node
import CodeAudit.Text.Identifier

/-!
# Reading patterns

A pattern is read from left to right by a machine whose state is a stack of open groups. Each step
consumes at least one token, so the state after a piece of a pattern determines how the rest is
read, and a pattern put together from pieces can be followed piece by piece. Switches are resolved
on the way: those for the whole pattern stand before everything else.
-/

namespace CodeAudit.Regex

open CodeAudit.Text

/-- What an item is, as far as a quantifier after it cares. -/
inductive ItemKind where
  | atom
  | anchor
  | repetition
  deriving DecidableEq, Repr, Inhabited

/-- What alternatives show of themselves when they are compared piece by piece. -/
inductive Piece where
  | set (negated : Bool) (members : List ClassItem)
  | simple (node : Node)
  /-- A group or a repetition, which counts as different from every other one. -/
  | compound
  deriving DecidableEq, Repr, Inhabited

/-- A finished item of a sequence. -/
structure Item where
  node : Node
  kind : ItemKind := .atom
  pieces : List Piece := [.compound]
  deriving Repr, Inhabited

namespace Item

def ofSet (fold : Fold) (negated : Bool) (members : List ClassItem) : Item :=
  { node := .char (bracketCharset fold negated members)
    pieces := [.set negated members.eraseDups] }

def simple (node : Node) (kind : ItemKind := .atom) : Item :=
  { node, kind, pieces := [.simple node] }

def sequence (items : List Item) : Node :=
  .ofList (items.reverse.map (·.node))

def allPieces (items : List Item) : List Piece :=
  items.reverse.flatMap (·.pieces)

end Item

namespace Piece

def node (fold : Fold) : Piece → Node
  | .set negated members => .char (bracketCharset fold negated members)
  | .simple node => node
  | .compound => .empty

def shared : List Piece → (others : List (List Piece)) → List Piece
  | [], _ => []
  | p :: rest, others =>
    if p != .compound && others.all (·.head? == some p) then
      p :: shared rest (others.map List.tail)
    else []

def members? : List Piece → Option (List ClassItem)
  | [.set false members] => some members
  | _ => none

/-- What all alternatives begin with and, if a set is all that is left of each, its members. -/
def factor : (alternatives : List (List Piece)) → List Piece × Option (List ClassItem)
  | [] => ([], none)
  | first :: others =>
    let start := shared first others
    let ends := (first :: others).mapM fun pieces => members? (pieces.drop start.length)
    (start, ends.map fun found => found.flatten.eraseDups)

end Piece

/-- The inside of a group that is being read. Lists hold the latest element first. -/
structure Level where
  flags : Flags
  done : List (List Item) := []
  items : List Item := []
  deriving Repr, Inhabited

namespace Level

def fold (level : Level) : Fold :=
  if level.flags.ignoreCase then (if level.flags.ascii then .ascii else .unicode) else .exact

def alternatives (level : Level) : List (List Item) :=
  (level.items :: level.done).reverse

/-- The tree of the level. Alternatives that differ in one character are read as a set of
characters. That matters only when case is ignored, because sets are folded in another way. -/
def node (level : Level) : Node :=
  let separate := Node.oneOf (level.alternatives.map Item.sequence)
  if level.flags.ignoreCase then
    match Piece.factor (level.alternatives.map Item.allPieces) with
    | (start, some members) =>
      .ofList (start.map (·.node level.fold) ++ [.char (.ofItems level.fold members false)])
    | (_, none) => separate
  else separate

def pieces (level : Level) : List Piece :=
  match level.alternatives with
  | [items] => Item.allPieces items
  | several =>
    match Piece.factor (several.map Item.allPieces) with
    | (start, some members) => start ++ [.set false members]
    | (start, none) => start ++ [.compound]

def push (level : Level) (item : Item) : Level :=
  { level with items := item :: level.items }

def bar (level : Level) : Level :=
  { level with done := level.items :: level.done, items := [] }

end Level

inductive Opening where
  | plain
  | scoped
  | capture (index : Nat)
  | atomic
  | ahead (negated : Bool)
  /-- The flag says whether no other look-behind is around it. -/
  | behind (negated outermost : Bool)
  | conditional (group : Nat)
  deriving DecidableEq, Repr, Inhabited

/-- A group that is still open: its kind, the position of its parenthesis and what surrounds it. -/
structure Frame where
  opening : Opening
  position : Nat
  level : Level
  deriving Repr, Inhabited

structure Reader where
  level : Level
  outer : List Frame := []
  flags : Flags
  names : List (String × Nat) := []
  /-- By group number, the widths of the closed groups. Number zero is never closed. -/
  widths : Array (Option Width) := #[none]
  /-- Inside a look-behind, the number of the first group opened in it. -/
  behindFrom : Option Nat := none
  /-- The groups that conditions refer to by number, with the position of the first reference. -/
  conditions : List (Nat × Nat) := []
  deriving Repr, Inhabited

def countLimit : Nat := 4294967295

def groupLimit : Nat := 1073741823

namespace Reader

def start (flags : Flags) : Reader :=
  { level := { flags }, flags }

def push (r : Reader) (item : Item) : Reader :=
  { r with level := r.level.push item }

def pushSet (r : Reader) (negated : Bool) (members : List ClassItem) : Reader :=
  r.push (.ofSet r.level.fold negated members)

def pushCode (r : Reader) (code : Nat) : Reader :=
  r.pushSet false [.single code]

def pushAnchor (r : Reader) (place : Anchor) : Reader :=
  r.push (.simple (.anchor place) .anchor)

def closedWidth? (r : Reader) (group : Nat) : Option Width :=
  (r.widths[group]?).join

def groupCount (r : Reader) : Nat :=
  r.widths.size

/-- Inside a look-behind, only groups closed before it may be referred to. -/
def checkBehind (r : Reader) (group : Nat) (cur : Cursor) : Except Fault Unit :=
  match r.behindFrom with
  | none => .ok ()
  | some from? =>
    if (r.closedWidth? group).isNone then .error (cur.fault .openGroupReference 0)
    else if from? ≤ group then .error (cur.fault .sameLookBehindReference 0)
    else .ok ()

def pushReference (r : Reader) (group back : Nat) (cur : Cursor) : Except Fault Reader :=
  match r.closedWidth? group with
  | none => .error (cur.fault .openGroupReference back)
  | some width => do
    r.checkBehind group cur
    return r.push (.simple (.backref group r.level.fold width))

def numberEscape (r : Reader) (c : Char) (cur : Cursor) : Except Fault (Reader × Cursor) := do
  let (more, cur) ← cur.takeUpTo Char.isDigit 1
  if isOctDigit c && more.any isOctDigit then
    let (third, cur) ← cur.takeUpTo isOctDigit 1
    if !third.isEmpty then
      return (r.pushCode (← octalEscape (c :: more ++ third) cur), cur)
  let group := ofDigits 10 (c :: more)
  if group < r.groupCount then
    return (← r.pushReference group (more.length + 2) cur, cur)
  throw (cur.fault (.invalidReference group) (more.length + 1))

def escape (r : Reader) (c : Char) (cur : Cursor) : Except Fault (Reader × Cursor) :=
  let ascii := r.level.flags.ascii
  match c with
  | 'A' => .ok (r.pushAnchor .textStart, cur)
  | 'Z' => .ok (r.pushAnchor .textEnd, cur)
  | 'b' => .ok (r.pushAnchor (.wordEdge ascii), cur)
  | 'B' => .ok (r.pushAnchor (.notWordEdge ascii), cur)
  | _ =>
    match kindEscape? c, controlEscape? c, codeEscape? c cur with
    | some (kind, negated), _, _ =>
      .ok (r.pushSet false [.kind kind ascii negated], cur)
    | _, some code, _ => .ok (r.pushCode code, cur)
    | _, _, some reading => do
      let (code, cur) ← reading
      return (r.pushCode code, cur)
    | _, _, _ =>
      if c == '0' then do
        let (ds, cur) ← cur.takeUpTo isOctDigit 2
        return (r.pushCode (ofDigits 8 ds), cur)
      else if c.isDigit then r.numberEscape c cur
      else if c.isAlpha then .error (cur.fault (.badEscape (escapeText [c])) 2)
      else .ok (r.pushCode c.toNat, cur)

/-- Repeats the last item. `position` is where the quantifier starts; it has been consumed but for
a mark that changes the order of trying. -/
def quantify (r : Reader) (min : Nat) (max : Option Nat) (position : Nat) (cur : Cursor) :
    Except Fault (Reader × Cursor) :=
  match r.level.items with
  | [] => .error (Problem.nothingToRepeat.placed position)
  | item :: before =>
    match item.kind with
    | .anchor => .error (Problem.nothingToRepeat.placed position)
    | .repetition => .error (Problem.multipleRepeat.placed position)
    | .atom => do
      let (greed, cur) ←
        if cur.sees '?' then pure (Greed.reluctant, ← cur.advance)
        else if cur.sees '+' then pure (Greed.possessive, ← cur.advance)
        else pure (Greed.greedy, cur)
      let node := .repeated greed min max item.node
      let items := { node, kind := .repetition } :: before
      return ({ r with level := { r.level with items } }, cur)

def repeatCount? (digits : List Char) : Except Fault (Option Nat) :=
  if digits.isEmpty then .ok none
  else if maxDigits < digits.length then .error (Problem.longCount digits.length).overall
  else
    let n := ofDigits 10 digits
    if countLimit ≤ n then .error Problem.countTooLarge.overall else .ok (some n)

/-- An opening brace, after it has been consumed. If no quantifier follows it is a literal. -/
def brace (r : Reader) (cur : Cursor) : Except Fault (Reader × Cursor) := do
  let opened := cur
  let literal := (r.pushCode 123, opened)
  if cur.sees '}' then return literal
  let (lo, cur) ← cur.takeAll Char.isDigit
  let (hi, cur) ←
    if cur.sees ',' then (← cur.advance).takeAll Char.isDigit else pure (lo, cur)
  if !cur.sees '}' then return literal
  let cur ← cur.advance
  let min := (← repeatCount? lo).getD 0
  let max ← repeatCount? hi
  if max.any (· < min) then throw (Problem.minAboveMax.placed opened.position)
  r.quantify min max (opened.position - 1) cur

def enter (r : Reader) (opening : Opening) (position : Nat) (flags : Flags) : Reader :=
  { r with
    outer := ⟨opening, position, r.level⟩ :: r.outer
    level := { flags } }

def enterCapture (r : Reader) (position : Nat) : Reader :=
  { r with widths := r.widths.push none }.enter (.capture r.groupCount) position r.level.flags

def checkName (name : String) (cur : Cursor) : Except Fault Unit :=
  if isIdentifier name then .ok () else .error (cur.fault (.badGroupName name) (name.length + 1))

def namedGroup (r : Reader) (position : Nat) (cur : Cursor) :
    Except Fault (Reader × Cursor) := do
  if cur.sees '<' then
    let (name, cur) ← (← cur.advance).takeName '>' "group name"
    checkName name cur
    match r.names.lookup name with
    | some earlier =>
      throw (cur.fault (.redefinedGroup name r.groupCount earlier) (name.length + 1))
    | none =>
      return ({ r with names := (name, r.groupCount) :: r.names }.enterCapture position, cur)
  if cur.sees '=' then
    let (name, cur) ← (← cur.advance).takeName ')' "group name"
    checkName name cur
    match r.names.lookup name with
    | none => throw (cur.fault (.unknownGroupName name) (name.length + 1))
    | some group => return (← r.pushReference group (name.length + 1) cur, cur)
  let some t := cur.next? | throw (cur.fault .unexpectedEnd 0)
  let cur ← cur.advance
  throw (cur.fault (.unknownExtension ("P" ++ t.text)) (t.width + 2))

def conditionGroup (r : Reader) (name : String) (cur : Cursor) : Except Fault (Nat × Bool) :=
  let back := name.length + 1
  if isIdentifier name then
    match r.names.lookup name with
    | some group => .ok (group, false)
    | none => .error (cur.fault (.unknownGroupName name) back)
  else
    match readInt? name with
    | some (.ofNat 0) => .error (cur.fault .badGroupNumber back)
    | some (.ofNat group) =>
      if groupLimit ≤ group then .error (cur.fault (.invalidReference group) back)
      else .ok (group, true)
    | _ => .error (cur.fault (.badGroupName name) back)

def conditionalGroup (r : Reader) (position : Nat) (cur : Cursor) :
    Except Fault (Reader × Cursor) := do
  let (name, cur) ← cur.takeName ')' "group name"
  let (group, byNumber) ← r.conditionGroup name cur
  let known := !byNumber || r.conditions.any (·.1 == group)
  let conditions :=
    if known then r.conditions
    else r.conditions ++ [(group, cur.position - name.length - 1)]
  r.checkBehind group cur
  return ({ r with conditions }.enter (.conditional group) position r.level.flags, cur)

def lookBehind (r : Reader) (position : Nat) (cur : Cursor) : Except Fault (Reader × Cursor) := do
  let some t := cur.next? | throw (cur.fault .unexpectedEnd 0)
  let cur ← cur.advance
  if t != .plain '=' && t != .plain '!' then
    throw (cur.fault (.unknownExtension ("<" ++ t.text)) (t.width + 2))
  let outermost := r.behindFrom.isNone
  let r := { r with behindFrom := some (r.behindFrom.getD r.groupCount) }
  return (r.enter (.behind (t == .plain '!') outermost) position r.level.flags, cur)

def flagGroup (r : Reader) (t : Token) (position : Nat) (cur : Cursor) :
    Except Fault (Reader × Cursor) := do
  match ← inlineFlags t cur with
  | (.whole on, cur) =>
    if !(r.outer.isEmpty && r.level.done.isEmpty && r.level.items.isEmpty) then
      throw (Problem.globalFlagsNotFirst.placed position)
    let flags := r.flags.union on
    return ({ r with flags, level := { r.level with flags } }, cur)
  | (.inGroup on off, cur) =>
    return (r.enter .scoped position (r.level.flags.inside on off), cur)

def skipComment (position : Nat) : (fuel : Nat) → Cursor → Except Fault Cursor
  | 0, _ => .error (Problem.unterminatedComment.placed position)
  | fuel + 1, cur =>
    match cur.next? with
    | none => .error (Problem.unterminatedComment.placed position)
    | some t => do
      let cur ← cur.advance
      if t == .plain ')' then return cur else skipComment position fuel cur

def openGroup (r : Reader) (cur : Cursor) : Except Fault (Reader × Cursor) := do
  let position := cur.position - 1
  if !cur.sees '?' then return (r.enterCapture position, cur)
  let cur ← cur.advance
  let some t := cur.next? | throw (cur.fault .unexpectedEnd 0)
  let cur ← cur.advance
  match t with
  | .plain 'P' => r.namedGroup position cur
  | .plain ':' => return (r.enter .plain position r.level.flags, cur)
  | .plain '#' => return (r, ← skipComment position (cur.rest.length + 1) cur)
  | .plain '=' => return (r.enter (.ahead false) position r.level.flags, cur)
  | .plain '!' => return (r.enter (.ahead true) position r.level.flags, cur)
  | .plain '<' => r.lookBehind position cur
  | .plain '(' => r.conditionalGroup position cur
  | .plain '>' => return (r.enter .atomic position r.level.flags, cur)
  | _ =>
    if t == .plain '-' || isFlagLetter t then r.flagGroup t position cur
    else throw (cur.fault (.unknownExtension t.text) (t.width + 1))

def checkFlags (r : Reader) : Except Fault Unit :=
  if r.flags.ascii && r.flags.unicode then .error Problem.conflictingFlags.overall else .ok ()

def closedNode (opening : Opening) (level : Level) : Node :=
  match opening with
  | .plain | .scoped => level.node
  | .capture index => .group index level.node
  | .atomic => .atomic level.node
  | .ahead negated => .ahead negated level.node
  | .behind negated _ => .behind negated level.node.width level.node
  | .conditional group =>
    match level.alternatives with
    | [yes, no] => .ifGroup group (Item.sequence yes) (Item.sequence no)
    | _ => .ifGroup group level.node .empty

/-- The item of a group that is being closed. A group without a meaning of its own is taken apart
when alternatives are compared. -/
def closedItem (opening : Opening) (level : Level) : Item :=
  match opening with
  | .plain => { node := level.node, pieces := level.pieces }
  | _ => { node := closedNode opening level }

def closeGroup (r : Reader) (frame : Frame) (outer : List Frame) : Reader :=
  let closed := { r with level := frame.level, outer }.push (closedItem frame.opening r.level)
  match frame.opening with
  | .capture index =>
    { closed with widths := r.widths.setIfInBounds index (some r.level.node.width) }
  | .behind _ true => { closed with behindFrom := none }
  | _ => closed

def readToken (r : Reader) (t : Token) (cur : Cursor) : Except Fault (Reader × Cursor) :=
  match t with
  | .dangling => .error (cur.fault .danglingEscape 1)
  | .escape c => r.escape c cur
  | .plain '[' => do
    let ((negated, items), cur) ← bracketed r.level.flags.ascii cur
    return (r.pushSet negated items, cur)
  | .plain '?' => r.quantify 0 (some 1) (cur.position - 1) cur
  | .plain '*' => r.quantify 0 none (cur.position - 1) cur
  | .plain '+' => r.quantify 1 none (cur.position - 1) cur
  | .plain '{' => r.brace cur
  | .plain '.' =>
    .ok (r.push (.simple (.char (if r.level.flags.dotAll then .all else .notNewline))), cur)
  | .plain '(' => r.openGroup cur
  | .plain '^' =>
    .ok (r.pushAnchor (if r.level.flags.multiLine then .lineStart else .textStart), cur)
  | .plain '$' =>
    .ok (r.pushAnchor (if r.level.flags.multiLine then .lineEnd else .lastLineEnd), cur)
  | .plain c => .ok (r.pushCode c.toNat, cur)

def isIgnoredBlank (t : Token) : Bool :=
  match t with
  | .plain c => c == ' ' || (9 ≤ c.toNat && c.toNat ≤ 13)
  | _ => false

def step (r : Reader) (t : Token) (cur : Cursor) : Except Fault (Reader × Cursor) := do
  if t == .plain '|' then
    match r.outer with
    | ⟨.conditional _, _, _⟩ :: _ =>
      if !r.level.done.isEmpty then throw (cur.fault .tooManyBranches 0)
    | _ => pure ()
    return ({ r with level := r.level.bar }, ← cur.advance)
  else if t == .plain ')' then
    match r.outer with
    | [] => do
      r.checkFlags
      throw (cur.fault .unbalanced 0)
    | frame :: outer =>
      let cur ← cur.advance
      return (r.closeGroup frame outer, cur)
  else
    let after ← cur.advance
    if r.level.flags.verbose && isIgnoredBlank t then return (r, after)
    else if r.level.flags.verbose && t == .plain '#' then
      return (r, ← after.skipPast '\n' after.rest.length)
    else r.readToken t after

def finish (r : Reader) : Except Fault Reader :=
  match r.outer with
  | frame :: _ => .error (Problem.unterminatedGroup.placed frame.position)
  | [] => do
    r.checkFlags
    match r.conditions.find? (r.groupCount ≤ ·.1) with
    | some (group, position) => throw ((Problem.invalidReference group).placed position)
    | none => return r

/-- Steps until the pattern ends. Every step consumes a token, which bounds the number of steps. -/
def loop : (fuel : Nat) → Reader → Cursor → Except Fault Reader
  | 0, r, _ => r.finish
  | fuel + 1, r, cur =>
    match cur.next? with
    | none => r.finish
    | some t => do
      let (r, cur) ← r.step t cur
      loop fuel r cur

end Reader

def read (source : List Char) (flags : Flags) : Except Fault Reader := do
  let cur ← Cursor.start source
  Reader.loop (cur.rest.length + 1) (.start flags) cur

end CodeAudit.Regex
