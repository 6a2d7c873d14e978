import CodeAudit.Regex.Literal
import CodeAudit.Regex.Pattern

/-!
# Phrases

The part of the pattern language in which rules are phrased, as a syntax tree: characters, classes,
bracketed sets, repetition, groups and alternatives. A phrase is written as tokens (`tokens`,
`source`), and `extend` says what the reader will have added to the level that it is reading. That
a phrase is read back like this is the subject of `Proofs.Reading`.
-/

namespace CodeAudit.Regex

open CodeAudit.Text

-- ---------------------------------------------------------------------------
-- Syntax
-- ---------------------------------------------------------------------------

inductive Bound where
  | any
  | some
  | optional
  | atLeast (n : Nat)
  | exactly (n : Nat)
  deriving DecidableEq, Repr

/-- A quantifier: how often, and whether few repetitions are tried first. -/
structure Mark where
  bound : Bound
  reluctant : Bool := false
  deriving DecidableEq, Repr

inductive Member where
  | one (c : Char)
  | slashed (c : Char)
  | span (first last : Char)
  deriving DecidableEq, Repr

inductive GroupKind where
  | plain
  | capture
  | notAhead
  deriving DecidableEq, Repr

/-- A piece of a pattern. A sequence may have several alternatives, separated by `bar`. -/
inductive Phrase where
  | empty
  | plain (c : Char)
  /-- A character that stands for itself after a backslash. -/
  | slashed (c : Char)
  | shorthand (kind : CharKind) (negated : Bool)
  | any
  | wordEdge
  | lineEnd
  /-- A bracketed set, with or without a dash after its members. -/
  | set (negated : Bool) (members : List Member) (dash : Bool)
  | repeated (mark : Mark) (body : Phrase)
  | group (kind : GroupKind) (body : Phrase)
  | bar
  | append (first second : Phrase)
  deriving DecidableEq, Repr

instance : Append Phrase := ⟨.append⟩

-- ---------------------------------------------------------------------------
-- Tokens
-- ---------------------------------------------------------------------------

def digitTokens (n : Nat) : List Token :=
  (Nat.toDigits 10 n).map .plain

def Bound.tokens : Bound → List Token
  | .any => [.plain '*']
  | .some => [.plain '+']
  | .optional => [.plain '?']
  | .atLeast n => .plain '{' :: digitTokens n ++ [.plain ',', .plain '}']
  | .exactly n => .plain '{' :: digitTokens n ++ [.plain '}']

def Mark.tail (m : Mark) : List Token :=
  if m.reluctant then [.plain '?'] else []

def Mark.tokens (m : Mark) : List Token :=
  m.bound.tokens ++ m.tail

def Member.tokens : Member → List Token
  | .one c => [.plain c]
  | .slashed c => [.escape c]
  | .span a b => [.plain a, .plain '-', .plain b]

def GroupKind.tokens : GroupKind → List Token
  | .plain => [.plain '(', .plain '?', .plain ':']
  | .capture => [.plain '(']
  | .notAhead => [.plain '(', .plain '?', .plain '!']

def kindLetter : CharKind → (negated : Bool) → Char
  | .digit, false => 'd'
  | .digit, true => 'D'
  | .blank, false => 's'
  | .blank, true => 'S'
  | .word, false => 'w'
  | .word, true => 'W'

/-- The members of a set up to the closing bracket. -/
def setTokens (members : List Member) (dash : Bool) : List Token :=
  members.flatMap Member.tokens ++ (if dash then [.plain '-'] else [])

namespace Phrase

def tokens : Phrase → List Token
  | .empty => []
  | .plain c => [.plain c]
  | .slashed c => [.escape c]
  | .shorthand kind negated => [.escape (kindLetter kind negated)]
  | .any => [.plain '.']
  | .wordEdge => [.escape 'b']
  | .lineEnd => [.plain '$']
  | .set negated members dash =>
    .plain '[' :: (if negated then [.plain '^'] else []) ++ setTokens members dash ++ [.plain ']']
  | .repeated mark body => body.tokens ++ mark.tokens
  | .group kind body => kind.tokens ++ body.tokens ++ [.plain ')']
  | .bar => [.plain '|']
  | .append a b => a.tokens ++ b.tokens

def source (e : Phrase) : String :=
  String.ofList (e.tokens.flatMap Token.chars)

end Phrase

-- ---------------------------------------------------------------------------
-- Well-formed phrases
-- ---------------------------------------------------------------------------

def structuralChars : List Char :=
  ['\\', '[', '?', '*', '+', '{', '.', '(', ')', '^', '$', '|']

def Bound.fine : Bound → Bool
  | .atLeast n | .exactly n => n < countLimit
  | _ => true

def Member.fine : Member → Bool
  | .one c => !(['\\', ']', '-', '^'].contains c)
  | .slashed c => (controlEscape? c).isSome || (kindEscape? c).isSome || !c.isAlphanum
  | .span a b => !(['\\', ']', '-', '^'].contains a) && !(['\\', ']'].contains b) && a ≤ b

namespace Phrase

def isAtom : Phrase → Bool
  | .plain _ | .slashed _ | .shorthand _ _ | .any | .set _ _ _ | .group _ _ => true
  | _ => false

/-- Whether a phrase is read as it is meant: its characters stand for themselves, its sets have
members, and only single items are repeated. -/
def fine : Phrase → Bool
  | .plain c => !structuralChars.contains c
  | .slashed c => !c.isAlphanum
  | .set _ members _ => !members.isEmpty && members.all Member.fine
  | .repeated mark body => mark.bound.fine && body.isAtom && body.fine
  | .group _ body => body.fine
  | .append a b => a.fine && b.fine
  | _ => true

end Phrase

-- ---------------------------------------------------------------------------
-- What is read
-- ---------------------------------------------------------------------------

/-- The part of a reader's state that a phrase changes. -/
structure Draft where
  level : Level
  widths : Array (Option Width)

def Bound.limits : Bound → Nat × Option Nat
  | .any => (0, none)
  | .some => (1, none)
  | .optional => (0, Option.some 1)
  | .atLeast n => (n, none)
  | .exactly n => (n, Option.some n)

def Mark.greed (m : Mark) : Greed :=
  if m.reluctant then .reluctant else .greedy

def Mark.node (m : Mark) (body : Node) : Node :=
  .repeated m.greed m.bound.limits.1 m.bound.limits.2 body

def Member.item (ascii : Bool) : Member → ClassItem
  | .one c => .single c.toNat
  | .slashed c =>
    match controlEscape? c, kindEscape? c with
    | some code, _ => .single code
    | none, some (kind, negated) => .kind kind ascii negated
    | none, none => .single c.toNat
  | .span a b => .range a.toNat b.toNat

def setItems (ascii : Bool) (members : List Member) (dash : Bool) : List ClassItem :=
  members.map (Member.item ascii) ++ (if dash then [.single 45] else [])

namespace Draft

def push (d : Draft) (item : Item) : Draft :=
  { d with level := d.level.push item }

def repeatLast (d : Draft) (m : Mark) : Draft :=
  match d.level.items with
  | [] => d
  | item :: before =>
    { d with
      level := { d.level with items := { node := m.node item.node, kind := .repetition } :: before } }

def inside (d : Draft) : GroupKind → Draft
  | .capture => { level := { flags := d.level.flags }, widths := d.widths.push none }
  | _ => { d with level := { flags := d.level.flags } }

def close (d : Draft) (kind : GroupKind) (inner : Draft) : Draft :=
  match kind with
  | .plain =>
    { d.push { node := inner.level.node, pieces := inner.level.pieces } with
      widths := inner.widths }
  | .capture =>
    { d.push { node := .group d.widths.size inner.level.node } with
      widths := inner.widths.setIfInBounds d.widths.size (some inner.level.node.width) }
  | .notAhead => { d.push { node := .ahead true inner.level.node } with widths := inner.widths }

end Draft

namespace Phrase

def extend : Phrase → Draft → Draft
  | .empty, d => d
  | .plain c, d | .slashed c, d => d.push (.ofSet d.level.fold false [.single c.toNat])
  | .shorthand kind negated, d =>
    d.push (.ofSet d.level.fold false [.kind kind d.level.flags.ascii negated])
  | .any, d => d.push (.simple (.char (if d.level.flags.dotAll then .all else .notNewline)))
  | .wordEdge, d => d.push (.simple (.anchor (.wordEdge d.level.flags.ascii)) .anchor)
  | .lineEnd, d =>
    d.push (.simple (.anchor (if d.level.flags.multiLine then .lineEnd else .lastLineEnd)) .anchor)
  | .set negated members dash, d =>
    d.push (.ofSet d.level.fold negated (setItems d.level.flags.ascii members dash))
  | .repeated mark body, d => (body.extend d).repeatLast mark
  | .group kind body, d => d.close kind (body.extend (d.inside kind))
  | .bar, d => { d with level := d.level.bar }
  | .append a b, d => b.extend (a.extend d)

end Phrase

-- ---------------------------------------------------------------------------
-- Texts and alternatives
-- ---------------------------------------------------------------------------

namespace Phrase

def sequence : List Phrase → Phrase
  | [] => .empty
  | e :: rest => e ++ sequence rest

/-- A character as such, after a backslash if it needs one. -/
def exactly (c : Char) : Phrase :=
  if specialChars.contains c then .slashed c else .plain c

def literal (s : String) : Phrase :=
  sequence (s.toList.map exactly)

def oneOf : List Phrase → Phrase
  | [] => .empty
  | [e] => e
  | e :: rest => e ++ (.bar ++ oneOf rest)

end Phrase

end CodeAudit.Regex
