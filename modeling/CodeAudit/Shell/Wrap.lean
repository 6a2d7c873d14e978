import CodeAudit.Source.Lines
import CodeAudit.Shell.Cells

/-!
# Wrapped text

A text is shown line by line. Tabs become blanks up to the next stop. A line that is wider than the
terminal is broken before a word; a word that is wider than a whole line is cut. Blanks at the end
of a broken line stay as far as they fit.
-/

namespace CodeAudit.Shell

open CodeAudit.Source (unlines)
open CodeAudit.Text (isBlank dropBlanksRight)

/-- Control characters that are never sent to a terminal: bell, backspace, vertical tab, form feed
and carriage return. -/
def isSuppressed (c : Char) : Bool :=
  c.toNat == 7 || c.toNat == 8 || (11 ≤ c.toNat && c.toNat ≤ 13)

def tabSize : Nat := 8

def expandTabs : (column : Nat) → List Char → List Char
  | _, [] => []
  | column, c :: rest =>
    if c == '\t' then
      let gap := tabSize - column % tabSize
      List.replicate gap ' ' ++ expandTabs (column + gap) rest
    else c :: expandTabs (column + charCells c) rest

def plainLines (text : String) : List (List Char) :=
  (Source.splitLines (text.toList.filter (!isSuppressed ·))).map (expandTabs 0)

/-- The words of a line with the blanks around them; the blanks between two words belong to the
first. A line of nothing but blanks has no words. -/
def wordsFrom : (fuel : Nat) → List Char → List (List Char)
  | 0, _ => []
  | fuel + 1, cs =>
    let (before, rest) := cs.span isBlank
    let (body, rest) := rest.span (!isBlank ·)
    let (after, rest) := rest.span isBlank
    if body.isEmpty then [] else (before ++ body ++ after) :: wordsFrom fuel rest

def words (line : List Char) : List (List Char) :=
  wordsFrom (line.length + 1) line

def chopFrom (width : Nat) : (used : Nat) → (piece : List Char) → List Char → List (List Char)
  | _, piece, [] => [piece.reverse]
  | used, piece, c :: rest =>
    if width < used + charCells c then piece.reverse :: chopFrom width (charCells c) [c] rest
    else chopFrom width (used + charCells c) (c :: piece) rest

def chop (width : Nat) (word : List Char) : List (List Char) :=
  chopFrom width 0 [] word

/-- What happens to a word that is wider than a whole line: it is continued on the next line, or
cut with an ellipsis. -/
inductive Overflow where
  | fold
  | ellipsis
  deriving DecidableEq, Repr, Inhabited

/-- Lines under construction: those that are complete, last first, the current one, and how many
columns of it count as used. -/
structure Fill where
  done : List (List Char) := []
  current : List Char := []
  used : Nat := 0
  deriving DecidableEq, Repr, Inhabited

namespace Fill

def isFresh (fill : Fill) : Bool := fill.done.isEmpty && fill.current.isEmpty

def breakLine (fill : Fill) : Fill :=
  if fill.isFresh then fill else { done := fill.current :: fill.done }

def place (fill : Fill) (text : List Char) : Fill :=
  { fill with current := fill.current ++ text, used := fill.used + cells text }

def placeAlone (fill : Fill) (piece : List Char) : Fill :=
  let fill := fill.breakLine
  { fill with current := fill.current ++ piece, used := cells piece }

def add (overflow : Overflow) (width : Nat) (fill : Fill) (word : List Char) : Fill :=
  let size := cells (dropBlanksRight word)
  if fill.used + size ≤ width then fill.place word
  else if overflow == .fold && width < size then (chop width word).foldl placeAlone fill
  else fill.breakLine.place word

def lines (fill : Fill) : List (List Char) :=
  (fill.current :: fill.done).reverse

end Fill

/-- The beginning of a text that takes a number of columns, which the whole text exceeds. It is
found by bisection between `low` and `high` characters. Half of a wide character is a blank. -/
def cropBetween (width : Nat) (text : List Char) : (fuel low high : Nat) → List Char
  | 0, low, _ => text.take low
  | fuel + 1, low, high =>
    let middle := (low + high) / 2
    let before := text.take (middle + 1)
    let size := cells before
    if size == width + 1 && (before.getLast?.map charCells) == some 2 then
      before.dropLast ++ [' ']
    else if size == width then before
    else if width < size then cropBetween width text fuel low middle
    else cropBetween width text fuel middle high

def crop (width : Nat) (text : List Char) : List Char :=
  if width == 0 then [] else cropBetween width text (text.length + 1) 0 text.length

def cut (overflow : Overflow) (width : Nat) (text : List Char) : List Char :=
  if width < cells text then
    match overflow with
    | .fold => crop width text
    | .ellipsis => crop (width - 1) text ++ ['…']
  else text

/-- A line without the blanks at its end that do not fit. -/
def trimEnd (width : Nat) (line : List Char) : List Char :=
  let blanks := line.length - (dropBlanksRight line).length
  line.take (line.length - min blanks (line.length - width))

def wrapLine (overflow : Overflow) (width : Nat) (line : List Char) : List (List Char) :=
  let broken := match words line with
    | [] => [line]
    | ws => (ws.foldl (Fill.add overflow width) {}).lines
  broken.map fun l => cut overflow width (trimEnd width l)

def wrap (overflow : Overflow) (width : Nat) (text : String) : List (List Char) :=
  (plainLines text).flatMap (wrapLine overflow width)

def printed (width : Nat) (text : String) : String :=
  unlines (wrap .fold width text)

def printedWide (text : String) : String :=
  unlines (plainLines text)

def padRight (width : Nat) (text : List Char) : List Char :=
  text ++ List.replicate (width - cells text) ' '

end CodeAudit.Shell
