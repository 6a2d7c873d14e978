import CodeAudit.Shell.Wrap

/-!
# Tables

A table has a title, a head and rows. Every column is as wide as its widest cell.
-/

namespace CodeAudit.Shell

open CodeAudit.Source (unlines)

structure Table where
  title : String
  head : List String
  rows : List (List String)
  deriving DecidableEq, Repr, Inhabited

def isLineEnd (c : Char) : Bool :=
  let n := c.toNat
  (10 ≤ n && n ≤ 13) || (28 ≤ n && n ≤ 30) || n == 0x85 || n == 0x2028 || n == 0x2029

def cellWidth (text : String) : Nat :=
  ((text.toList.filter (!isSuppressed ·)).splitOnP isLineEnd).foldl
    (fun width line => max width (cells line)) 0

/-- The lines that separate the parts of a table: left end, filling, crossing and right end. -/
structure Border where
  left : Char
  fill : Char
  cross : Char
  right : Char
  deriving DecidableEq, Repr, Inhabited

def Border.line (b : Border) (widths : List Nat) : List Char :=
  b.left :: [b.cross].intercalate (widths.map fun w => List.replicate (w + 2) b.fill) ++ [b.right]

namespace Table

def widths (table : Table) : List Nat :=
  table.rows.foldl (fun ws row => List.zipWith max ws (row.map cellWidth))
    (table.head.map cellWidth)

/-- The lines of a row; a cell with fewer lines than another is filled with blank ones. -/
def rowLines (bar : Char) (widths : List Nat) (row : List String) : List (List Char) :=
  let wrapped := List.zipWith (wrap .ellipsis) widths row
  let height := wrapped.foldl (fun h lines => max h lines.length) 0
  (List.range height).map fun i =>
    let parts := List.zipWith (fun w lines => ' ' :: padRight w (lines.getD i []) ++ [' '])
      widths wrapped
    bar :: [bar].intercalate parts ++ [bar]

def titleLine (width : Nat) (title : String) : List Char :=
  let text := cut .fold width title.toList
  padRight width (List.replicate ((width - cells text) / 2) ' ' ++ text)

def render (table : Table) : String :=
  let widths := table.widths
  let top := Border.line ⟨'┏', '━', '┳', '┓'⟩ widths
  unlines (titleLine top.length table.title :: top :: rowLines '┃' widths table.head ++
    Border.line ⟨'┡', '━', '╇', '┩'⟩ widths :: table.rows.flatMap (rowLines '│' widths) ++
    [Border.line ⟨'└', '─', '┴', '┘'⟩ widths])

end Table

end CodeAudit.Shell
