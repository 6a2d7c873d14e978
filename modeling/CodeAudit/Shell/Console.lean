import CodeAudit.Shell.Markup
import CodeAudit.Shell.Panel
import CodeAudit.Shell.Table
import CodeAudit.Terminal.Console

/-!
# The console

Prints without colours. It stands in for the library that the program is written with, as far as
the program uses it, and is not that library: names of styles are compared word by word only if they
are short names, styles with parameters are not looked into, and a table is never made narrower than
it needs to be.
-/

namespace CodeAudit.Shell

open CodeAudit.Terminal (Cell Column Console Fault Item joined)

def shownMarkup (text : String) : Except Fault String :=
  (renderMarkup text).mapError fun e => ⟨e.message⟩

def shownCell : Cell → Except Fault String
  | .markup text => shownMarkup text
  | .styled text => .ok (joined text)

def shownTable (title : String) (columns : List Column) (rows : List (List Cell)) :
    Except Fault Table := do
  let head ← columns.mapM fun column => shownMarkup column.head
  let rows ← rows.mapM fun row => row.mapM shownCell
  return { title, head, rows }

def console (width : Nat) : Console where
  print
    | .blank => .ok "\n"
    | .markup text => (shownMarkup text).map (printed width)
    | .styled text => .ok (printed width (joined text))
    | .panel content subtitle _ => do
      let shown ← shownMarkup subtitle
      return panel width (joined content) (if subtitle.isEmpty then none else some shown)
    | .table title columns rows => do
      return (← shownTable title columns rows).render

/-- A console for messages, whose lines may have any length. -/
def wideConsole : Console where
  print
    | .markup text => (shownMarkup text).map printedWide
    | .styled text => .ok (printedWide (joined text))
    | _ => .ok "\n"

end CodeAudit.Shell
