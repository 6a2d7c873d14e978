/-!
# Consoles

What a console is asked to print. A text with markup is read by the console; a styled text is shown
as it is. How items are laid out is the affair of the console, and so is why one cannot be printed.
-/

namespace CodeAudit.Terminal

structure Span where
  text : String
  style : String := ""
  deriving DecidableEq, Repr, Inhabited

/-- A text in spans of one style each. Nothing in it is read as markup. -/
abbrev StyledText := List Span

def joined (text : StyledText) : String := String.join (text.map (·.text))

inductive Cell where
  | markup (text : String)
  | styled (text : StyledText)
  deriving DecidableEq, Repr, Inhabited

structure Column where
  head : String
  style : String := ""
  deriving DecidableEq, Repr, Inhabited

inductive Item where
  | blank
  | markup (text : String)
  | styled (text : StyledText)
  /-- A box with a subtitle, which is markup, in its lower border. -/
  | panel (content : StyledText) (subtitle : String) (borderStyle : String)
  | table (title : String) (columns : List Column) (rows : List (List Cell))
  deriving DecidableEq, Repr, Inhabited

structure Fault where
  message : String
  deriving DecidableEq, Repr, Inhabited

structure Console where
  print : Item → Except Fault String
  deriving Inhabited

namespace Console

def printAll (console : Console) : List Item → Except Fault String
  | [] => .ok ""
  | item :: rest => do
    let first ← console.print item
    let more ← console.printAll rest
    return first ++ more

end Console

end CodeAudit.Terminal
