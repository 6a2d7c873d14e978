import CodeAudit.Shell.Emoji
import CodeAudit.Text.Blank
import CodeAudit.Text.Case
import CodeAudit.Text.Replace

/-!
# Markup

Some texts for the terminal may hold tags in square brackets, which open and close styles. Styles
are not shown, so a tag vanishes. A backslash before a bracket makes it an ordinary character. A
closing tag has to close something. Between tags, names of emoji stand for their pictures.
-/

namespace CodeAudit.Shell

inductive MarkupError where
  | nothingOpen (position : Nat)
  | notOpen (tag : String) (position : Nat)
  deriving DecidableEq, Repr, Inhabited

def MarkupError.message : MarkupError → String
  | .nothingOpen position =>
    "closing tag '[/]' at position " ++ toString position ++ " has nothing to close"
  | .notOpen tag position =>
    "closing tag '[" ++ tag ++ "]' at position " ++ toString position ++
      " doesn't match any open tag"

inductive Piece where
  | plain (text : List Char)
  | tag (position : Nat) (content : List Char)
  deriving DecidableEq, Repr, Inhabited

def isTagStart (c : Char) : Bool := c.isLower || c == '#' || c == '/' || c == '@'

def tag? : List Char → Option (List Char × List Char)
  | [] => none
  | c :: rest =>
    if isTagStart c then
      match rest.span fun d => d != '[' && d != ']' with
      | (body, ']' :: after) => some (c :: body, after)
      | _ => none
    else none

/-- Splits a text into plain parts and tags. `plain` holds the plain text before, last first. Of
backslashes before a tag, two stand for one, and a single one makes the tag plain text. -/
def piecesFrom : (fuel position : Nat) → (plain : List Char) → List Char → List Piece
  | 0, _, plain, _ => [.plain plain.reverse]
  | fuel + 1, position, plain, cs =>
    let (slashes, rest) := cs.span (· == '\\')
    let count := slashes.length
    match rest with
    | [] => [.plain (plain.reverse ++ slashes)]
    | c :: inner =>
      match if c == '[' then tag? inner else none with
      | none => piecesFrom fuel (position + count + 1) (c :: slashes ++ plain) inner
      | some (content, after) =>
        let piece := if count % 2 == 1 then Piece.plain ('[' :: content ++ [']'])
          else .tag (position + count) content
        .plain plain.reverse :: .plain (List.replicate (count / 2) '\\') :: piece ::
          piecesFrom fuel (position + count + content.length + 2) [] after

def pieces (text : List Char) : List Piece :=
  piecesFrom (text.length + 1) 0 [] text

def styleNames : List (String × String) :=
  [("b", "bold"), ("d", "dim"), ("i", "italic"), ("u", "underline"), ("uu", "underline2"),
    ("r", "reverse"), ("s", "strike"), ("c", "conceal"), ("o", "overline")]

def styleName (text : List Char) : String :=
  let name := Text.lower (Text.strip (String.ofList text))
  (styleNames.lookup name).getD name

def tagName (content : List Char) : List Char :=
  content.takeWhile (· != '=')

/-- Removes the first occurrence of an open style, the innermost first. -/
def closeStyle? (name : String) : List String → Option (List String)
  | [] => none
  | style :: rest =>
    if style == name then some rest else (closeStyle? name rest).map (style :: ·)

def applyTag (openStyles : List String) (position : Nat) (content : List Char) :
    Except MarkupError (List String) :=
  match tagName content with
  | '/' :: name =>
    if Text.stripChars name == [] then
      match openStyles with
      | [] => .error (.nothingOpen position)
      | _ :: rest => .ok rest
    else
      match closeStyle? (styleName name) openStyles with
      | none => .error (.notOpen (String.ofList content) position)
      | some rest => .ok rest
  | name => .ok (styleName name :: openStyles)

/-- A plain part as it is shown: a bracket may have a backslash before it, and emoji are written by
name. -/
def plainText (text : List Char) : String :=
  String.ofList (replaceEmoji (Text.replaceAll "\\[" "[" (String.ofList text)).toList)

def renderPieces : (openStyles : List String) → List Piece → Except MarkupError String
  | _, [] => .ok ""
  | openStyles, .plain text :: rest => do
    return plainText text ++ (← renderPieces openStyles rest)
  | openStyles, .tag position content :: rest => do
    renderPieces (← applyTag openStyles position content) rest

def renderMarkup (text : String) : Except MarkupError String :=
  renderPieces [] (pieces text.toList)

end CodeAudit.Shell
