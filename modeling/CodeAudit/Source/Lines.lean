import CodeAudit.Text.Blank
import CodeAudit.Text.CodeSet

/-!
# Lines of a text

Lines are the pieces between newline characters. The index keeps where each of them starts, so the
line of an offset is found by bisection; it is one more than the number of newlines before the
offset.
-/

namespace CodeAudit.Source

/-- The pieces of a text between newlines. There is always at least one. -/
def splitLines : List Char → List (List Char)
  | [] => [[]]
  | c :: rest =>
    if c == '\n' then [] :: splitLines rest
    else
      match splitLines rest with
      | [] => [[c]]
      | line :: lines => (c :: line) :: lines

def unlines (lines : List (List Char)) : String :=
  String.join (lines.map fun line => String.ofList line ++ "\n")

def lineStarts (offset : Nat) : List (List Char) → List Nat
  | [] => []
  | line :: lines => offset :: lineStarts (offset + line.length + 1) lines

/-- The lines of a text and where they start. -/
structure LineIndex where
  lines : Array String
  starts : Array Nat
  deriving DecidableEq, Repr, Inhabited

namespace LineIndex

def ofChars (text : List Char) : LineIndex :=
  let lines := splitLines text
  { lines := (lines.map String.ofList).toArray, starts := (lineStarts 0 lines).toArray }

def size (index : LineIndex) : Nat :=
  index.lines.size

/-- The line of an offset, counted from one. Before the text there is line zero. -/
def lineOf (index : LineIndex) : Int → Nat
  | .ofNat offset => Text.bisectRight index.starts offset
  | .negSucc _ => 0

def lineText (index : LineIndex) : Int → String
  | .ofNat (n + 1) => index.lines.getD n ""
  | _ => ""

def snippetAt (index : LineIndex) (offset : Int) : Nat × String :=
  let line := index.lineOf offset
  (line, Text.strip (index.lineText line))

end LineIndex

structure Buffer where
  text : Array Char
  index : LineIndex
  deriving Repr, Inhabited

namespace Buffer

def ofString (code : String) : Buffer :=
  { text := code.toList.toArray, index := .ofChars code.toList }

def size (buffer : Buffer) : Nat :=
  buffer.text.size

end Buffer

def defaultLimit : Nat := 1000000

structure TooLarge where
  size : Nat
  limit : Int
  deriving DecidableEq, Repr, Inhabited

def TooLarge.message (e : TooLarge) : String :=
  "Buffer has " ++ toString e.size ++ " characters; the scan limit is " ++ toString e.limit ++ "."

def Buffer.check (buffer : Buffer) (limit : Option Int) : Except TooLarge Unit :=
  match limit with
  | none => .ok ()
  | some limit => if limit < buffer.size then .error ⟨buffer.size, limit⟩ else .ok ()

end CodeAudit.Source
