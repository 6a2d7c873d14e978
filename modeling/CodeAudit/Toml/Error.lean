import CodeAudit.Limit
import CodeAudit.Text.Quoted

/-!
# Errors in TOML documents

What can be wrong with a document and where. A place is given by the number of characters that
follow it, and reported as a line and column.
-/

namespace CodeAudit.Toml

open CodeAudit.Text

abbrev Key := List String

def shownKey : Key → String
  | [part] => "(" ++ quoted part ++ ",)"
  | parts => "(" ++ String.intercalate ", " (parts.map quoted) ++ ")"

inductive Problem where
  | invalidStatement
  | noNewline
  | expected (text : String)
  | foundInvalid (c : Char)
  | illegal (c : Char)
  | declaredTwice (key : Key)
  | overwrite
  | noTableEnd
  | noArrayEnd
  | frozen (key : Key)
  | redefined (key : Key)
  | noEquals
  | badKeyStart
  | unclosedArray
  | unclosedTable
  | duplicateKey (key : String)
  | badBackslash
  | badHex
  | notScalar
  | unterminated
  | badMoment
  | longInteger (digits : Nat)
  | invalidValue
  deriving DecidableEq, Repr, Inhabited

def Problem.text : Problem → String
  | .invalidStatement => "Invalid statement"
  | .noNewline => "Expected newline or end of document after a statement"
  | .expected t => "Expected " ++ quoted t
  | .foundInvalid c => "Found invalid character " ++ quoted (String.ofList [c])
  | .illegal c => "Illegal character " ++ quoted (String.ofList [c])
  | .declaredTwice key => "Cannot declare " ++ shownKey key ++ " twice"
  | .overwrite => "Cannot overwrite a value"
  | .noTableEnd => "Expected ']' at the end of a table declaration"
  | .noArrayEnd => "Expected ']]' at the end of an array declaration"
  | .frozen key => "Cannot mutate immutable namespace " ++ shownKey key
  | .redefined key => "Cannot redefine namespace " ++ shownKey key
  | .noEquals => "Expected '=' after a key in a key/value pair"
  | .badKeyStart => "Invalid initial character for a key part"
  | .unclosedArray => "Unclosed array"
  | .unclosedTable => "Unclosed inline table"
  | .duplicateKey key => "Duplicate inline table key " ++ quoted key
  | .badBackslash => "Unescaped '\\' in a string"
  | .badHex => "Invalid hex value"
  | .notScalar => "Escaped character is not a Unicode scalar value"
  | .unterminated => "Unterminated string"
  | .badMoment => "Invalid date or datetime"
  | .longInteger digits => (Limit.digitsRead digits).message
  | .invalidValue => "Invalid value"

/-- A problem and how many characters follow its place. -/
structure Fault where
  problem : Problem
  remaining : Nat
  deriving DecidableEq, Repr, Inhabited

def shownPlace (source : List Char) (remaining : Nat) : String :=
  if remaining == 0 then "end of document"
  else
    let before := source.take (source.length - remaining)
    let column := (before.reverse.takeWhile (· != '\n')).length + 1
    "line " ++ toString (before.count '\n' + 1) ++ ", column " ++ toString column

def Fault.message (source : List Char) (f : Fault) : String :=
  f.problem.text ++ " (at " ++ shownPlace source f.remaining ++ ")"

/-- Why there is no document: it is refused, or a limit is met while it is read. -/
inductive Error where
  | refused (reason : String)
  | limit (limit : Limit)
  deriving DecidableEq, Repr, Inhabited

/-- The error of a fault. An integer that is too long is no fault of the document. -/
def Fault.error (source : List Char) (f : Fault) : Error :=
  match f.problem with
  | .longInteger digits => .limit (.digitsRead digits)
  | _ => .refused (f.message source)

def failAt {α : Type} (problem : Problem) (rest : List Char) : Except Fault α :=
  .error ⟨problem, rest.length⟩

end CodeAudit.Toml
