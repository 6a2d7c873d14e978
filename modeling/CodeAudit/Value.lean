import CodeAudit.Limit
import CodeAudit.Text.Quoted

/-!
# Values of rule and settings files

The data that a rule file or a settings table is made of. Tables keep the order of their entries.
Numbers with a fraction and points in time are only ever shown, so they are kept as the text that
shows them.
-/

namespace CodeAudit

inductive Value where
  | null
  | bool (b : Bool)
  | int (n : Int)
  /-- A number with a fraction or exponent, by its shortest text. -/
  | real (text : String)
  | str (s : String)
  | moment (text : String)
  | list (items : List Value)
  | table (entries : List (String × Value))
  deriving Repr, Inhabited

abbrev Entries := List (String × Value)

namespace Entries

/-- Sets a key. A key that is already there keeps its place. -/
def put : Entries → String → Value → Entries
  | [], key, value => [(key, value)]
  | (k, v) :: rest, key, value =>
    if k == key then (k, value) :: rest else (k, v) :: put rest key value

def get? (entries : Entries) (key : String) : Option Value :=
  entries.lookup key

def erase (entries : Entries) (key : String) : Entries :=
  entries.filter (·.1 != key)

def keys (entries : Entries) : List String :=
  entries.map (·.1)

/-- The entries under renamed keys. Of entries that meet under one name, the last value stays, at
the place of the first. -/
def mapKeys (f : String → String) (entries : Entries) : Entries :=
  entries.foldl (fun out (k, v) => put out (f k) v) []

end Entries

namespace Value

def texts? : Value → Option (List String)
  | .list items => items.mapM fun
    | .str s => some s
    | _ => none
  | _ => none

def ofTexts (texts : List String) : Value :=
  .list (texts.map .str)

mutual

def shown : Value → String
  | .null => "None"
  | .bool true => "True"
  | .bool false => "False"
  | .int n => toString n
  | .real text => text
  | .str s => Text.quoted s
  | .moment text => text
  | .list items => "[" ++ shownItems items ++ "]"
  | .table entries => "\x7b" ++ shownEntries entries ++ "\x7d"

def shownItems : List Value → String
  | [] => ""
  | [v] => shown v
  | v :: rest => shown v ++ ", " ++ shownItems rest

def shownEntries : List (String × Value) → String
  | [] => ""
  | [(k, v)] => Text.quoted k ++ ": " ++ shown v
  | (k, v) :: rest => Text.quoted k ++ ": " ++ shown v ++ ", " ++ shownEntries rest

end

mutual

/-- Whether a value holds an integer that is too long to be shown. -/
def hasLongInteger : Value → Bool
  | .int n => isLongInteger n
  | .list items => anyLongInteger items
  | .table entries => entryLongInteger entries
  | _ => false

def anyLongInteger : List Value → Bool
  | [] => false
  | v :: rest => hasLongInteger v || anyLongInteger rest

def entryLongInteger : List (String × Value) → Bool
  | [] => false
  | (_, v) :: rest => hasLongInteger v || entryLongInteger rest

end

end Value

end CodeAudit
