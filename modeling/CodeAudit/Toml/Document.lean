import CodeAudit.Toml.Error
import CodeAudit.Value

/-!
# TOML documents under construction

The tables read so far, and which of them may no longer be extended: a value given inline is closed
with everything in it, and a table can be declared once.
-/

namespace CodeAudit.Toml

inductive Mark where
  | frozen
  | declared
  deriving DecidableEq, Repr, Inhabited

/-- A mark on a key, and on everything below it if `deep`. -/
structure Marking where
  key : Key
  mark : Mark
  deep : Bool
  deriving DecidableEq, Repr, Inhabited

def isMarked (markings : List Marking) (key : Key) (mark : Mark) : Bool :=
  markings.any fun m => m.mark == mark && (m.key == key || (m.deep && m.key.isPrefixOf key))

/-- Changes the table behind a key, creating tables on the way. Of an array of tables it is the
last one, unless arrays are not entered. Nothing is behind a value of another kind. -/
def change (enterLists : Bool) (f : Entries → Except Problem Entries) :
    Key → Entries → Except Problem Entries
  | [], entries => f entries
  | part :: rest, entries =>
    match entries.get? part with
    | none => do
      return entries.put part (.table (← change enterLists f rest []))
    | some (.table inner) => do
      return entries.put part (.table (← change enterLists f rest inner))
    | some (.list items) =>
      match enterLists, items.getLast? with
      | true, some (.table inner) => do
        let last ← change enterLists f rest inner
        return entries.put part (.list (items.dropLast ++ [.table last]))
      | _, _ => .error .overwrite
    | some _ => .error .overwrite

def addNew (name : String) (value : Value) (taken : Problem) (entries : Entries) :
    Except Problem Entries :=
  if (entries.get? name).isSome then .error taken else .ok (entries.put name value)

def addTable (name : String) (entries : Entries) : Except Problem Entries :=
  match entries.get? name with
  | none => .ok (entries.put name (.list [.table []]))
  | some (.list items) => .ok (entries.put name (.list (items ++ [.table []])))
  | some _ => .error .overwrite

/-- A document under construction: its tables, its markings, the markings that take effect with the
next header, and the current header. -/
structure Document where
  entries : Entries := []
  markings : List Marking := []
  pending : List Marking := []
  header : Key := []
  deriving Repr, Inhabited

namespace Document

def mark (doc : Document) (key : Key) (m : Mark) (deep : Bool) : Document :=
  { doc with markings := ⟨key, m, deep⟩ :: doc.markings }

def settle (doc : Document) : Document :=
  { doc with markings := doc.pending ++ doc.markings, pending := [] }

def unmark (doc : Document) (key : Key) : Document :=
  { doc with markings := doc.markings.filter fun m => !key.isPrefixOf m.key }

def declareTable (doc : Document) (key : Key) : Except Problem Document := do
  if isMarked doc.markings key .declared || isMarked doc.markings key .frozen then
    throw (.declaredTwice key)
  let doc := doc.mark key .declared false
  return { doc with entries := ← change true .ok key doc.entries, header := key }

def declareArray (doc : Document) (key : Key) : Except Problem Document := do
  if isMarked doc.markings key .frozen then throw (.frozen key)
  let doc := (doc.unmark key).mark key .declared false
  let entries ← change true (addTable (key.getLastD "")) key.dropLast doc.entries
  return { doc with entries, header := key }

def passThrough (doc : Document) : List Key → Except Problem Document
  | [] => .ok doc
  | key :: rest =>
    if isMarked doc.markings key .declared then .error (.redefined key)
    else { doc with pending := ⟨key, .declared, false⟩ :: doc.pending }.passThrough rest

def isContainer : Value → Bool
  | .list _ => true
  | .table _ => true
  | _ => false

def assign (doc : Document) (key : Key) (value : Value) : Except Problem Document := do
  let inner := (List.range (key.length - 1)).map fun i => doc.header ++ key.take (i + 1)
  let doc ← doc.passThrough inner
  let parent := doc.header ++ key.dropLast
  if isMarked doc.markings parent .frozen then throw (.frozen parent)
  let entries ← change true (addNew (key.getLastD "") value .overwrite) parent doc.entries
  let doc := { doc with entries }
  return if isContainer value then doc.mark (doc.header ++ key) .frozen true else doc

end Document

end CodeAudit.Toml
