import CodeAudit.Toml.Document
import CodeAudit.Toml.Moment
import CodeAudit.Toml.Number
import CodeAudit.Toml.Quote

/-!
# Reading TOML

A document is a sequence of lines: key and value, a table header, an array header, a comment or
nothing. The value of a key may span several lines.

An integer in base ten with more than `maxDigits` digits ends the reading with a limit, which is no
fault of the document. There is no limit here to how deep values are nested: whether the stack of a
machine is deep enough for a document is left to the `Decoder` that it reads documents with.
-/

namespace CodeAudit.Toml

def isBareKeyChar (c : Char) : Bool := c.isAlphanum || c == '-' || c == '_'

def skipComment : List Char → Except Fault (List Char)
  | '#' :: rest =>
    let (text, after) := rest.span (· != '\n')
    (checkNone isControl text after).map fun _ => after
  | cs => .ok cs

def skipFiller : (fuel : Nat) → List Char → Except Fault (List Char)
  | 0, cs => .ok cs
  | fuel + 1, cs => do
    let after ← skipComment (cs.dropWhile isAnyBlank)
    if after.length == cs.length then return after else skipFiller fuel after

def skipAll (cs : List Char) : Except Fault (List Char) :=
  skipFiller (cs.length + 1) cs

def keyPart : List Char → Except Fault (String × List Char)
  | '\'' :: rest => do
    let (text, rest) ← literalText rest
    return (String.ofList text, rest)
  | '"' :: rest => do
    let (text, rest) ← basicText false rest
    return (String.ofList text, rest)
  | cs =>
    match cs.span isBareKeyChar with
    | ([], _) => failAt .badKeyStart cs
    | (part, rest) => .ok (String.ofList part, rest)

def keyParts : (fuel : Nat) → Key → List Char → Except Fault (Key × List Char)
  | 0, read, cs => .ok (read, cs)
  | fuel + 1, read, cs =>
    match cs.dropWhile isInlineBlank with
    | '.' :: rest => do
      let (part, rest) ← keyPart (rest.dropWhile isInlineBlank)
      keyParts fuel (read ++ [part]) rest
    | rest => .ok (read, rest)

def key (cs : List Char) : Except Fault (Key × List Char) := do
  let (part, rest) ← keyPart cs
  keyParts (rest.length + 1) [part] rest

def scalar (cs : List Char) : Except Fault (Value × List Char) :=
  match cs with
  | '"' :: '"' :: '"' :: rest => textValue (multilineText false rest)
  | '"' :: rest => textValue (basicText false rest)
  | '\'' :: '\'' :: '\'' :: rest => textValue (multilineText true rest)
  | '\'' :: rest => textValue (literalText rest)
  | 't' :: 'r' :: 'u' :: 'e' :: rest => .ok (.bool true, rest)
  | 'f' :: 'a' :: 'l' :: 's' :: 'e' :: rest => .ok (.bool false, rest)
  | _ =>
    match moment? cs with
    | some ((value, valid), rest) =>
      if valid then .ok (value, rest) else failAt .badMoment cs
    | none =>
      match localTime? cs, number? cs, specialNumber? cs with
      | some found, _, _ => .ok found
      | none, some found, _ =>
        if maxDigits < integerDigits cs then failAt (.longInteger (integerDigits cs)) cs
        else .ok found
      | none, none, some found => .ok found
      | none, none, none => failAt .invalidValue cs
where
  textValue (r : Except Fault (List Char × List Char)) : Except Fault (Value × List Char) :=
    r.map fun (text, rest) => (.str (String.ofList text), rest)

def addInline (entries : Entries) (markings : List Marking) (key : Key) (value : Value) :
    Except Problem Entries :=
  let last := key.getLastD ""
  if isMarked markings key .frozen then .error (.frozen key)
  else change false (addNew last value (.duplicateKey last)) key.dropLast entries

/-- Places a problem at the start of a rest. -/
def placed {α : Type} (rest : List Char) (r : Except Problem α) : Except Fault α :=
  r.mapError fun problem => ⟨problem, rest.length⟩

mutual

def value : (fuel : Nat) → List Char → Except Fault (Value × List Char)
  | 0, cs => failAt .invalidValue cs
  | fuel + 1, '[' :: rest => do
    let rest ← skipAll rest
    match rest with
    | ']' :: rest => return (.list [], rest)
    | _ => arrayItems fuel [] rest
  | fuel + 1, '{' :: rest =>
    match rest.dropWhile isInlineBlank with
    | '}' :: rest => .ok (.table [], rest)
    | rest => inlineEntries fuel [] [] rest
  | _ + 1, cs => scalar cs

/-- Reads the items of an array up to its bracket. `items` holds those so far, last first. -/
def arrayItems : (fuel : Nat) → List Value → List Char → Except Fault (Value × List Char)
  | 0, _, cs => failAt .unclosedArray cs
  | fuel + 1, items, cs => do
    let (item, rest) ← value fuel cs
    let items := item :: items
    let rest ← skipAll rest
    match rest with
    | ']' :: rest => return (.list items.reverse, rest)
    | ',' :: rest =>
      let rest ← skipAll rest
      match rest with
      | ']' :: rest => return (.list items.reverse, rest)
      | _ => arrayItems fuel items rest
    | _ => failAt .unclosedArray rest

def inlineEntries :
    (fuel : Nat) → Entries → List Marking → List Char → Except Fault (Value × List Char)
  | 0, _, _, cs => failAt .unclosedTable cs
  | fuel + 1, entries, markings, cs => do
    let (k, rest) ← key cs
    let (v, rest) ← assigned fuel rest
    let entries ← placed rest (addInline entries markings k v)
    match rest.dropWhile isInlineBlank with
    | '}' :: rest => return (.table entries, rest)
    | ',' :: rest =>
      let markings := if Document.isContainer v then ⟨k, .frozen, true⟩ :: markings else markings
      inlineEntries fuel entries markings (rest.dropWhile isInlineBlank)
    | rest => failAt .unclosedTable rest

def assigned : (fuel : Nat) → List Char → Except Fault (Value × List Char)
  | 0, cs => failAt .invalidValue cs
  | fuel + 1, '=' :: rest => value fuel (rest.dropWhile isInlineBlank)
  | _ + 1, cs => failAt .noEquals cs

end

def statement (doc : Document) (cs : List Char) : Except Fault (Document × List Char) :=
  match cs with
  | '[' :: '[' :: rest => do
    let (k, rest) ← key (rest.dropWhile isInlineBlank)
    let doc ← placed rest (doc.settle.declareArray k)
    match rest with
    | ']' :: ']' :: rest => return (doc, rest)
    | _ => failAt .noArrayEnd rest
  | '[' :: rest => do
    let (k, rest) ← key (rest.dropWhile isInlineBlank)
    let doc ← placed rest (doc.settle.declareTable k)
    match rest with
    | ']' :: rest => return (doc, rest)
    | _ => failAt .noTableEnd rest
  | '#' :: _ => .ok (doc, cs)
  | c :: _ =>
    if isBareKeyChar c || c == '"' || c == '\'' then do
      let (k, rest) ← key cs
      -- every level of nesting takes two rounds and consumes a character
      let (v, rest) ← assigned (2 * rest.length + 2) rest
      return (← placed rest (doc.assign k v), rest)
    else failAt .invalidStatement cs
  | [] => .ok (doc, [])

def lines : (fuel : Nat) → Document → List Char → Except Fault Document
  | 0, doc, _ => .ok doc
  | fuel + 1, doc, cs =>
    match cs.dropWhile isInlineBlank with
    | [] => .ok doc
    | '\n' :: rest => lines fuel doc rest
    | cs => do
      let (doc, rest) ← statement doc cs
      let rest ← skipComment (rest.dropWhile isInlineBlank)
      match rest with
      | [] => return doc
      | '\n' :: rest => lines fuel doc rest
      | _ => failAt .noNewline rest

def plainNewlines : List Char → List Char
  | '\r' :: '\n' :: rest => '\n' :: plainNewlines rest
  | c :: rest => c :: plainNewlines rest
  | [] => []

def parse (text : String) : Except Error Entries :=
  let source := plainNewlines text.toList
  match lines (source.length + 1) {} source with
  | .ok doc => .ok doc.entries
  | .error fault => .error (fault.error source)

/-- What reads documents: `parse`, as far as the machine below it lasts. -/
abbrev Decoder := String → Except Error Entries

end CodeAudit.Toml
