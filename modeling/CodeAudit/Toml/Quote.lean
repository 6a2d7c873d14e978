import CodeAudit.Text.Radix
import CodeAudit.Toml.Error

/-!
# Texts in TOML

Basic texts with escapes and literal texts without, each on one line or on several.
-/

namespace CodeAudit.Toml

open CodeAudit.Text (isHexDigit ofDigits)

def isInlineBlank (c : Char) : Bool := c == ' ' || c == '\t'

def isAnyBlank (c : Char) : Bool := isInlineBlank c || c == '\n'

/-- Control characters that must not stand in a one-line text or a comment. -/
def isControl (c : Char) : Bool := (c.toNat < 32 && c != '\t') || c.toNat == 127

def isControlNotNewline (c : Char) : Bool := isControl c && c != '\n'

def splitBefore? (piece : List Char) : List Char → Option (List Char × List Char)
  | [] => if piece.isEmpty then some ([], []) else none
  | c :: rest =>
    if piece.isPrefixOf (c :: rest) then some ([], c :: rest)
    else (splitBefore? piece rest).map fun (before, after) => (c :: before, after)

def checkNone (forbidden : Char → Bool) (part after : List Char) : Except Fault Unit :=
  match part.dropWhile (!forbidden ·) with
  | [] => .ok ()
  | c :: rest => .error ⟨.foundInvalid c, (c :: rest).length + after.length⟩

def readUntil (piece : String) (forbidden : Char → Bool) (cs : List Char) :
    Except Fault (List Char × List Char) :=
  match splitBefore? piece.toList cs with
  | none => .error ⟨.expected piece, 0⟩
  | some (part, after) => do
    checkNone forbidden part after
    return (part, after)

def hexChar (n : Nat) (cs : List Char) : Except Fault (List Char × List Char) :=
  let ds := cs.take n
  if ds.length != n || !ds.all isHexDigit then failAt .badHex cs
  else
    let code := ofDigits 16 ds
    let rest := cs.drop n
    if code < 0xD800 || (0xDFFF < code && code ≤ 0x10FFFF) then .ok ([Char.ofNat code], rest)
    else failAt .notScalar rest

/-- Reads an escape after its backslash. In a text of several lines, a backslash at the end of a
line joins it with what follows. -/
def readEscape (multiline : Bool) (cs : List Char) : Except Fault (List Char × List Char) :=
  match cs with
  | [] => failAt .badBackslash []
  | c :: rest =>
    if multiline && isAnyBlank c then
      if c == '\n' then .ok ([], rest.dropWhile isAnyBlank)
      else
        match rest.dropWhile isInlineBlank with
        | [] => .ok ([], [])
        | '\n' :: after => .ok ([], after.dropWhile isAnyBlank)
        | after => failAt .badBackslash after
    else
      match c with
      | 'u' => hexChar 4 rest
      | 'U' => hexChar 8 rest
      | 'b' => .ok ([Char.ofNat 8], rest)
      | 't' => .ok (['\t'], rest)
      | 'n' => .ok (['\n'], rest)
      | 'f' => .ok ([Char.ofNat 12], rest)
      | 'r' => .ok (['\r'], rest)
      | '"' => .ok (['"'], rest)
      | '\\' => .ok (['\\'], rest)
      | _ => failAt .badBackslash rest

def basicLoop (multiline : Bool) :
    (fuel : Nat) → (read : List Char) → List Char → Except Fault (List Char × List Char)
  | 0, _, cs => failAt .unterminated cs
  | fuel + 1, read, cs =>
    match cs with
    | [] => failAt .unterminated []
    | '"' :: rest =>
      if !multiline then .ok (read.reverse, rest)
      else
        match rest with
        | '"' :: '"' :: after => .ok (read.reverse, after)
        | _ => basicLoop multiline fuel ('"' :: read) rest
    | '\\' :: rest => do
      let (escaped, after) ← readEscape multiline rest
      basicLoop multiline fuel (escaped.reverse ++ read) after
    | c :: rest =>
      if (if multiline then isControlNotNewline c else isControl c) then
        failAt (.illegal c) (c :: rest)
      else basicLoop multiline fuel (c :: read) rest

def basicText (multiline : Bool) (cs : List Char) : Except Fault (List Char × List Char) :=
  basicLoop multiline (cs.length + 1) [] cs

def literalText (cs : List Char) : Except Fault (List Char × List Char) := do
  let (text, rest) ← readUntil "'" isControl cs
  return (text, rest.drop 1)

/-- Up to two further quotes directly after the closing ones belong to the text. -/
def extraQuotes (quote : Char) (text rest : List Char) : List Char × List Char :=
  match rest with
  | a :: b :: after =>
    if a == quote && b == quote then (text ++ [quote, quote], after)
    else if a == quote then (text ++ [quote], b :: after)
    else (text, rest)
  | [a] => if a == quote then (text ++ [quote], []) else (text, rest)
  | [] => (text, rest)

def dropFirstNewline : List Char → List Char
  | '\n' :: rest => rest
  | cs => cs

def multilineText (literal : Bool) (cs : List Char) : Except Fault (List Char × List Char) := do
  let cs := dropFirstNewline cs
  if literal then
    let (text, rest) ← readUntil "'''" isControlNotNewline cs
    return extraQuotes '\'' text (rest.drop 3)
  else
    let (text, rest) ← basicText true cs
    return extraQuotes '"' text rest

end CodeAudit.Toml
