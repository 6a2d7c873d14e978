import CodeAudit.Text.Quoted

/-!
# JSON

Values of JSON reports and how they are written: two blanks of indentation per level, one entry per
line, empty lists and objects without a line break, and ASCII characters only. A character outside
the basic plane is written as two escapes.
-/

namespace CodeAudit

/-- A JSON value. Objects keep the order of their entries. -/
inductive Json where
  | null
  | bool (b : Bool)
  | int (n : Int)
  | str (s : String)
  | arr (items : List Json)
  | obj (entries : List (String × Json))
  deriving Repr, Inhabited

namespace Json

def texts (items : List String) : Json :=
  .arr (items.map .str)

def optional (s : Option String) : Json :=
  (s.map Json.str).getD .null

def unitEscape (n : Nat) : List Char :=
  '\\' :: 'u' :: Text.hexDigits 4 n

def writeChar (c : Char) : List Char :=
  if c == '"' then ['\\', '"']
  else if c == '\\' then ['\\', '\\']
  else if c == '\n' then ['\\', 'n']
  else if c == '\r' then ['\\', 'r']
  else if c == '\t' then ['\\', 't']
  else if c.toNat == 8 then ['\\', 'b']
  else if c.toNat == 12 then ['\\', 'f']
  else if 32 ≤ c.toNat && c.toNat < 127 then [c]
  else if c.toNat < 0x10000 then unitEscape c.toNat
  else
    let n := c.toNat - 0x10000
    unitEscape (0xD800 + n / 0x400) ++ unitEscape (0xDC00 + n % 0x400)

def writeString (s : String) : String :=
  String.ofList ('"' :: s.toList.flatMap writeChar ++ ['"'])

def newLine (depth : Nat) : String :=
  String.ofList ('\n' :: List.replicate (2 * depth) ' ')

mutual

/-- A value whose surroundings are indented by `depth` levels. -/
def write (depth : Nat) : Json → String
  | .null => "null"
  | .bool true => "true"
  | .bool false => "false"
  | .int n => toString n
  | .str s => writeString s
  | .arr [] => "[]"
  | .arr items => "[" ++ writeItems (depth + 1) items ++ newLine depth ++ "]"
  | .obj [] => "\x7b\x7d"
  | .obj entries => "\x7b" ++ writeEntries (depth + 1) entries ++ newLine depth ++ "\x7d"

def writeItems (depth : Nat) : List Json → String
  | [] => ""
  | [item] => newLine depth ++ write depth item
  | item :: rest => newLine depth ++ write depth item ++ "," ++ writeItems depth rest

def writeEntries (depth : Nat) : List (String × Json) → String
  | [] => ""
  | [(key, value)] => newLine depth ++ writeString key ++ ": " ++ write depth value
  | (key, value) :: rest =>
    newLine depth ++ writeString key ++ ": " ++ write depth value ++ "," ++
      writeEntries depth rest

end

def render (value : Json) : String :=
  write 0 value

end Json

end CodeAudit
