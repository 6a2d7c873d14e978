import CodeAudit.Shell.EmojiTable
import CodeAudit.Text.Blank
import CodeAudit.Text.Case

/-!
# Emoji

In a text with markup, a name between colons is shown as the emoji of that name, and a name that
is not known stays as it is. Names are not case sensitive. The name may end in `-text` or
`-emoji`, which asks for a plain or a coloured picture.
-/

namespace CodeAudit.Shell

def regions : List (List Char × List Char) :=
  (regionTable.toList.splitOnP Text.isBlank).filterMap fun word =>
    match word.splitOn '=' with
    | [name, entry] => some (name, entry)
    | _ => none

/-- The picture of a letter of the alphabet, which is half a flag. -/
def regionalIndicator (letter : Char) : Char :=
  Char.ofNat (0x1F1E6 + (Text.lowerAsciiCode letter.toNat - 97) % 26)

def tableEmoji? (table : List (String × List Nat)) (name : List Char) : Option (List Char) :=
  (table.lookup (String.ofList name)).map (·.map Char.ofNat)

def nameAfter? (start : String) (name : List Char) : Option (List Char) :=
  if start.toList.isPrefixOf name then some (name.drop start.length) else none

def nameBefore? (ending : String) (name : List Char) : Option (List Char) :=
  if ending.toList.isSuffixOf name then some (name.take (name.length - ending.length)) else none

def flag? (name : List Char) : Option (List Char) :=
  (regions.lookup ((nameAfter? "flag_for_" name).getD name)).map
    (·.map regionalIndicator)

def letterEmoji? (name : List Char) : Option (List Char) :=
  let letter := (nameAfter? "regional_indicator_symbol_letter_" name).orElse fun _ =>
    nameAfter? "regional_indicator_" name
  match letter with
  | some [c] => if c.isLower then some [regionalIndicator c] else none
  | _ => none

def skinTones : List (String × Nat) :=
  [("light", 0x1F3FB), ("medium-light", 0x1F3FC), ("medium", 0x1F3FD), ("medium-dark", 0x1F3FE),
    ("dark", 0x1F3FF)]

/-- A person with a skin tone. The tone stands behind the first character and makes the mark of a
coloured picture needless there. -/
def withTone (tone : Nat) : List Char → List Char
  | [] => []
  | c :: rest => c :: Char.ofNat tone :: rest.dropWhile (·.toNat == 0xFE0F)

def person? (name : List Char) : Option (List Char) :=
  (tableEmoji? personTable name).orElse fun _ =>
    skinTones.findSome? fun (tone, code) => do
      let plain ← nameBefore? ("_" ++ tone ++ "_skin_tone") name
      return withTone code (← tableEmoji? personTable plain)

def emoji? (name : List Char) : Option (List Char) :=
  (tableEmoji? emojiTable name).orElse fun _ =>
    (person? name).orElse fun _ => (flag? name).orElse fun _ => letterEmoji? name

def nameAndMark (body : List Char) : List Char × List Char :=
  match nameBefore? "-emoji" body, nameBefore? "-text" body with
  | some name, _ => (name, [Char.ofNat 0xFE0F])
  | _, some name => (name, [Char.ofNat 0xFE0E])
  | none, none => (body, [])

def shownBetweenColons (body : List Char) : List Char :=
  let (name, mark) := nameAndMark body
  match emoji? (Text.lower (String.ofList name)).toList with
  | some picture => picture ++ mark
  | none => ':' :: body ++ [':']

/-- Replaces the names between colons. Between the two colons of a name are no blanks. -/
def replaceEmojiFrom : (fuel : Nat) → List Char → List Char
  | 0, cs => cs
  | _, [] => []
  | fuel + 1, ':' :: rest =>
    match rest.span fun c => c != ':' && !Text.isBlank c with
    | (body, ':' :: after) => shownBetweenColons body ++ replaceEmojiFrom fuel after
    | _ => ':' :: replaceEmojiFrom fuel rest
  | fuel + 1, c :: rest => c :: replaceEmojiFrom fuel rest

def replaceEmoji (text : List Char) : List Char :=
  replaceEmojiFrom text.length text

end CodeAudit.Shell
