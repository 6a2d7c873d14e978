import CodeAudit.Text.Blank
import CodeAudit.Text.NameTable
import CodeAudit.Text.Radix

/-!
# Characters by name

A character is found by its name or by an alias of it, in letters of either case. Ideographs are
named by their code points and Korean syllables by their sounds, both in capital letters only.
-/

namespace CodeAudit.Text

def tableEntries (table : String) : List (List Char) :=
  (table.toList.splitOnP isBlank).filter (!·.isEmpty)

def commonWords : Array (List Char) := (tableEntries commonWordTable).toArray

def commonWord? : List Char → Option (List Char)
  | [high, low] =>
    if high.isLower && low.isLower then commonWords[26 * (high.toNat - 97) + (low.toNat - 97)]?
    else none
  | _ => none

/-- A word of the name of a code point. Two small letters are the place of a common word, and an
asterisk stands for the code point. -/
def nameWord (code : Nat) (entry : List Char) : List Char :=
  let word := (commonWord? entry).getD entry
  if word.getLast? == some '*' then
    let digits := (Nat.toDigits 16 code).map Char.toUpper
    word.dropLast ++ List.replicate (4 - digits.length) '0' ++ digits
  else word

/-- The words of a name. The first letter of its entry tells how many it shares with the last
one. -/
def nameWords (code : Nat) (last : List (List Char)) : List Char → List (List Char)
  | [] => []
  | shared :: rest =>
    let own := (rest.splitOn '_').filter (!·.isEmpty)
    last.take (shared.toNat - 97) ++ own.map (nameWord code)

def tabledName? (words : List (List Char)) :
    (code : Nat) → (last : List (List Char)) → List (List Char) → Option Nat
  | _, _, [] => none
  | _, last, ('=' :: digits) :: entries => tabledName? words (ofDigits 16 digits) last entries
  | code, last, entry :: entries =>
    let found := nameWords code last entry
    if found == words then some code else tabledName? words (code + 1) found entries

def syllableSounds : List (List String) :=
  [["G", "GG", "N", "D", "DD", "R", "M", "B", "BB", "S", "SS", "", "J", "JJ", "C", "K", "T", "P",
      "H"],
    ["A", "AE", "YA", "YAE", "EO", "E", "YEO", "YE", "O", "WA", "WAE", "OE", "YO", "U", "WEO", "WE",
      "WI", "YU", "EU", "YI", "I"],
    ["", "G", "GG", "GS", "N", "NJ", "NH", "D", "L", "LG", "LM", "LB", "LS", "LT", "LP", "LH", "M",
      "B", "BS", "S", "SS", "NG", "J", "C", "K", "T", "P", "H"]]

def longestSound? (sounds : List String) (name : List Char) : Option (Nat × List Char) :=
  let found := sounds.zipIdx.filter fun (sound, _) => sound.toList.isPrefixOf name
  let longest := found.foldl (fun best hit =>
    match best with
    | none => some hit
    | some (sound, _) => if sound.length < hit.1.length then some hit else best) none
  longest.map fun (sound, i) => (i, name.drop sound.length)

def soundsFrom? : (number : Nat) → List (List String) → List Char → Option Nat
  | number, [], name => if name.isEmpty then some number else none
  | number, sounds :: rest, name => do
    let (i, name) ← longestSound? sounds name
    soundsFrom? (number * sounds.length + i) rest name

def ideographRanges : List (Nat × Nat) :=
  [(0x3400, 0x4DBF), (0x4E00, 0x9FFF), (0x20000, 0x2A6DF), (0x2A700, 0x2B738), (0x2B740, 0x2B81D),
    (0x2B820, 0x2CEA1), (0x2CEB0, 0x2EBE0), (0x30000, 0x3134A)]

def ideograph? (digits : List Char) : Option Nat :=
  let code := ofDigits 16 digits
  if (digits.length == 4 || digits.length == 5) &&
      digits.all (fun c => c.isDigit || ('A' ≤ c && c ≤ 'F')) &&
      ideographRanges.any (fun (first, last) => first ≤ code && code ≤ last) then some code
  else none

def characterNamed? (name : String) : Option Nat :=
  let name := name.toList
  let syllable := "HANGUL SYLLABLE ".toList
  let ideograph := "CJK UNIFIED IDEOGRAPH-".toList
  if syllable.isPrefixOf name then
    (soundsFrom? 0 syllableSounds (name.drop syllable.length)).map (0xAC00 + ·)
  else if ideograph.isPrefixOf name then ideograph? (name.drop ideograph.length)
  else tabledName? ((name.map Char.toUpper).splitOn ' ') 0 [] (tableEntries nameTable)

end CodeAudit.Text
