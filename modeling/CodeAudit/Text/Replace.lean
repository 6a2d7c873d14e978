/-!
# Replacing texts

Every occurrence of a piece of text is replaced, from left to right and without overlap.
-/

namespace CodeAudit.Text

/-- Replaces the occurrences of a piece. `skip` counts the characters of an occurrence that are
still to be dropped. -/
def replaceFrom (piece replacement : List Char) : List Char → (skip : Nat) → List Char
  | [], _ => []
  | _ :: rest, skip + 1 => replaceFrom piece replacement rest skip
  | c :: rest, 0 =>
    if piece.isPrefixOf (c :: rest) then
      replacement ++ replaceFrom piece replacement rest (piece.length - 1)
    else c :: replaceFrom piece replacement rest 0

def replaceAll (piece replacement s : String) : String :=
  String.ofList (replaceFrom piece.toList replacement.toList s.toList 0)

end CodeAudit.Text
