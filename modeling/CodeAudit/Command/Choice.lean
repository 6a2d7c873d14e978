import CodeAudit.Advice.Level
import CodeAudit.Command.Usage
import CodeAudit.Text.Case

/-!
# Values of options

The options whose values come from a closed list, in any letter case and with blanks around them.
-/

namespace CodeAudit.Command

open CodeAudit.Text (lower strip)

inductive Format where
  | terminal
  | json
  deriving DecidableEq, Repr, Inhabited

def Format.ofText (text : String) : Except UsageError Format :=
  match lower (strip text) with
  | "terminal" => .ok .terminal
  | "json" => .ok .json
  | _ => .error .unknownFormat

def categoryOfText (text : String) : Except UsageError String :=
  let name := lower (strip text)
  if Rule.categories.contains name then .ok name else .error (.unknownCategory text)

/-- Reads the names of categories, which are put in scanning order. No names select nothing in
particular. -/
def chooseCategories (texts : List String) : Except UsageError (Option (List String)) :=
  if texts.isEmpty then .ok none
  else do
    let named ← texts.mapM categoryOfText
    return some (Rule.categories.filter (named.contains ·))

def levelOfText (text : String) : Except UsageError String :=
  let name := lower (strip text)
  if Advice.levelFilters.contains name then .ok name else .error (.unknownLevel text)

def nonEmpty? (value : Option String) : Option String :=
  value.filter (!·.isEmpty)

end CodeAudit.Command
