import CodeAudit.Rule.Build
import CodeAudit.Source.Lines

/-!
# Strengths

Good practices that a buffer shows. Each is reported once, with the first few places as examples.
-/

namespace CodeAudit

open CodeAudit.Rule (Matcher)
open CodeAudit.Source (Buffer)

structure StrengthCheck where
  id : String
  matcher : Matcher
  title : String
  description : String
  deriving Repr, Inhabited

structure Strength where
  id : String
  title : String
  description : String
  examples : List String := []
  deriving DecidableEq, Repr, Inhabited

namespace Strength

def maxExamples : Nat := 3

def ofCheck? (buffer : Buffer) (check : StrengthCheck) : Option Strength :=
  match check.matcher.findAll buffer.text with
  | [] => none
  | found =>
    some {
      id := check.id, title := check.title, description := check.description
      examples := (found.take maxExamples).map fun m => Text.strip (m.text buffer.text) }

def findAll (checks : List StrengthCheck) (buffer : Buffer) : List Strength :=
  checks.filterMap (ofCheck? buffer)

end Strength

end CodeAudit
