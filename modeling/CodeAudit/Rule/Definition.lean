import CodeAudit.Rule.Spec

/-!
# Rule definitions

A rule as its author wrote it: what it looks for, how it is reported, and how a reader can check a
finding. Labels are texts here; they are checked when a rule is read or compiled.
-/

namespace CodeAudit.Rule

/-- How to confirm or dismiss a finding. In a rule, commands are templates with placeholders for
the matched text and the file name; in a finding these have been filled in. -/
structure Verification where
  status : String := "needs_verification"
  commands : List String := []
  assumption : Option String := none
  instruction : Option String := none
  confirmIf : Option String := none
  falsePositiveIf : Option String := none
  deriving DecidableEq, Repr, Inhabited

structure Definition where
  id : String
  title : String
  description : String
  severity : String
  category : String
  spec : Spec
  suggestion : Option String := none
  verification : Option Verification := none
  deriving DecidableEq, Repr, Inhabited

end CodeAudit.Rule
