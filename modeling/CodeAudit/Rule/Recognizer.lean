import CodeAudit.Rule.Build

/-!
# Patterns in tables

The built-in tables hold finished matchers. A source that could not be read would give a matcher
that never matches.
-/

namespace CodeAudit.Rule

def Matcher.never : Matcher :=
  { pattern := { source := "", flags := {}, root := .char { items := [] }, groups := 0 } }

/-- The repeating matcher of a source text under given switches. -/
def patternWith (flags : Regex.Flags) (source : String) : Matcher :=
  match Regex.compile source flags with
  | .ok pattern => { pattern }
  | .error _ => Matcher.never

def pattern (source : String) : Matcher :=
  patternWith {} source

end CodeAudit.Rule
