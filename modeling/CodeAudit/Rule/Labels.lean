/-!
# Severities and categories

The closed vocabularies of rules. Findings and rule definitions carry labels as text, because rule
files may contain any text; `compile` refuses a rule with a label that is not listed here.
-/

namespace CodeAudit.Rule

/-- Severities, the most severe first. -/
def severities : List String := ["critical", "high", "medium", "low", "info"]

/-- Categories, in the order in which they are scanned. -/
def categories : List String := ["security", "deceptive", "placeholder", "error"]

def verificationStatuses : List String := ["confirmed", "needs_verification"]

def commaList (words : List String) : String :=
  String.intercalate ", " words

end CodeAudit.Rule
