import CodeAudit.Language
import CodeAudit.Scan.Score
import CodeAudit.Settings
import CodeAudit.Strength.Builtin

/-!
# Analyses

The full report on one file: the findings of the categories that are set, with the severities that
are set, the most severe first, then the strengths and the score.
-/

namespace CodeAudit.Scan

open CodeAudit.Rule (Catalog)
open CodeAudit.Source (Buffer)

/-- The result of scanning one file. The time is an ISO 8601 text in UTC. -/
structure Analysis where
  filename : String
  language : String
  timestamp : String
  summary : Summary
  findings : List Finding
  strengths : List Strength := []
  deriving DecidableEq, Repr, Inhabited

def scanCategories (catalog : Catalog) (buffer : Buffer) (filename : String) :
    List String → Except ScanError (List Finding × Catalog)
  | [] => .ok ([], catalog)
  | category :: rest => do
    let (first, catalog) ← scan catalog buffer filename (some category) none
    let (more, catalog) ← scanCategories catalog buffer filename rest
    return (first ++ more, catalog)

/-- Analyzes a buffer. The size is checked before anything else. -/
def analyze (catalog : Catalog) (settings : Settings) (buffer : Buffer)
    (filename timestamp : String) : Except ScanError (Analysis × Catalog) := do
  (buffer.check settings.limit).mapError .tooLarge
  let (found, catalog) ← scanCategories catalog buffer filename settings.categories
  let findings := sortFindings (overrideSeverities settings.rules.severities found)
  let strengths := Strength.findAll Strength.builtin buffer
  return ({
    filename, timestamp, findings, strengths
    language := Language.label filename
    summary := summarize findings strengths.length }, catalog)

end CodeAudit.Scan
