import CodeAudit.Scan.Finding

/-!
# Order and score

Findings are reported with the most severe first. The score starts at one hundred, loses a fixed
amount for every finding, gains a little for every strength, and stays between zero and one
hundred.
-/

namespace CodeAudit.Scan

/-- Points lost for a finding. Findings that only inform cost nothing. -/
def penalties : List (String × Int) :=
  [("critical", 25), ("high", 15), ("medium", 5), ("low", 1), ("info", 0)]

def strengthBonus : Int := 2

/-- The place of a severity in the order of reports. Unknown ones come last. -/
def severityRank (severity : String) : Nat :=
  Rule.severities.idxOf severity

def sortFindings (findings : List Finding) : List Finding :=
  findings.mergeSort fun a b => decide (severityRank a.severity ≤ severityRank b.severity)

/-- The score for counts of findings by severity and a number of strengths. -/
def score (counts : List (String × Int)) (strengths : Int) : Int :=
  let lost := penalties.foldr
    (fun (severity, points) sum => points * (counts.lookup severity).getD 0 + sum) 0
  max 0 (min 100 (100 - lost + strengthBonus * strengths))

structure Summary where
  total : Int
  critical : Int
  high : Int
  medium : Int
  low : Int
  info : Int
  strengths : Int
  score : Int
  deriving DecidableEq, Repr, Inhabited

def countSeverity (findings : List Finding) (severity : String) : Int :=
  findings.countP (·.severity == severity)

def summarize (findings : List Finding) (strengths : Nat) : Summary :=
  let count := countSeverity findings
  { total := findings.length
    critical := count "critical", high := count "high", medium := count "medium"
    low := count "low", info := count "info", strengths
    score := score (Rule.severities.map fun s => (s, count s)) strengths }

end CodeAudit.Scan
