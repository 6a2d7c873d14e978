import CodeAudit.Proofs.Sorting
import CodeAudit.Scan.Score
import Mathlib.Data.Nat.Basic

/-!
# The order of findings and their score

Sorting is stable, so leaving findings out before or after it makes no difference
(`sortFindings_filter`), and equally severe findings keep their order (`sortFindings_severity`). The
score of a report is a sum over its findings (`summarize_score`), so leaving findings out never
lowers it (`score_filter_le`).
-/

namespace CodeAudit.Scan

-- ---------------------------------------------------------------------------
-- The order
-- ---------------------------------------------------------------------------

theorem sortFindings_perm (findings : List Finding) : (sortFindings findings).Perm findings :=
  List.mergeSort_perm findings _

theorem sortFindings_pairwise (findings : List Finding) :
    (sortFindings findings).Pairwise
      fun f g => severityRank f.severity ≤ severityRank g.severity :=
  pairwise_mergeSort (fun f : Finding => severityRank f.severity) findings

theorem sortFindings_filter (keep : Finding → Bool) (findings : List Finding) :
    (sortFindings findings).filter keep = sortFindings (findings.filter keep) :=
  filter_mergeSort (fun f : Finding => severityRank f.severity) keep findings

theorem sortFindings_severity (findings : List Finding) (severity : String) :
    (sortFindings findings).filter (·.severity == severity) =
      findings.filter (·.severity == severity) := by
  refine filter_mergeSort_of_same (fun f : Finding => severityRank f.severity) fun f g hf hg => ?_
  rw [beq_iff_eq.mp hf, beq_iff_eq.mp hg]

-- ---------------------------------------------------------------------------
-- The score
-- ---------------------------------------------------------------------------

theorem summarize_score (findings : List Finding) (strengths : Nat) :
    (summarize findings strengths).score =
      max 0 (min 100 (100 -
        (25 * countSeverity findings "critical" + (15 * countSeverity findings "high" +
          (5 * countSeverity findings "medium" + countSeverity findings "low"))) +
        2 * strengths)) := by
  simp [summarize, score, penalties, strengthBonus, Rule.severities, List.lookup_cons]

theorem countSeverity_filter_le (keep : Finding → Bool) (findings : List Finding)
    (severity : String) :
    countSeverity (findings.filter keep) severity ≤ countSeverity findings severity :=
  Int.ofNat_le.mpr (List.filter_sublist.countP_le)

theorem score_filter_le (keep : Finding → Bool) (findings : List Finding) (strengths : Nat) :
    (summarize findings strengths).score ≤
      (summarize (findings.filter keep) strengths).score := by
  have hcount := countSeverity_filter_le keep findings
  have hcritical := hcount "critical"
  have hhigh := hcount "high"
  have hmedium := hcount "medium"
  have hlow := hcount "low"
  rw [summarize_score, summarize_score]
  omega

end CodeAudit.Scan
