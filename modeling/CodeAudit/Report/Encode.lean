import CodeAudit.Advice.Analysis
import CodeAudit.Json
import CodeAudit.Scan.Score
import CodeAudit.Strength

/-!
# Reports as JSON values

The entries of JSON reports: findings, strengths, summaries and everything in advisory reports.
-/

namespace CodeAudit.Report

open CodeAudit.Advice CodeAudit.Rule CodeAudit.Scan

def verification (v : Verification) : Json :=
  .obj [("status", .str v.status), ("commands", .texts v.commands),
    ("assumption", .optional v.assumption), ("instruction", .optional v.instruction),
    ("confirm_if", .optional v.confirmIf), ("false_positive_if", .optional v.falsePositiveIf)]

def finding (f : Finding) : Json :=
  .obj [("rule_id", .str f.ruleId), ("category", .str f.category), ("severity", .str f.severity),
    ("title", .str f.title), ("description", .str f.description), ("line", .int f.line),
    ("code", .str f.code), ("suggestion", .optional f.suggestion),
    ("verification", (f.verification.map verification).getD .null)]

def strength (s : Strength) : Json :=
  .obj [("id", .str s.id), ("title", .str s.title), ("description", .str s.description),
    ("examples", .texts s.examples)]

def summary (s : Summary) : Json :=
  .obj [("total", .int s.total), ("critical", .int s.critical), ("high", .int s.high),
    ("medium", .int s.medium), ("low", .int s.low), ("info", .int s.info),
    ("strengths", .int s.strengths), ("score", .int s.score)]

def location (l : Location) : Json :=
  .obj [("line", .int l.line), ("code", .str l.code)]

def detectedIdiom (d : DetectedIdiom) : Json :=
  .obj [("idiom_id", .str d.id), ("name", .str d.name), ("level", .str d.level),
    ("confidence", .str d.confidence), ("description", .str d.description),
    ("locations", .arr (d.locations.map location))]

def variantUsage (v : VariantUsage) : Json :=
  .obj [("name", .str v.name), ("locations", .arr (v.locations.map location)),
    ("count", .int v.count)]

def inconsistency (f : Inconsistency) : Json :=
  .obj [("concern_id", .str f.id), ("title", .str f.title), ("level", .str f.level),
    ("severity", .str f.severity), ("description", .str f.description),
    ("variants", .arr (f.variants.map variantUsage)), ("recommended", .str f.recommended),
    ("recommendation", .str f.recommendation)]

def currentApproach (c : CurrentApproach) : Json :=
  .obj [("name", .str c.name), ("description", .str c.description),
    ("example", .str c.codeSample), ("line", (c.line.map Json.int).getD .null)]

def approach (a : Approach) : Json :=
  .obj [("name", .str a.name), ("description", .str a.description), ("why", .str a.why),
    ("benefits", .texts a.benefits), ("tradeoffs", .texts a.tradeoffs),
    ("example", .str a.codeSample)]

def codeChange (c : CodeChange) : Json :=
  .obj [("before", .str c.before), ("after", .str c.after)]

def plan (p : Plan) : Json :=
  .obj [("kind", .str p.kind), ("description", .str p.description), ("steps", .texts p.steps),
    ("code_change", (p.change.map codeChange).getD .null)]

def suggestion (s : Suggestion) : Json :=
  .obj [("suggestion_id", .str s.id), ("title", .str s.title), ("level", .str s.level),
    ("priority", .str s.priority), ("occurrences", .int s.occurrences),
    ("current", currentApproach s.current), ("suggested", approach s.suggested),
    ("plan", plan s.plan)]

def codeEdit (e : CodeEdit) : Json :=
  .obj [("action", .str e.action), ("target", .str e.target), ("content", .str e.content)]

def actionStep (s : ActionStep) : Json :=
  .obj [("order", .int s.order), ("instruction", .str s.instruction),
    ("edit", (s.edit.map codeEdit).getD .null)]

def actionItem (a : ActionItem) : Json :=
  .obj [("item_id", .str a.id), ("priority", .int a.priority), ("kind", .str a.kind),
    ("title", .str a.title), ("reason", .str a.reason), ("effort", .str a.effort),
    ("steps", .arr (a.steps.map actionStep)), ("accept_prompt", .str a.acceptPrompt)]

def idiomAnalysis (a : IdiomAnalysis) : List (String × Json) :=
  [("filename", .str a.filename), ("level", .str a.level),
    ("summary", .obj [("idioms_detected", .int a.summary.idioms),
      ("inconsistencies", .int a.summary.inconsistencies),
      ("suggestions", .int a.summary.suggestions),
      ("overall_consistency", .str a.summary.consistency)]),
    ("detected", .arr (a.detected.map detectedIdiom)),
    ("inconsistencies", .arr (a.inconsistencies.map inconsistency)),
    ("suggestions", .arr (a.suggestions.map suggestion)),
    ("action_items", .arr (a.actions.map actionItem))]

def designReport (r : DesignReport) : List (String × Json) :=
  [("filename", .str r.filename),
    ("idioms", .arr (r.idioms.map fun d =>
      .obj [("idiom", detectedIdiom d.idiom), ("related", .texts d.related)])),
    ("suggestions", .arr (r.suggestions.map suggestion)),
    ("action_items", .arr (r.actions.map actionItem)),
    ("dominant", .texts r.dominant), ("missing", .texts r.missing)]

def counts (entries : List (String × Nat)) : Json :=
  .obj (entries.map fun (name, n) => (name, .int n))

def stats (s : Stats) : Json :=
  .obj [("total", .int s.total), ("by_category", counts s.byCategory),
    ("by_severity", counts s.bySeverity)]

end CodeAudit.Report
