import CodeAudit.Report.Encode
import CodeAudit.Scan.Analysis

/-!
# JSON reports

A report is an object with a common head that names the tool, the format and the kind of report.
-/

namespace CodeAudit.Report

open CodeAudit.Advice CodeAudit.Rule CodeAudit.Scan

def toolName : String := "CodeSentinel"

def toolVersion : String := "0.4.0"

def formatVersion : Int := 1

def schemaAddress : String := "schemas/codesentinel-report.schema.json"

def head (kind : String) : List (String × Json) :=
  [("$schema", .str schemaAddress), ("schema_version", .int formatVersion),
    ("tool", .obj [("name", .str toolName), ("version", .str toolVersion)]),
    ("kind", .str kind)]

def analysisJson (a : Analysis) : Json :=
  .obj (head "analysis" ++
    [("filename", .str a.filename), ("language", .str a.language),
      ("timestamp", .str a.timestamp), ("summary", summary a.summary),
      ("findings", .arr (a.findings.map finding)),
      ("strengths", .arr (a.strengths.map strength))])

def idiomsJson (a : IdiomAnalysis) : Json :=
  .obj (head "idioms" ++ idiomAnalysis a)

def designJson (r : DesignReport) : Json :=
  .obj (head "design_idioms" ++ designReport r)

def ruleEntry (d : Definition) : Json :=
  .obj [("id", .str d.id), ("category", .str d.category), ("severity", .str d.severity),
    ("title", .str d.title), ("description", .str d.description),
    ("match_type", .str d.spec.tag), ("suggestion", .optional d.suggestion)]

def rulesJson (definitions : List Definition) (s : Stats) : Json :=
  .obj (head "rules" ++ [("stats", stats s), ("rules", .arr (definitions.map ruleEntry))])

end CodeAudit.Report
