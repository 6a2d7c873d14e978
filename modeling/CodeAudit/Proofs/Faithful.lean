import CodeAudit.Report.Document
import CodeAudit.Proofs.Decoding

/-!
# Faithful reports

A JSON report keeps everything that it reports on. Each record comes with a reader that finds the
fields of the record by their names and gives back the record; a report is read by its kind.
-/

namespace CodeAudit.Report

open CodeAudit.Advice CodeAudit.Rule CodeAudit.Scan

-- ---------------------------------------------------------------------------
-- Readers
-- ---------------------------------------------------------------------------

/-- The value of an object under a name that it has exactly once. -/
def member? (name : String) : Json → Option Json
  | .obj entries =>
    match entries.filter (·.1 == name) with
    | [(_, value)] => some value
    | _ => none
  | _ => none

structure Reader (write : α → Json) where
  read : Json → Option α
  read_write : ∀ a, read (write a) = some a

namespace Reader

attribute [simp] read_write

def field {write : α → Json} (reader : Reader write) (name : String) (v : Json) : Option α :=
  (member? name v).bind reader.read

def text : Reader Json.str where
  read
    | .str s => some s
    | _ => none
  read_write _ := rfl

def int : Reader Json.int where
  read
    | .int n => some n
    | _ => none
  read_write _ := rfl

def list {write : α → Json} (reader : Reader write) :
    Reader fun items : List α => .arr (items.map write) where
  read
    | .arr items => items.mapM reader.read
    | _ => none
  read_write items := by
    induction items with
    | nil => rfl
    | cons item rest ih =>
      simp only [List.map_cons, List.mapM_cons, reader.read_write] at ih ⊢
      simp [ih]

/-- Something or null, for a reader that does not take null for something. -/
def nullable {write : α → Json} (reader : Reader write) (hnull : reader.read .null = none) :
    Reader fun a : Option α => (a.map write).getD .null where
  read
    | .null => some none
    | v => (reader.read v).map some
  read_write a := by
    cases a with
    | none => rfl
    | some a =>
      have hread := reader.read_write a
      simp only [Option.map_some, Option.getD_some]
      split
      -- The writer never gives null for something, or the reader would take it for something.
      next h => simp [h, hnull] at hread
      next => rw [hread, Option.map_some]

def texts : Reader Json.texts := list text

def optional : Reader Json.optional := nullable text rfl

-- ---------------------------------------------------------------------------
-- Records of reports
-- ---------------------------------------------------------------------------

def verification : Reader Report.verification where
  read v := do
    return {
      status := ← text.field "status" v, commands := ← texts.field "commands" v,
      assumption := ← optional.field "assumption" v,
      instruction := ← optional.field "instruction" v,
      confirmIf := ← optional.field "confirm_if" v,
      falsePositiveIf := ← optional.field "false_positive_if" v }
  read_write v := by simp [Report.verification, field, member?]

def finding : Reader Report.finding where
  read v := do
    return {
      ruleId := ← text.field "rule_id" v, category := ← text.field "category" v,
      severity := ← text.field "severity" v, title := ← text.field "title" v,
      description := ← text.field "description" v, line := ← int.field "line" v,
      code := ← text.field "code" v, suggestion := ← optional.field "suggestion" v,
      verification := ← (nullable verification rfl).field "verification" v }
  read_write f := by simp [Report.finding, field, member?]

def strength : Reader Report.strength where
  read v := do
    return {
      id := ← text.field "id" v, title := ← text.field "title" v,
      description := ← text.field "description" v, examples := ← texts.field "examples" v }
  read_write s := by simp [Report.strength, field, member?]

def summary : Reader Report.summary where
  read v := do
    return {
      total := ← int.field "total" v, critical := ← int.field "critical" v,
      high := ← int.field "high" v, medium := ← int.field "medium" v, low := ← int.field "low" v,
      info := ← int.field "info" v, strengths := ← int.field "strengths" v,
      score := ← int.field "score" v }
  read_write s := by simp [Report.summary, field, member?]

def location : Reader Report.location where
  read v := do
    return {
      line := ← int.field "line" v, code := ← text.field "code" v }
  read_write l := by simp [Report.location, field, member?]

def detectedIdiom : Reader Report.detectedIdiom where
  read v := do
    return {
      id := ← text.field "idiom_id" v, name := ← text.field "name" v,
      level := ← text.field "level" v, confidence := ← text.field "confidence" v,
      description := ← text.field "description" v,
      locations := ← (list location).field "locations" v }
  read_write d := by simp [Report.detectedIdiom, field, member?]

def variantUsage : Reader Report.variantUsage where
  read v := do
    return {
      name := ← text.field "name" v, locations := ← (list location).field "locations" v,
      count := ← int.field "count" v }
  read_write v := by simp [Report.variantUsage, field, member?]

def inconsistency : Reader Report.inconsistency where
  read v := do
    return {
      id := ← text.field "concern_id" v, title := ← text.field "title" v,
      level := ← text.field "level" v, severity := ← text.field "severity" v,
      description := ← text.field "description" v,
      variants := ← (list variantUsage).field "variants" v,
      recommended := ← text.field "recommended" v,
      recommendation := ← text.field "recommendation" v }
  read_write f := by simp [Report.inconsistency, field, member?]

def currentApproach : Reader Report.currentApproach where
  read v := do
    return {
      name := ← text.field "name" v, description := ← text.field "description" v,
      codeSample := ← text.field "example" v, line := ← (nullable int rfl).field "line" v }
  read_write c := by simp [Report.currentApproach, field, member?]

def approach : Reader Report.approach where
  read v := do
    return {
      name := ← text.field "name" v, description := ← text.field "description" v,
      why := ← text.field "why" v, benefits := ← texts.field "benefits" v,
      tradeoffs := ← texts.field "tradeoffs" v, codeSample := ← text.field "example" v }
  read_write a := by simp [Report.approach, field, member?]

def codeChange : Reader Report.codeChange where
  read v := do
    return {
      before := ← text.field "before" v, after := ← text.field "after" v }
  read_write c := by simp [Report.codeChange, field, member?]

def plan : Reader Report.plan where
  read v := do
    return {
      kind := ← text.field "kind" v, description := ← text.field "description" v,
      steps := ← texts.field "steps" v,
      change := ← (nullable codeChange rfl).field "code_change" v }
  read_write p := by simp [Report.plan, field, member?]

def suggestion : Reader Report.suggestion where
  read v := do
    return {
      id := ← text.field "suggestion_id" v, title := ← text.field "title" v,
      level := ← text.field "level" v, priority := ← text.field "priority" v,
      occurrences := ← int.field "occurrences" v, current := ← currentApproach.field "current" v,
      suggested := ← approach.field "suggested" v, plan := ← plan.field "plan" v }
  read_write s := by simp [Report.suggestion, field, member?]

def codeEdit : Reader Report.codeEdit where
  read v := do
    return {
      action := ← text.field "action" v, target := ← text.field "target" v,
      content := ← text.field "content" v }
  read_write e := by simp [Report.codeEdit, field, member?]

def actionStep : Reader Report.actionStep where
  read v := do
    return {
      order := ← int.field "order" v, instruction := ← text.field "instruction" v,
      edit := ← (nullable codeEdit rfl).field "edit" v }
  read_write s := by simp [Report.actionStep, field, member?]

def actionItem : Reader Report.actionItem where
  read v := do
    return {
      id := ← text.field "item_id" v, priority := ← int.field "priority" v,
      kind := ← text.field "kind" v, title := ← text.field "title" v,
      reason := ← text.field "reason" v, effort := ← text.field "effort" v,
      steps := ← (list actionStep).field "steps" v,
      acceptPrompt := ← text.field "accept_prompt" v }
  read_write a := by simp [Report.actionItem, field, member?]

def designIdiom : Reader fun d : DesignIdiom =>
    .obj [("idiom", Report.detectedIdiom d.idiom), ("related", .texts d.related)] where
  read v := do
    return { idiom := ← detectedIdiom.field "idiom" v, related := ← texts.field "related" v }
  read_write d := by simp [field, member?]

theorem field_kind (kind : String) (h : entries.filter (·.1 == "kind") = []) :
    text.field "kind" (.obj (head kind ++ entries)) = some kind := by
  simp [head, field, member?, h]

def analysis : Reader analysisJson where
  read v := do
    return {
      filename := ← text.field "filename" v, language := ← text.field "language" v,
      timestamp := ← text.field "timestamp" v, summary := ← summary.field "summary" v,
      findings := ← (list finding).field "findings" v,
      strengths := ← (list strength).field "strengths" v }
  read_write a := by simp [analysisJson, head, field, member?]

def idioms : Reader idiomsJson where
  read v := do
    let numbers ← member? "summary" v
    return {
      filename := ← text.field "filename" v, level := ← text.field "level" v,
      summary := {
        idioms := ← int.field "idioms_detected" numbers,
        inconsistencies := ← int.field "inconsistencies" numbers,
        suggestions := ← int.field "suggestions" numbers,
        consistency := ← text.field "overall_consistency" numbers },
      detected := ← (list detectedIdiom).field "detected" v,
      inconsistencies := ← (list inconsistency).field "inconsistencies" v,
      suggestions := ← (list suggestion).field "suggestions" v,
      actions := ← (list actionItem).field "action_items" v }
  read_write a := by simp [idiomsJson, idiomAnalysis, head, field, member?]

def design : Reader designJson where
  read v := do
    return {
      filename := ← text.field "filename" v, idioms := ← (list designIdiom).field "idioms" v,
      suggestions := ← (list suggestion).field "suggestions" v,
      actions := ← (list actionItem).field "action_items" v,
      dominant := ← texts.field "dominant" v, missing := ← texts.field "missing" v }
  read_write r := by simp [designJson, designReport, head, field, member?]

end Reader

-- ---------------------------------------------------------------------------
-- Reports
-- ---------------------------------------------------------------------------

inductive Document where
  | analysis (a : Analysis)
  | idioms (a : IdiomAnalysis)
  | design (r : DesignReport)
  deriving DecidableEq, Repr

namespace Document

def json : Document → Json
  | .analysis a => analysisJson a
  | .idioms a => idiomsJson a
  | .design r => designJson r

def text (d : Document) : String := d.json.render

def ofJson? (v : Json) : Option Document := do
  match ← Reader.text.field "kind" v with
  | "analysis" => return .analysis (← Reader.analysis.read v)
  | "idioms" => return .idioms (← Reader.idioms.read v)
  | "design_idioms" => return .design (← Reader.design.read v)
  | _ => none

theorem ofJson?_json (d : Document) : ofJson? d.json = some d := by
  cases d with
  | analysis a =>
    have hkind : Reader.text.field "kind" (analysisJson a) = some "analysis" :=
      Reader.field_kind "analysis" rfl
    simp [ofJson?, json, hkind]
  | idioms a =>
    have hkind : Reader.text.field "kind" (idiomsJson a) = some "idioms" :=
      Reader.field_kind "idioms" rfl
    simp [ofJson?, json, hkind]
  | design r =>
    have hkind : Reader.text.field "kind" (designJson r) = some "design_idioms" :=
      Reader.field_kind "design_idioms" rfl
    simp [ofJson?, json, hkind]

theorem json_obj (d : Document) : ∃ entries, d.json = .obj entries := by
  cases d with
  | analysis a => exact ⟨_, rfl⟩
  | idioms a => exact ⟨_, rfl⟩
  | design r => exact ⟨_, rfl⟩

theorem ofText?_text (d : Document) : (Json.ofText? d.text).bind ofJson? = some d := by
  rw [text, Json.ofText?_render, Option.bind_some, ofJson?_json]

/-- The text of a report is ASCII and decodes to an object that gives back the whole report, so that
reports with the same text are the same. -/
theorem text_faithful :
    (∀ d : Document,
      (∀ c ∈ d.text.toList, c.toNat < 128) ∧
      ∃ entries, Json.ofText? d.text = some (.obj entries) ∧ ofJson? (.obj entries) = some d) ∧
    Function.Injective text := by
  refine ⟨fun d => ⟨Json.ascii_render d.json, ?_⟩, fun d d' h => ?_⟩
  · obtain ⟨entries, hentries⟩ := json_obj d
    exact ⟨entries, by rw [text, Json.ofText?_render, hentries], hentries ▸ ofJson?_json d⟩
  · have hread := ofText?_text d
    rw [h, ofText?_text d'] at hread
    exact (Option.some.inj hread).symm

end Document

end CodeAudit.Report
