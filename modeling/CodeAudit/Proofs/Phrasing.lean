import CodeAudit.Proofs.Compiling
import CodeAudit.Proofs.Lookup
import CodeAudit.Rule.Build

/-!
# The patterns of descriptions as phrases

A description stands for patterns that are put together from texts. Each of them is the text of a
phrase that is read as it is meant (`Phrasing.Written`), whatever the texts of the description are.
-/

namespace CodeAudit.Rule

open CodeAudit.Regex (Phrase Flags escape escapeChar specialChars extend_closed)
open CodeAudit.Regex.Phrase (literal oneOf)

-- ---------------------------------------------------------------------------
-- The pieces of patterns as phrases
-- ---------------------------------------------------------------------------

namespace Phrasing

def blanks : Phrase := .repeated ⟨.any, false⟩ (.shorthand .blank false)

def space : Phrase := .repeated ⟨.some, false⟩ (.shorthand .blank false)

def anything : Phrase := .repeated ⟨.any, true⟩ .any

def anyLines : Phrase :=
  .repeated ⟨.any, true⟩ (.set false [.slashed 's', .slashed 'S'] false)

def quote : Phrase := .set false [.one '\'', .one '"', .one '`'] false

def notQuote : Phrase := .set true [.one '\'', .one '"', .one '`'] false

def unquoted : Phrase := .repeated ⟨.any, false⟩ notQuote

def anyText (items : List String) : Phrase := .group .plain (oneOf (items.map literal))

/-- Brackets or quotes with only blanks between them, in the forms that shorthands have. -/
def shorthands : List (String × Phrase) :=
  let quotes : Phrase := .set false [.slashed '"', .one '\''] false
  [("[]", literal "[" ++ blanks ++ literal "]"),
    ("\x7b\x7d", literal "\x7b" ++ blanks ++ literal "\x7d"), ("null", literal "null"),
    ("undefined", literal "undefined"), ("true", literal "true"), ("false", literal "false"),
    ("\"\"", quotes ++ blanks ++ quotes), ("''", quotes ++ blanks ++ quotes), ("0", literal "0"),
    ("-1", .plain '-' ++ literal "1")]

def fragment (value : String) : Phrase := (shorthands.lookup value).getD (literal value)

def anyLiteral (items : List String) : Phrase := .group .plain (oneOf (items.map fragment))

def call (names : List String) : Phrase := anyText names ++ blanks ++ literal "("

def semicolon : Phrase := .repeated ⟨.optional, false⟩ (.plain ';')

def returned (values : List String) : Phrase :=
  literal "return" ++ space ++ anyLiteral values ++ blanks ++ semicolon

def blockComment (items : List String) : Phrase :=
  literal "/*" ++ anyLines ++ anyText items ++ anyLines ++ literal "*/"

def markerEnd : Phrase :=
  .group .plain (oneOf [.plain ':', literal ".", .shorthand .blank false]) ++
    .repeated ⟨.any, false⟩ .any ++ .lineEnd

def longText : Phrase := .repeated ⟨.atLeast 8, false⟩ notQuote

def toolComment : Phrase :=
  .group .plain (oneOf [literal "//", .plain '#']) ++ blanks ++
    .repeated ⟨.optional, false⟩ (.plain '@')

def castHead : Phrase := .wordEdge ++ literal "as" ++ space

def noWord : Phrase := .group .notAhead (.shorthand .word false)

def around (items : List String) : Phrase := unquoted ++ anyText items ++ unquoted

-- The patterns themselves, by what they find.

def bareCall (names : List String) : Phrase := .wordEdge ++ call names

def methodCall (names : List String) : Phrase := literal "." ++ call names

def newCall (names : List String) : Phrase := literal "new" ++ space ++ call names

def commentedReturn (values words : List String) : Phrase :=
  returned values ++ blanks ++ literal "//" ++ blanks ++ anything ++ anyText words

def lineComment (terms : List String) : Phrase := literal "//" ++ anything ++ anyText terms

/-- A text up to its closing quotation mark, which is the one it began with. -/
def openText (terms : List String) : Phrase := .group .capture quote ++ around terms

def fallback (operator : String) (values : List String) : Phrase :=
  literal operator ++ blanks ++ anyLiteral values

def assigned (keys : List String) (operator : String) : Phrase :=
  anyText keys ++ blanks ++ literal operator ++ blanks ++ quote

def longAssignment (keys : List String) (operator : String) : Phrase :=
  assigned keys operator ++ longText ++ quote

def valueAssignment (keys : List String) (operator : String) (values : List String) : Phrase :=
  assigned keys operator ++ .group .capture (around values) ++ quote

def silentCatch (values : List String) : Phrase :=
  literal ".catch" ++ blanks ++ literal "(" ++ blanks ++ literal "(" ++ blanks ++ literal ")" ++
    blanks ++ literal "=>" ++ blanks ++ anyLiteral values ++ blanks ++ literal ")"

def markedLine (markers : List String) : Phrase :=
  literal "//" ++ blanks ++ anyText markers ++ markerEnd

def quotedText (literals : List String) : Phrase := quote ++ around literals ++ quote

def suppression (tools : List String) : Phrase := toolComment ++ anyText tools

def cast (types : List String) : Phrase := castHead ++ anyText types ++ noWord

end Phrasing

theorem shorthandPatterns_eq :
    shorthandPatterns = Phrasing.shorthands.map fun (value, e) => (value, e.source) :=
  rfl

namespace Phrasing

@[simp]
theorem source_fragment (value : String) : (fragment value).source = literalFragment value := by
  rw [literalFragment, shorthandPatterns_eq, lookup_map_snd, fragment]
  cases shorthands.lookup value with
  | none => simp
  | some e => rfl

theorem fine_fragment (value : String) : (fragment value).fine = true := by
  have hall : ∀ entry ∈ shorthands, entry.2.fine = true := by decide
  rw [fragment]
  cases h : shorthands.lookup value with
  | none => exact Phrase.fine_literal value
  | some e =>
    obtain ⟨before, after, hsplit, -⟩ := List.lookup_eq_some_iff.mp h
    exact hall (value, e) (by simp [hsplit])

@[simp]
theorem source_anyText (items : List String) :
    (anyText items).source = "(?:" ++ alternation items ++ ")" := by
  simp [anyText, alternation, Function.comp_def]

@[simp]
theorem source_anyLiteral (items : List String) :
    (anyLiteral items).source = "(?:" ++ literalAlternation items ++ ")" := by
  simp [anyLiteral, literalAlternation, Function.comp_def]

@[simp]
theorem fine_anyText (items : List String) : (anyText items).fine = true :=
  Phrase.fine_oneOf fun e he => by
    obtain ⟨item, -, rfl⟩ := List.mem_map.mp he
    exact Phrase.fine_literal item

@[simp]
theorem fine_anyLiteral (items : List String) : (anyLiteral items).fine = true :=
  Phrase.fine_oneOf fun e he => by
    obtain ⟨item, -, rfl⟩ := List.mem_map.mp he
    exact fine_fragment item

@[simp] theorem source_blanks : blanks.source = "\\s*" := rfl
@[simp] theorem source_space : space.source = "\\s+" := rfl
@[simp] theorem source_anything : anything.source = ".*?" := rfl
@[simp] theorem source_anyLines : anyLines.source = "[\\s\\S]*?" := rfl
@[simp] theorem source_quote : quote.source = quoteClass := rfl
@[simp] theorem source_unquoted : unquoted.source = notQuoteClass ++ "*" := rfl
@[simp] theorem source_semicolon : semicolon.source = ";?" := rfl
@[simp] theorem source_markerEnd : markerEnd.source = "(?::|\\.|\\s).*$" := rfl
@[simp] theorem source_toolComment : toolComment.source = "(?://|#)\\s*@?" := rfl
@[simp] theorem source_castHead : castHead.source = "\\bas\\s+" := rfl
@[simp] theorem source_noWord : noWord.source = "(?!\\w)" := rfl
@[simp] theorem source_longText : longText.source = notQuoteClass ++ "\x7b8,\x7d" := rfl

theorem source_call (names : List String) :
    (call names).source = "(?:" ++ alternation names ++ ")\\s*\\(" := by
  rw [← String.toList_inj]
  simp [call, escape, escapeChar, specialChars]

theorem source_returned (values : List String) :
    (returned values).source = "return\\s+(?:" ++ literalAlternation values ++ ")\\s*;?" := by
  rw [← String.toList_inj]
  simp [returned, escape, escapeChar, specialChars]

theorem source_blockComment (items : List String) :
    (blockComment items).source = Rule.blockComment (alternation items) := by
  rw [← String.toList_inj]
  simp [blockComment, Rule.blockComment, escape, escapeChar, specialChars]

@[simp] theorem fine_blanks : blanks.fine = true := rfl
@[simp] theorem fine_space : space.fine = true := rfl
@[simp] theorem fine_anything : anything.fine = true := rfl
@[simp] theorem fine_anyLines : anyLines.fine = true := rfl
@[simp] theorem fine_quote : quote.fine = true := rfl
@[simp] theorem fine_unquoted : unquoted.fine = true := rfl
@[simp] theorem fine_semicolon : semicolon.fine = true := rfl
@[simp] theorem fine_markerEnd : markerEnd.fine = true := rfl
@[simp] theorem fine_toolComment : toolComment.fine = true := rfl
@[simp] theorem fine_castHead : castHead.fine = true := rfl
@[simp] theorem fine_noWord : noWord.fine = true := rfl
@[simp] theorem fine_longText : longText.fine = true := rfl

theorem openText_closed (terms : List String) (ignoreCase : Bool) :
    (((openText terms).extend (.start (caseFlags ignoreCase))).widths[1]?).join = some ⟨1, 1⟩ :=
  extend_closed (around terms) (by cases ignoreCase <;> rfl)

-- ---------------------------------------------------------------------------
-- The patterns as phrases
-- ---------------------------------------------------------------------------

structure Written (e : Phrase) (source : String) : Prop where
  fine : e.fine = true
  source : e.source = source

theorem written_of_toList (hfine : e.fine = true) (hsource : e.source.toList = source.toList) :
    Written e source :=
  ⟨hfine, String.toList_inj.mp hsource⟩

variable (names values words terms keys markers literals tools types : List String)
  (operator : String)

theorem written_bareCall :
    Written (bareCall names) ("\\b" ++ ("(?:" ++ alternation names ++ ")\\s*\\(")) := by
  have hedge : Phrase.wordEdge.source = "\\b" := rfl
  refine written_of_toList (by simp [bareCall, call, Phrase.fine]) ?_
  simp [bareCall, hedge, source_call]

theorem written_methodCall :
    Written (methodCall names) ("\\." ++ ("(?:" ++ alternation names ++ ")\\s*\\(")) := by
  refine written_of_toList (by simp [methodCall, call]) ?_
  simp [methodCall, source_call, escape, escapeChar, specialChars]

theorem written_newCall :
    Written (newCall names) ("new\\s+" ++ ("(?:" ++ alternation names ++ ")\\s*\\(")) := by
  refine written_of_toList (by simp [newCall, call]) ?_
  simp [newCall, source_call, escape, escapeChar, specialChars]

theorem written_returned :
    Written (returned values) ("return\\s+(?:" ++ literalAlternation values ++ ")\\s*;?") :=
  ⟨by simp [returned], source_returned values⟩

theorem written_commentedReturn : Written (commentedReturn values words)
    ("return\\s+(?:" ++ literalAlternation values ++ ")\\s*;?" ++ "\\s*//\\s*.*?(?:" ++
      alternation words ++ ")") := by
  refine written_of_toList (by simp [commentedReturn, returned]) ?_
  simp [commentedReturn, source_returned, escape, escapeChar, specialChars]

theorem written_lineComment :
    Written (lineComment terms) ("//.*?(?:" ++ alternation terms ++ ")") := by
  refine written_of_toList (by simp [lineComment]) ?_
  simp [lineComment, escape, escapeChar, specialChars]

theorem written_blockComment :
    Written (blockComment terms) (Rule.blockComment (alternation terms)) :=
  ⟨by simp [blockComment], source_blockComment terms⟩

theorem fine_openText : (openText terms).fine = true := by
  simp [openText, around, Phrase.fine]

theorem source_openText : (openText terms).source ++ "\\1" =
    "(" ++ quoteClass ++ ")" ++ notQuoteClass ++ "*(?:" ++ alternation terms ++ ")" ++
      notQuoteClass ++ "*\\1" := by
  rw [← String.toList_inj]
  simp [openText, around]

theorem written_fallback : Written (fallback operator values)
    (escape operator ++ "\\s*(?:" ++ literalAlternation values ++ ")") := by
  refine written_of_toList (by simp [fallback]) ?_
  simp [fallback]

theorem written_longAssignment : Written (longAssignment keys operator)
    ("(?:" ++ alternation keys ++ ")\\s*" ++ escape operator ++ "\\s*" ++ quoteClass ++
      (notQuoteClass ++ "\x7b8,\x7d") ++ quoteClass) := by
  refine written_of_toList (by simp [longAssignment, assigned]) ?_
  simp [longAssignment, assigned]

theorem written_valueAssignment : Written (valueAssignment keys operator values)
    ("(?:" ++ alternation keys ++ ")\\s*" ++ escape operator ++ "\\s*" ++ quoteClass ++
      ("(" ++ notQuoteClass ++ "*(?:" ++ alternation values ++ ")" ++ notQuoteClass ++ "*)") ++
      quoteClass) := by
  refine written_of_toList (by simp [valueAssignment, assigned, around, Phrase.fine]) ?_
  simp [valueAssignment, assigned, around]

theorem written_silentCatch : Written (silentCatch values)
    ("\\.catch\\s*\\(\\s*\\(\\s*\\)\\s*=>\\s*(?:" ++ literalAlternation values ++
      ")\\s*\\)") := by
  refine written_of_toList (by simp [silentCatch]) ?_
  simp [silentCatch, escape, escapeChar, specialChars]

theorem written_markedLine : Written (markedLine markers)
    ("//\\s*(?:" ++ alternation markers ++ ")(?::|\\.|\\s).*$") := by
  refine written_of_toList (by simp [markedLine]) ?_
  simp [markedLine, escape, escapeChar, specialChars]

theorem written_quotedText : Written (quotedText literals)
    (quoteClass ++ notQuoteClass ++ "*(?:" ++ alternation literals ++ ")" ++ notQuoteClass ++
      "*" ++ quoteClass) := by
  refine written_of_toList (by simp [quotedText, around]) ?_
  simp [quotedText, around]

theorem written_suppression :
    Written (suppression tools) ("(?://|#)\\s*@?(?:" ++ alternation tools ++ ")") := by
  refine written_of_toList (by simp [suppression]) ?_
  simp [suppression]

theorem written_cast :
    Written (cast types) ("\\bas\\s+(?:" ++ alternation types ++ ")(?!\\w)") := by
  refine written_of_toList (by simp [cast]) ?_
  simp [cast]

end Phrasing

end CodeAudit.Rule
