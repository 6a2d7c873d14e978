import CodeAudit.Regex.Literal
import CodeAudit.Rule.Matcher
import CodeAudit.Rule.Problem
import CodeAudit.Rule.Spec

/-!
# From descriptions to matchers

Each kind of description stands for a few patterns, put together from fixed pieces and the texts of
the description. A rule fires once for every match of each of them. A list that is empty, or a
selector that is unknown, contributes no pattern.
-/

namespace CodeAudit.Rule

open CodeAudit.Regex (Flags escape)

/-- A pattern that has not been read yet. -/
structure Recipe where
  source : String
  flags : Flags := {}
  repeats : Bool := true
  deriving DecidableEq, Repr, Inhabited

def ignoringCase : Flags := { ignoreCase := true }

def caseFlags (ignoreCase : Bool) : Flags := { ignoreCase }

/-- Texts with a pattern of their own, which tolerates blanks inside brackets and quotes and treats
both kinds of quote alike. -/
def shorthandPatterns : List (String × String) :=
  [("[]", "\\[\\s*\\]"), ("\x7b\x7d", "\\\x7b\\s*\\\x7d"), ("null", "null"),
    ("undefined", "undefined"), ("true", "true"), ("false", "false"),
    ("\"\"", "[\\\"']\\s*[\\\"']"), ("''", "[\\\"']\\s*[\\\"']"), ("0", "0"), ("-1", "-1")]

def literalFragment (value : String) : String :=
  (shorthandPatterns.lookup value).getD (escape value)

def alternation (items : List String) : String :=
  String.intercalate "|" (items.map escape)

def literalAlternation (items : List String) : String :=
  String.intercalate "|" (items.map literalFragment)

def catchHead : String := "catch\\s*\\([^)]*\\)\\s*"

def quoteClass : String := "['\"`]"

def notQuoteClass : String := "[^'\"`]"

def emptyBraces : String := "\\\x7b\\s*\\\x7d"

def emptyArrowCall (method : String) : String :=
  "\\." ++ method ++ "\\s*\\(\\s*\\(\\s*\\)\\s*=>\\s*" ++ emptyBraces ++ "\\s*\\)"

def emptyParamCall (method : String) : String :=
  "\\." ++ method ++ "\\s*\\(\\s*\\w+\\s*=>\\s*" ++ emptyBraces ++ "\\s*\\)"

def emptyBlockRecipes (allowComments : Bool) : String → List Recipe
  | "catch" =>
    { source := catchHead ++ emptyBraces } ::
      (if allowComments then
        [{ source := catchHead ++ "\\\x7b\\s*//[^\\n]*\\s*\\\x7d" },
          { source := catchHead ++ "\\\x7b\\s*/\\*[\\s\\S]*?\\*/\\s*\\\x7d" }]
      else [])
  | "finally" => [{ source := "finally\\s*" ++ emptyBraces }]
  | ".catch" =>
    [{ source := emptyArrowCall "catch" }, { source := emptyParamCall "catch" },
      { source :=
          "\\.catch\\s*\\(\\s*function\\s*\\([^)]*\\)\\s*" ++ emptyBraces ++ "\\s*\\)" }]
  | ".then" => [{ source := emptyArrowCall "then" }, { source := emptyParamCall "then" }]
  | ".finally" => [{ source := emptyArrowCall "finally" }]
  | _ => []

def functionCallRecipes (names : List String) (methodForm constructorForm ignoreCase : Bool) :
    List Recipe :=
  if names.isEmpty then []
  else
    let call := "(?:" ++ alternation names ++ ")\\s*\\("
    let flags := caseFlags ignoreCase
    { source := "\\b" ++ call, flags } ::
      (if methodForm then [{ source := "\\." ++ call, flags }] else []) ++
      (if constructorForm then [{ source := "new\\s+" ++ call, flags }] else [])

def returnsOnlyRecipes (values commentWords : List String) : List Recipe :=
  if values.isEmpty then []
  else
    let head := "return\\s+(?:" ++ literalAlternation values ++ ")\\s*;?"
    if commentWords.isEmpty then [{ source := head, flags := ignoringCase }]
    else
      [{ source := head ++ "\\s*//\\s*.*?(?:" ++ alternation commentWords ++ ")"
         flags := ignoringCase }]

def blockComment (alternatives : String) : String :=
  "/\\*[\\s\\S]*?(?:" ++ alternatives ++ ")[\\s\\S]*?\\*/"

def containsTextRecipes (terms : List String) (context : String) (ignoreCase : Bool) :
    List Recipe :=
  if terms.isEmpty then []
  else
    let anyTerm := alternation terms
    let flags := caseFlags ignoreCase
    (if ["single_line_comment", "comment", "any"].contains context then
      [{ source := "//.*?(?:" ++ anyTerm ++ ")", flags }] else []) ++
    (if ["block_comment", "comment", "any"].contains context then
      [{ source := blockComment anyTerm, flags }] else []) ++
    (if ["string", "any"].contains context then
      [{ source :=
          "(" ++ quoteClass ++ ")" ++ notQuoteClass ++ "*(?:" ++ anyTerm ++ ")" ++
            notQuoteClass ++ "*\\1"
         flags }] else [])

def fallbackRecipes (operators fallbacks : List String) : List Recipe :=
  if fallbacks.isEmpty then []
  else operators.map fun op =>
    { source := escape op ++ "\\s*(?:" ++ literalAlternation fallbacks ++ ")" }

def assignmentRecipes (keys values operators : List String) : List Recipe :=
  if keys.isEmpty then []
  else operators.map fun op =>
    let head := "(?:" ++ alternation keys ++ ")\\s*" ++ escape op ++ "\\s*" ++ quoteClass
    let body :=
      if values.isEmpty then notQuoteClass ++ "\x7b8,\x7d"
      else "(" ++ notQuoteClass ++ "*(?:" ++ alternation values ++ ")" ++ notQuoteClass ++ "*)"
    { source := head ++ body ++ quoteClass, flags := ignoringCase }

def chainedAccessRecipes (minDepth : Int) (operator : String) : List Recipe :=
  let op := if operator == "?." then "\\?\\." else "\\."
  [{ source := "(?:" ++ op ++ "\\w+)\x7b" ++ toString (max minDepth 1) ++ ",\x7d" }]

def catchHandlerRecipes : String → List Recipe
  | "empty" => [{ source := catchHead ++ emptyBraces }]
  | "comment_only" =>
    [{ source := catchHead ++ "\\\x7b\\s*//.*?\\s*\\\x7d", flags := { dotAll := true } },
      { source := catchHead ++ "\\\x7b\\s*/\\*[\\s\\S]*?\\*/\\s*\\\x7d" }]
  | "log_only" =>
    [{ source :=
        catchHead ++ "\\\x7b\\s*(?:console\\.log|print)\\s*\\([^)]*\\)\\s*;?\\s*\\\x7d" }]
  | "returns_value" =>
    [{ source :=
        catchHead ++ "\\\x7b[^\x7d]*return\\s+(?:null|undefined|false|true|''|\\\"\\\"|" ++
          "\\[\\s*\\]|\\\x7b\\s*\\\x7d)\\s*;?\\s*\\\x7d" }]
  | "ignores_param" => [{ source := "catch\\s*\\(\\s*_\\s*\\)" }]
  | _ => []

def promiseCatchRecipes (behavior : String) (silentValues : List String) : List Recipe :=
  match behavior with
  | "empty" => [{ source := emptyArrowCall "catch" }, { source := emptyParamCall "catch" }]
  | "returns_silent" =>
    if silentValues.isEmpty then []
    else
      [{ source :=
          "\\.catch\\s*\\(\\s*\\(\\s*\\)\\s*=>\\s*(?:" ++ literalAlternation silentValues ++
            ")\\s*\\)" }]
  | "ignores_param" =>
    [{ source := "\\.catch\\s*\\(\\s*_\\s*=>\\s*\\\x7b?\\s*\\\x7d?\\s*\\)" }]
  | _ => []

def commentMarkerRecipes (markers : List String) (style : String) : List Recipe :=
  if markers.isEmpty then []
  else
    let anyMarker := alternation markers
    (if ["single", "any"].contains style then
      [{ source := "//\\s*(?:" ++ anyMarker ++ ")(?::|\\.|\\s).*$"
         flags := { ignoreCase := true, multiLine := true } }] else []) ++
    (if ["block", "any"].contains style then
      [{ source := blockComment anyMarker, flags := ignoringCase }] else [])

def stringLiteralRecipes (literals : List String) (ignoreCase : Bool) : List Recipe :=
  if literals.isEmpty then []
  else
    [{ source :=
        quoteClass ++ notQuoteClass ++ "*(?:" ++ alternation literals ++ ")" ++ notQuoteClass ++
          "*" ++ quoteClass
       flags := caseFlags ignoreCase }]

def secretRecipes : String → List Recipe
  | "generic" =>
    [{ source :=
        "(?:api[_-]?key|apikey|secret|password|passwd|pwd|token|auth[_-]?token|" ++
          "access[_-]?token|private[_-]?key)\\s*[:=]\\s*['\\\"`][^'\\\"`]\x7b8,\x7d['\\\"`]"
       flags := ignoringCase }]
  | "github" => [{ source := "(?:ghp|gho|ghu|ghs|ghr)_[A-Za-z0-9_]\x7b36,\x7d" }]
  | "openai" => [{ source := "sk-[A-Za-z0-9]\x7b48,\x7d" }]
  | "aws" => [{ source := "AKIA[0-9A-Z]\x7b16\x7d" }]
  | "stripe" =>
    [{ source := "sk_(?:live|test)_[A-Za-z0-9]\x7b24,\x7d" },
      { source := "pk_(?:live|test)_[A-Za-z0-9]\x7b24,\x7d" }]
  | _ => []

def urlRecipes (protocol : String) (excludeLocalhost : Bool) : List Recipe :=
  (if ["http", "any"].contains protocol then
    [{ source :=
        if excludeLocalhost then "http://(?!localhost|127\\.0\\.0\\.1)[^\\s'\\\"`)]+"
        else "http://[^\\s'\\\"`)]+" }] else []) ++
  (if ["https", "any"].contains protocol then
    [{ source := "https://[^\\s'\\\"`)]+" }] else [])

def comparisonRecipe? : String → Option Recipe
  | "==" => some { source := "[^!=]==[^=]" }
  | "!=" => some { source := "!=[^=]" }
  | "===" => some { source := "===" }
  | "!==" => some { source := "!==" }
  | _ => none

def whileTrue : Recipe := { source := "while\\s*\\(\\s*true\\s*\\)" }

def loopRecipes : String → List Recipe
  | "for_in" => [{ source := "for\\s*\\(\\s*(?:var|let|const)\\s+\\w+\\s+in\\s+" }]
  | "while_true" => [whileTrue]
  | "infinite" => [whileTrue, { source := "for\\s*\\(\\s*;\\s*;\\s*\\)" }]
  | _ => []

/-- The patterns of a description, before they are read. -/
def Spec.recipes : Spec → Except BuildError (List Recipe)
  | .emptyBlock constructs allowComments =>
    .ok (constructs.flatMap (emptyBlockRecipes allowComments))
  | .functionCall names methodForm constructorForm ignoreCase =>
    .ok (functionCallRecipes names methodForm constructorForm ignoreCase)
  | .returnsOnly values commentWords => .ok (returnsOnlyRecipes values commentWords)
  | .containsText terms context ignoreCase => .ok (containsTextRecipes terms context ignoreCase)
  | .fallbackValue operators fallbacks => .ok (fallbackRecipes operators fallbacks)
  | .assignment keys values operators => .ok (assignmentRecipes keys values operators)
  | .chainedAccess minDepth operator =>
    if isLongInteger (max minDepth 1) then .error .longDepth
    else .ok (chainedAccessRecipes minDepth operator)
  | .catchHandler behavior => .ok (catchHandlerRecipes behavior)
  | .promiseCatch behavior silentValues => .ok (promiseCatchRecipes behavior silentValues)
  | .commentMarker markers style => .ok (commentMarkerRecipes markers style)
  | .stringLiteral literals ignoreCase => .ok (stringLiteralRecipes literals ignoreCase)
  | .secret "custom" custom =>
    .ok ((custom.toList.filter (· != "")).map fun source => { source })
  | .secret kind _ => .ok (secretRecipes kind)
  | .url protocol excludeLocalhost => .ok (urlRecipes protocol excludeLocalhost)
  | .suppression tools =>
    .ok (if tools.isEmpty then []
      else [{ source := "(?://|#)\\s*@?(?:" ++ alternation tools ++ ")" }])
  | .typeCast types =>
    .ok (if types.isEmpty then []
      else [{ source := "\\bas\\s+(?:" ++ alternation types ++ ")(?!\\w)" }])
  | .comparison operators => .ok (operators.filterMap comparisonRecipe?)
  | .loop kind => .ok (loopRecipes kind)
  | .raw source letters =>
    match parseFlags letters with
    | .error letter => .error (.badFlag letter)
    | .ok (flags, repeats) => .ok [{ source, flags, repeats }]
  | .unspecified => .error .unspecified

def Recipe.matcher (r : Recipe) : Except BuildError Matcher :=
  match Regex.compile r.source r.flags with
  | .ok pattern => .ok { pattern, repeats := r.repeats }
  | .error e => .error (.badPattern e)

def Spec.matchers (spec : Spec) : Except BuildError (List Matcher) := do
  (← spec.recipes).mapM Recipe.matcher

end CodeAudit.Rule
