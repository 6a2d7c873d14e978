import CodeAudit.Value

/-!
# Match descriptions

What a rule looks for, described in terms of code instead of as a pattern. Selectors such as
constructs, operators or styles are texts: a description with an unknown selector is a value of
this type, and simply contributes no pattern.
-/

namespace CodeAudit.Rule

/-- A description of what a rule looks for. -/
inductive Spec where
  | emptyBlock (constructs : List String) (allowComments : Bool)
  | functionCall (names : List String) (methodForm constructorForm ignoreCase : Bool)
  | returnsOnly (values commentWords : List String)
  | containsText (terms : List String) (context : String) (ignoreCase : Bool)
  | fallbackValue (operators fallbacks : List String)
  | assignment (keys values operators : List String)
  | chainedAccess (minDepth : Int) (operator : String)
  | catchHandler (behavior : String)
  | promiseCatch (behavior : String) (silentValues : List String)
  | commentMarker (markers : List String) (style : String)
  | stringLiteral (literals : List String) (ignoreCase : Bool)
  | secret (kind : String) (custom : Option String)
  | url (protocol : String) (excludeLocalhost : Bool)
  | suppression (tools : List String)
  | typeCast (types : List String)
  | comparison (operators : List String)
  | loop (kind : String)
  | raw (source flags : String)
  | unspecified
  deriving DecidableEq, Repr, Inhabited

namespace Spec

def defaultSilentValues : List String := ["null", "undefined", "false", "true", "''", "\"\""]

/-- The name of a kind of description in rule files. -/
def tag : Spec → String
  | .emptyBlock .. => "empty_block"
  | .functionCall .. => "function_call"
  | .returnsOnly .. => "returns_only"
  | .containsText .. => "contains_text"
  | .fallbackValue .. => "fallback_value"
  | .assignment .. => "assignment_pattern"
  | .chainedAccess .. => "chained_access"
  | .catchHandler .. => "catch_handler"
  | .promiseCatch .. => "promise_catch"
  | .commentMarker .. => "comment_marker"
  | .stringLiteral .. => "string_literal"
  | .secret .. => "secret_pattern"
  | .url .. => "url_pattern"
  | .suppression .. => "suppression_comment"
  | .typeCast .. => "type_cast"
  | .comparison .. => "comparison"
  | .loop .. => "loop_pattern"
  | .raw .. => "raw_regex"
  | .unspecified => ""

/-- The fields of a description under their names in rule files. An absent text is null. -/
def fields : Spec → Entries
  | .emptyBlock constructs allowComments =>
    [("constructs", .ofTexts constructs), ("allow_comments", .bool allowComments)]
  | .functionCall names methodForm constructorForm ignoreCase =>
    [("names", .ofTexts names), ("match_method_form", .bool methodForm),
      ("match_constructor_form", .bool constructorForm), ("case_insensitive", .bool ignoreCase)]
  | .returnsOnly values commentWords =>
    [("literal_values", .ofTexts values),
      ("required_trailing_comment_words", .ofTexts commentWords)]
  | .containsText terms context ignoreCase =>
    [("terms", .ofTexts terms), ("context", .str context), ("case_insensitive", .bool ignoreCase)]
  | .fallbackValue operators fallbacks =>
    [("operators", .ofTexts operators), ("fallback_literals", .ofTexts fallbacks)]
  | .assignment keys values operators =>
    [("keys", .ofTexts keys), ("values", .ofTexts values), ("operators", .ofTexts operators)]
  | .chainedAccess minDepth operator =>
    [("min_depth", .int minDepth), ("operator", .str operator)]
  | .catchHandler behavior => [("behavior", .str behavior)]
  | .promiseCatch behavior silentValues =>
    [("behavior", .str behavior), ("silent_values", .ofTexts silentValues)]
  | .commentMarker markers style => [("markers", .ofTexts markers), ("style", .str style)]
  | .stringLiteral literals ignoreCase =>
    [("literals", .ofTexts literals), ("case_insensitive", .bool ignoreCase)]
  | .secret kind custom =>
    [("kind", .str kind), ("custom_regex", (custom.map Value.str).getD .null)]
  | .url protocol excludeLocalhost =>
    [("protocol", .str protocol), ("exclude_localhost", .bool excludeLocalhost)]
  | .suppression tools => [("tool_names", .ofTexts tools)]
  | .typeCast types => [("target_type_names", .ofTexts types)]
  | .comparison operators => [("operators", .ofTexts operators)]
  | .loop kind => [("kind", .str kind)]
  | .raw source flags => [("regex_source", .str source), ("flags", .str flags)]
  | .unspecified => []

end Spec

end CodeAudit.Rule
