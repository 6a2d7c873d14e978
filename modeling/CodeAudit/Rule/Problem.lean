import CodeAudit.Limit
import CodeAudit.Regex.Error
import CodeAudit.Rule.Labels
import CodeAudit.Value

/-!
# Problems with rules

Every reason for which a rule, a match description or a rule file is refused, with the one wording
that reports it. `place` says which table the problem is in.
-/

namespace CodeAudit.Rule

inductive BuildError where
  /-- There is no description. -/
  | unspecified
  | badFlag (letter : Char)
  /-- A depth that cannot be written into a pattern. -/
  | longDepth
  | badPattern (error : Regex.Error)
  deriving DecidableEq, Repr, Inhabited

def BuildError.message : BuildError → String
  | .unspecified => "Unknown match type: MatchSpec"
  | .badFlag letter =>
    "Unsupported regex flag " ++ Text.quoted (String.ofList [letter]) ++
      " (expected any of: g, i, m, s, u)."
  | .longDepth => Limit.digitsWritten.message
  | .badPattern error => error.message

inductive Problem where
  | notTable (place : String)
  | unknownMatchType (place : String) (tag : Value) (known : List String)
  | notField (place key tag : String)
  | notTexts (place : String)
  | notBoolean (place : String)
  | notInteger (place : String)
  | notText (place : String)
  | missingFields (place : String) (names : List String)
  | badStatus (place : String)
  | unknownKeys (place : String) (keys : List String)
  | blankText (place : String)
  | notOneOf (place : String) (allowed : List String)
  | noMatch (place : String)
  | unreadable (path reason : String)
  | badToml (path reason : String)
  | rulesNotArray (path : String)
  | unknownSeverity (id severity : String)
  | unknownCategory (id category : String)
  | unbuildable (id : String) (cause : BuildError)
  | noPatterns (id : String)
  | duplicateId (id : String)
  deriving Repr, Inhabited

def ticked (name : String) : String :=
  "`" ++ name ++ "`"

def Problem.message : Problem → String
  | .notTable place => ticked place ++ " must be a table."
  | .unknownMatchType place tag known =>
    ticked (place ++ ".type") ++ " " ++ tag.shown ++
      " is not a known match type (expected one of: " ++ commaList known ++ ")."
  | .notField place key tag => ticked (place ++ "." ++ key) ++ " is not a field of " ++ tag ++ "."
  | .notTexts place => ticked place ++ " must be a list of strings."
  | .notBoolean place => ticked place ++ " must be a boolean."
  | .notInteger place => ticked place ++ " must be an integer."
  | .notText place => ticked place ++ " must be a string."
  | .missingFields place names =>
    ticked place ++ " is missing required field(s): " ++ commaList names ++ "."
  | .badStatus place =>
    ticked (place ++ ".status") ++ " must be one of: " ++ commaList verificationStatuses ++ "."
  | .unknownKeys place keys => ticked place ++ " has unknown key(s): " ++ commaList keys ++ "."
  | .blankText place => ticked place ++ " must be a non-empty string."
  | .notOneOf place allowed => ticked place ++ " must be one of: " ++ commaList allowed ++ "."
  | .noMatch place => ticked (place ++ ".match") ++ " is required."
  | .unreadable path reason => "Could not read rule file " ++ path ++ ": " ++ reason
  | .badToml path reason => "Invalid TOML in " ++ path ++ ": " ++ reason
  | .rulesNotArray path => path ++ ": `rules` must be an array of tables."
  | .unknownSeverity id severity => id ++ ": unknown severity " ++ Text.quoted severity
  | .unknownCategory id category => id ++ ": unknown category " ++ Text.quoted category
  | .unbuildable id .unspecified => id ++ ": " ++ BuildError.unspecified.message
  | .unbuildable id cause => id ++ ": failed to compile pattern: " ++ cause.message
  | .noPatterns id => id ++ ": match description produced no patterns"
  | .duplicateId id => "Duplicate rule id: " ++ id

end CodeAudit.Rule
