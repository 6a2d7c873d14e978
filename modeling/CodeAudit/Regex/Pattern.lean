import CodeAudit.Regex.Reader

/-!
# Patterns

A pattern is a source text that was read successfully, with its tree. Two conditions are checked on
the finished tree: look-behinds have a fixed width, and a template has no repetition.
-/

namespace CodeAudit.Regex

def behindLimit : Nat := 4294967295

def Greed.operator : Greed → String
  | .greedy => "MAX_REPEAT"
  | .reluctant => "MIN_REPEAT"
  | .possessive => "POSSESSIVE_REPEAT"

/-- The first problem of a finished tree, from the outside in and from left to right. -/
def Node.problem? (template : Bool) : Node → Option Problem
  | .empty | .char _ | .backref _ _ _ | .anchor _ => none
  | .seq a b => a.problem? template <|> b.problem? template
  | .alt a b => a.problem? template <|> b.problem? template
  | .repeated greed _ _ body =>
    if template then some (.templateRepeat greed.operator) else body.problem? template
  | .group _ body => body.problem? template
  | .ahead _ body => body.problem? template
  | .behind _ width body =>
    if behindLimit < width.lo then some .lookBehindTooWide
    else if width.lo != width.hi then some .variableLookBehind
    else body.problem? template
  | .atomic body => body.problem? template
  | .ifGroup _ yes no => yes.problem? template <|> no.problem? template

structure Pattern where
  source : String
  /-- The switches for the whole pattern, given from outside or written at its start. -/
  flags : Flags
  root : Node
  /-- The number of groups, the whole match not counted. -/
  groups : Nat
  deriving Repr, Inhabited

def compile (source : String) (flags : Flags) : Except Error Pattern :=
  match read source.toList flags with
  | .error fault => .error ⟨source, fault⟩
  | .ok reader =>
    let root := reader.level.node
    match root.problem? reader.flags.template with
    | some problem => .error ⟨source, problem.overall⟩
    | none =>
      .ok { source, flags := reader.flags, root, groups := reader.groupCount - 1 }

end CodeAudit.Regex
