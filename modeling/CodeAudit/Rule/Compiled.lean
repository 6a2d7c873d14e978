import CodeAudit.Rule.Build
import CodeAudit.Rule.Definition

/-!
# Compiled rules

A compiled rule has matchers in place of its description. Compiling a table collects all problems
before it gives up; a repeated id is one of them.
-/

namespace CodeAudit.Rule

structure Compiled where
  id : String
  title : String
  description : String
  severity : String
  category : String
  matchers : List Matcher
  suggestion : Option String := none
  verification : Option Verification := none
  deriving Repr, Inhabited

inductive CompileError where
  | refused (problem : Problem)
  /-- A repetition count in a pattern is too large; it is not reported as a problem of the rule. -/
  | countTooLarge (error : Regex.Error)
  deriving Repr, Inhabited

def CompileError.ofBuild (id : String) : BuildError → CompileError
  | .badPattern e =>
    if e.fault.problem == .countTooLarge then .countTooLarge e
    else .refused (.unbuildable id (.badPattern e))
  | cause => .refused (.unbuildable id cause)

def Definition.compile (d : Definition) : Except CompileError Compiled := do
  if !severities.contains d.severity then throw (.refused (.unknownSeverity d.id d.severity))
  if !categories.contains d.category then throw (.refused (.unknownCategory d.id d.category))
  let matchers ← d.spec.matchers.mapError (CompileError.ofBuild d.id)
  if matchers.isEmpty then throw (.refused (.noPatterns d.id))
  return {
    id := d.id, title := d.title, description := d.description, severity := d.severity
    category := d.category, matchers, suggestion := d.suggestion, verification := d.verification }

inductive TableError where
  | refused (problems : List Problem)
  | countTooLarge (error : Regex.Error)
  deriving Repr, Inhabited

/-- The rules compiled so far, the problems so far and the ids seen so far. -/
structure TableState where
  compiled : List Compiled := []
  problems : List Problem := []
  seen : List String := []
  deriving Repr, Inhabited

/-- Compiles the next rule of a table, unless its id was seen before. -/
def TableState.add (st : TableState) (d : Definition) : Except Regex.Error TableState :=
  if st.seen.contains d.id then
    .ok { st with problems := st.problems ++ [.duplicateId d.id] }
  else
    let st := { st with seen := d.id :: st.seen }
    match d.compile with
    | .ok rule => .ok { st with compiled := st.compiled ++ [rule] }
    | .error (.refused problem) => .ok { st with problems := st.problems ++ [problem] }
    | .error (.countTooLarge e) => .error e

def compileAll (definitions : List Definition) : Except TableError (List Compiled) :=
  match definitions.foldlM TableState.add {} with
  | .error e => .error (.countTooLarge e)
  | .ok st => if st.problems.isEmpty then .ok st.compiled else .error (.refused st.problems)

/-- The problems of a table. A rule with a repeated id is still compiled. -/
def problemsFrom (seen : List String) : List Definition → Except Regex.Error (List Problem)
  | [] => .ok []
  | d :: rest => do
    let repeated := if seen.contains d.id then [Problem.duplicateId d.id] else []
    let own ← match d.compile with
      | .ok _ => pure []
      | .error (.refused problem) => pure [problem]
      | .error (.countTooLarge e) => throw e
    return repeated ++ own ++ (← problemsFrom (d.id :: seen) rest)

def problemsOf (definitions : List Definition) : Except Regex.Error (List Problem) :=
  problemsFrom [] definitions

structure Stats where
  total : Nat
  byCategory : List (String × Nat)
  bySeverity : List (String × Nat)
  deriving DecidableEq, Repr, Inhabited

def statsOf (definitions : List Definition) : Stats where
  total := definitions.length
  byCategory := categories.map fun c => (c, definitions.countP (·.category == c))
  bySeverity := severities.map fun s => (s, definitions.countP (·.severity == s))

end CodeAudit.Rule
