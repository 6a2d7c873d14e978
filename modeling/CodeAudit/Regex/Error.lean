import CodeAudit.Limit
import CodeAudit.Text.Quoted

/-!
# Errors in patterns

What can be wrong with a pattern, and how it is reported. Most problems have a position in the
pattern; a pattern of several lines also gets the line and column of that position.
-/

namespace CodeAudit.Regex

open CodeAudit.Text

inductive Problem where
  | danglingEscape
  | badEscape (text : String)
  | incompleteEscape (text : String)
  | octalTooLarge (text : String)
  | missingBrace
  | missingName (what : String)
  | unterminatedName (closer : String)
  | undefinedCharacter (name : String)
  | openGroupReference
  | sameLookBehindReference
  | invalidReference (group : Nat)
  | unterminatedSet
  | badRange (first last : String)
  | minAboveMax
  | nothingToRepeat
  | multipleRepeat
  | unexpectedEnd
  | unknownExtension (text : String)
  | badGroupName (name : String)
  | unknownGroupName (name : String)
  | redefinedGroup (name : String) (group earlier : Nat)
  | badGroupNumber
  | unterminatedComment
  | unterminatedGroup
  | tooManyBranches
  | globalFlagsNotFirst
  | localeFlag
  | incompatibleFlags
  | turnOnGlobal
  | turnOffGlobal
  | turnOffKind
  | onAndOff
  | unknownFlag
  | missingFlagEnd
  | missingFlag
  | missingColon
  | unbalanced
  | variableLookBehind
  | lookBehindTooWide
  | templateRepeat (operator : String)
  /-- A repetition count of 2^32 - 1 or more. -/
  | countTooLarge
  /-- A repetition count with more digits than are ever read. -/
  | longCount (digits : Nat)
  /-- Both the ASCII and the Unicode switch for the whole pattern. -/
  | conflictingFlags
  deriving DecidableEq, Repr, Inhabited

def Problem.text : Problem → String
  | .danglingEscape => "bad escape (end of pattern)"
  | .badEscape t => "bad escape " ++ t
  | .incompleteEscape t => "incomplete escape " ++ t
  | .octalTooLarge t => "octal escape value " ++ t ++ " outside of range 0-0o377"
  | .missingBrace => "missing \x7b"
  | .missingName what => "missing " ++ what
  | .unterminatedName closer => "missing " ++ closer ++ ", unterminated name"
  | .undefinedCharacter name => "undefined character name " ++ quoted name
  | .openGroupReference => "cannot refer to an open group"
  | .sameLookBehindReference =>
    "cannot refer to group defined in the same lookbehind subpattern"
  | .invalidReference group => "invalid group reference " ++ toString group
  | .unterminatedSet => "unterminated character set"
  | .badRange first last => "bad character range " ++ first ++ "-" ++ last
  | .minAboveMax => "min repeat greater than max repeat"
  | .nothingToRepeat => "nothing to repeat"
  | .multipleRepeat => "multiple repeat"
  | .unexpectedEnd => "unexpected end of pattern"
  | .unknownExtension t => "unknown extension ?" ++ t
  | .badGroupName name => "bad character in group name " ++ quoted name
  | .unknownGroupName name => "unknown group name " ++ quoted name
  | .redefinedGroup name group earlier =>
    "redefinition of group name " ++ quoted name ++ " as group " ++ toString group ++
      "; was group " ++ toString earlier
  | .badGroupNumber => "bad group number"
  | .unterminatedComment => "missing ), unterminated comment"
  | .unterminatedGroup => "missing ), unterminated subpattern"
  | .tooManyBranches => "conditional backref with more than two branches"
  | .globalFlagsNotFirst => "global flags not at the start of the expression"
  | .localeFlag => "bad inline flags: cannot use 'L' flag with a str pattern"
  | .incompatibleFlags => "bad inline flags: flags 'a', 'u' and 'L' are incompatible"
  | .turnOnGlobal => "bad inline flags: cannot turn on global flag"
  | .turnOffGlobal => "bad inline flags: cannot turn off global flag"
  | .turnOffKind => "bad inline flags: cannot turn off flags 'a', 'u' and 'L'"
  | .onAndOff => "bad inline flags: flag turned on and off"
  | .unknownFlag => "unknown flag"
  | .missingFlagEnd => "missing -, : or )"
  | .missingFlag => "missing flag"
  | .missingColon => "missing :"
  | .unbalanced => "unbalanced parenthesis"
  | .variableLookBehind => "look-behind requires fixed-width pattern"
  | .lookBehindTooWide => "looks too much behind"
  | .templateRepeat operator => "internal: unsupported template operator " ++ operator
  | .countTooLarge => "the repetition number is too large"
  | .longCount digits => (Limit.digitsRead digits).message
  | .conflictingFlags => "ASCII and UNICODE flags are incompatible"

/-- A problem and the position in the pattern at which it shows, if it has one. -/
structure Fault where
  problem : Problem
  position : Option Nat
  deriving DecidableEq, Repr, Inhabited

def Problem.placed (problem : Problem) (position : Nat) : Fault :=
  ⟨problem, some position⟩

def Problem.overall (problem : Problem) : Fault :=
  ⟨problem, none⟩

def lineAndColumn (source : List Char) (position : Nat) : Nat × Nat :=
  let before := source.take position
  (before.count '\n' + 1, (before.reverse.takeWhile (· != '\n')).length + 1)

structure Error where
  source : String
  fault : Fault
  deriving DecidableEq, Repr, Inhabited

def Error.message (e : Error) : String :=
  match e.fault.position with
  | none => e.fault.problem.text
  | some n =>
    let placed := e.fault.problem.text ++ " at position " ++ toString n
    if e.source.toList.contains '\n' then
      let (line, column) := lineAndColumn e.source.toList n
      placed ++ " (line " ++ toString line ++ ", column " ++ toString column ++ ")"
    else placed

end CodeAudit.Regex
