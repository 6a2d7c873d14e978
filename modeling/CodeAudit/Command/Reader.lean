import CodeAudit.Files.Path

/-!
# Reading command lines

What the words of a command line ask for. They are read in two steps, first the options for all
commands and the name of the command, then the words of that command. How they are read is left to
a library; either step may end the program with a help text or with a report of wrong usage.
-/

namespace CodeAudit.Command

open CodeAudit.Files (Path)

inductive Name where
  | scan
  | patterns
  | rules
  | validate
  deriving DecidableEq, Repr, Inhabited

structure GlobalOptions where
  verbose : Bool := false
  quiet : Bool := false
  deriving DecidableEq, Repr, Inhabited

inductive Invocation where
  | version
  | command (options : GlobalOptions) (name : Name) (words : List String)
  deriving DecidableEq, Repr, Inhabited

structure ScanRequest where
  source : String
  filename : Option String := none
  format : String := "terminal"
  categories : List String := []
  failUnder : Option Int := none
  deriving DecidableEq, Repr, Inhabited

structure AdviceRequest where
  source : String
  filename : Option String := none
  level : Option String := none
  query : Option String := none
  design : Bool := false
  format : String := "terminal"
  deriving DecidableEq, Repr, Inhabited

structure ListRequest where
  project : Path
  category : Option String := none
  format : String := "terminal"
  deriving DecidableEq, Repr, Inhabited

inductive Ended where
  | help (text : String)
  | refused (message : String)
  deriving DecidableEq, Repr, Inhabited

structure Reader (m : Type → Type) where
  invocation : List String → m (Except Ended Invocation)
  scan : List String → m (Except Ended ScanRequest)
  advice : List String → m (Except Ended AdviceRequest)
  listing : List String → m (Except Ended ListRequest)
  project : List String → m (Except Ended Path)

end CodeAudit.Command
