/-!
# Pattern flags

The switches of a pattern. `ascii` restricts classes and case to ASCII, `unicode` lifts that
restriction again, `template` forbids repetition.
-/

namespace CodeAudit.Regex

structure Flags where
  ignoreCase : Bool := false
  multiLine : Bool := false
  dotAll : Bool := false
  verbose : Bool := false
  ascii : Bool := false
  unicode : Bool := false
  template : Bool := false
  deriving DecidableEq, Repr, Inhabited

namespace Flags

def union (a b : Flags) : Flags where
  ignoreCase := a.ignoreCase || b.ignoreCase
  multiLine := a.multiLine || b.multiLine
  dotAll := a.dotAll || b.dotAll
  verbose := a.verbose || b.verbose
  ascii := a.ascii || b.ascii
  unicode := a.unicode || b.unicode
  template := a.template || b.template

def meets (a b : Flags) : Bool :=
  (a.ignoreCase && b.ignoreCase) || (a.multiLine && b.multiLine) || (a.dotAll && b.dotAll) ||
    (a.verbose && b.verbose) || (a.ascii && b.ascii) || (a.unicode && b.unicode) ||
    (a.template && b.template)

/-- The switches inside a group that turns some on and some off. Choosing between ASCII and
Unicode replaces the outer choice. -/
def inside (outer on off : Flags) : Flags where
  ignoreCase := (outer.ignoreCase || on.ignoreCase) && !off.ignoreCase
  multiLine := (outer.multiLine || on.multiLine) && !off.multiLine
  dotAll := (outer.dotAll || on.dotAll) && !off.dotAll
  verbose := (outer.verbose || on.verbose) && !off.verbose
  ascii := if on.ascii || on.unicode then on.ascii else outer.ascii
  unicode := if on.ascii || on.unicode then on.unicode else outer.unicode
  template := outer.template

def ofInline? : Char → Option Flags
  | 'i' => some { ignoreCase := true }
  | 'm' => some { multiLine := true }
  | 's' => some { dotAll := true }
  | 'x' => some { verbose := true }
  | 'a' => some { ascii := true }
  | 'u' => some { unicode := true }
  | 't' => some { template := true }
  | _ => none

/-- The letters of the switches that change matching or reading, in a fixed order. -/
def letters (f : Flags) : String :=
  String.ofList (
    (if f.ignoreCase then ['i'] else []) ++ (if f.multiLine then ['m'] else []) ++
    (if f.dotAll then ['s'] else []) ++ (if f.verbose then ['x'] else []))

end Flags

end CodeAudit.Regex
