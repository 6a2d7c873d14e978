import CodeAudit.Advice.Location

/-!
# Inconsistencies

A concern is something that can be done in several ways. A file that uses at least two of them is
inconsistent, and the way it uses most is recommended; of equally used ways, the one listed first.
-/

namespace CodeAudit.Advice

open CodeAudit.Rule (Matcher)
open CodeAudit.Source (Buffer)

structure Variant where
  name : String
  matcher : Matcher
  deriving Repr, Inhabited

structure Concern where
  id : String
  title : String
  level : String
  variants : List Variant
  guidance : String := ""
  deriving Repr, Inhabited

structure VariantUsage where
  name : String
  locations : List Location
  count : Int
  deriving DecidableEq, Repr, Inhabited

structure Inconsistency where
  id : String
  title : String
  level : String
  severity : String
  description : String
  variants : List VariantUsage
  recommended : String
  recommendation : String
  deriving DecidableEq, Repr, Inhabited

def maxVariantLocations : Nat := 3

def Inconsistency.occurrences (f : Inconsistency) : Int :=
  f.variants.foldr (fun v n => v.count + n) 0

def mostUsedFrom (best : VariantUsage) : List VariantUsage → VariantUsage
  | [] => best
  | v :: rest => mostUsedFrom (if best.count < v.count then v else best) rest

/-- The most used variant; of equally used ones, the first. -/
def mostUsed? : List VariantUsage → Option VariantUsage
  | [] => none
  | v :: rest => some (mostUsedFrom v rest)

def Variant.usage? (buffer : Buffer) (v : Variant) : Option VariantUsage :=
  match v.matcher.findAll buffer.text with
  | [] => none
  | found =>
    let places := Location.distinct (found.map (Location.ofMatch buffer.index))
    some { name := v.name, locations := places.take maxVariantLocations, count := found.length }

def inQuotes (s : String) : String :=
  "\"" ++ s ++ "\""

/-- The inconsistency of a concern in a buffer, if at least two of its variants are used. -/
def Concern.detect? (buffer : Buffer) (concern : Concern) : Option Inconsistency :=
  match concern.variants.filterMap (Variant.usage? buffer) with
  | first :: second :: rest =>
    let used := first :: second :: rest
    let dominant := mostUsedFrom first (second :: rest)
    some {
      id := concern.id, title := concern.title, level := concern.level
      severity := if 3 ≤ used.length then "medium" else "low"
      description := "Found " ++ toString used.length ++ " different approaches being used"
      variants := used
      recommended := dominant.name
      recommendation :=
        "Standardize on " ++ inQuotes dominant.name ++ ", the most used approach here (" ++
          toString dominant.count ++ " instance(s)). " ++ concern.guidance }
  | _ => none

def detectInconsistencies (concerns : List Concern) (buffer : Buffer) : List Inconsistency :=
  concerns.filterMap (Concern.detect? buffer)

def variantCount (found : List Inconsistency) : Nat :=
  found.foldr (fun f n => f.variants.length + n) 0

def overallConsistency (found : List Inconsistency) : String :=
  if found.isEmpty then "high"
  else if found.length ≤ 2 && variantCount found ≤ 6 then "medium"
  else "low"

end CodeAudit.Advice
