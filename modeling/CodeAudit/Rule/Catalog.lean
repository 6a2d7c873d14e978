import CodeAudit.Rule.Compiled

/-!
# Catalogs

A catalog is a table of rules with a cache of their compiled form, grouped by category. The cache
is built when compiled rules are first asked for. A build that fails leaves the catalog as it was.
-/

namespace CodeAudit.Rule

/-- Compiled rules by category. -/
abbrev Grouping := List (String × List Compiled)

def groupRules (rules : List Compiled) : Grouping :=
  categories.map fun c => (c, rules.filter (·.category == c))

/-- A table of rules and, once it has been needed, its compiled form. -/
structure Catalog where
  definitions : List Definition
  cache : Option Grouping := none
  deriving Repr, Inhabited

namespace Catalog

/-- The compiled form of the table, from the cache or newly built. -/
def grouping (cat : Catalog) : Except TableError Grouping :=
  match cat.cache with
  | some groups => .ok groups
  | none => (compileAll cat.definitions).map groupRules

def Grouping.select (groups : Grouping) : Option String → List Compiled
  | none => categories.flatMap fun c => (groups.lookup c).getD []
  | some category => (groups.lookup category).getD []

def compiled (cat : Catalog) (category : Option String) :
    Except TableError (List Compiled × Catalog) := do
  let groups ← cat.grouping
  return (Grouping.select groups category, { cat with cache := some groups })

def clear (cat : Catalog) : Catalog :=
  { cat with cache := none }

def isCached (cat : Catalog) : Bool :=
  cat.cache.isSome

def problems (cat : Catalog) : Except Regex.Error (List Problem) :=
  problemsOf cat.definitions

def stats (cat : Catalog) : Stats :=
  statsOf cat.definitions

end Catalog

end CodeAudit.Rule
