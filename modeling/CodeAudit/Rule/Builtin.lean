import CodeAudit.Rule.Builtin.Security
import CodeAudit.Rule.Builtin.Deceptive
import CodeAudit.Rule.Builtin.Placeholder
import CodeAudit.Rule.Builtin.Faulty
import CodeAudit.Rule.Catalog

/-!
# The built-in catalog

All built-in rules, in the order of the categories.
-/

namespace CodeAudit.Rule

def builtinDefinitions : List Definition :=
  Builtin.security ++ Builtin.deceptive ++ Builtin.placeholder ++ Builtin.faulty

def builtinCatalog : Catalog :=
  { definitions := builtinDefinitions }

end CodeAudit.Rule
