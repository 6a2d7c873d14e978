import CodeAudit.Command.Project
import CodeAudit.Report.Screen

/-!
# Rules of a project

Lists the rules of a project, or checks that all of them can be compiled.
-/

namespace CodeAudit.Command

open CodeAudit.Files (Path)

variable {m : Type → Type} [Monad m]

def listRules (ctx : Context m) (request : ListRequest) : Step m Unit := do
  let format ← orUsage (Format.ofText request.format)
  let categories ← orUsage (chooseCategories (nonEmpty? request.category).toList)
  let (settings, root) ← loadProject ctx request.project
  let own ← loadRules ctx settings root
  let catalog ← currentCatalog own
  let definitions := match categories with
    | none => catalog.definitions
    | some chosen => catalog.definitions.filter fun d => chosen.contains d.category
  let stats := Rule.statsOf definitions
  match format with
  | .json => emitJson (Report.rulesJson definitions stats)
  | .terminal => emitScreen ctx (Report.rulesItems definitions stats)

def validateRules (ctx : Context m) (project : Path) : Step m Unit := do
  let (settings, root) ← loadProject ctx project
  let own ← loadRules ctx settings root
  let catalog ← currentCatalog own
  if !ctx.stack.compiles catalog.definitions then throw (.failure (.limit .stack))
  match catalog.problems with
  | .error e => throw (.failure (.pattern e))
  | .ok [] =>
    emitItem ctx (.markup
      ("All " ++ toString catalog.definitions.length ++ " rule(s) are valid."))
  | .ok problems => refuseRules ctx problems

end CodeAudit.Command
