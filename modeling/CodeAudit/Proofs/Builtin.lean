import CodeAudit.Proofs.Beginnings
import CodeAudit.Proofs.Table
import CodeAudit.Rule.Builtin

/-!
# The built-in rules

The patterns of the built-in rules are read once and for all (`builtin_starts`): each rule compiles,
and its patterns start with the code that they are about, or with one character of context. That the
table compiles follows (`compileAll_builtin`).
-/

namespace CodeAudit.Rule

theorem builtin_nodup : (builtinDefinitions.map (·.id)).Nodup := by
  decide +kernel

/-- The built-in rules whose patterns take in a character of context first. -/
def contextRules : List String := ["CS-ERR030", "CS-ERR120"]

def Definition.starts (d : Definition) : Bool :=
  d.compile.toOption.any fun rule => rule.matchers.all fun m =>
    if contextRules.contains d.id then m.pattern.root.startsLate else m.pattern.root.startsSolid

theorem builtin_starts : ∀ d ∈ builtinDefinitions, d.starts = true := by
  -- Table by table: the evaluation of one is forgotten before the next one is evaluated.
  have hsecurity : Builtin.security.all Definition.starts = true := by decide +kernel
  have hdeceptive : Builtin.deceptive.all Definition.starts = true := by decide +kernel
  have hplaceholder : Builtin.placeholder.all Definition.starts = true := by decide +kernel
  have hfaulty : Builtin.faulty.all Definition.starts = true := by decide +kernel
  intro d hd
  simp only [builtinDefinitions, List.mem_append] at hd
  rcases hd with ((hd | hd) | hd) | hd
  · exact List.all_eq_true.mp hsecurity d hd
  · exact List.all_eq_true.mp hdeceptive d hd
  · exact List.all_eq_true.mp hplaceholder d hd
  · exact List.all_eq_true.mp hfaulty d hd

theorem builtin_compiles : ∀ d ∈ builtinDefinitions, d.compile.toBool := by
  intro d hd
  obtain ⟨rule, hrule, -⟩ := (Option.any_eq_true _ _).mp (builtin_starts d hd)
  exact toBool_eq_true.mpr ⟨rule, toOption_eq_some.mp hrule⟩

theorem compileAll_builtin : ∃ rules, compileAll builtinDefinitions = .ok rules :=
  exists_compileAll builtin_nodup builtin_compiles

def builtinMatchers (id : String) : List Matcher :=
  (builtinDefinitions.filter (·.id == id)).flatMap fun d =>
    (d.compile.toOption.map (·.matchers)).getD []

end CodeAudit.Rule
