import CodeAudit.Text.Case

/-!
# Levels from questions

A free-text question is matched against keywords, from the most to the least specific level.
-/

namespace CodeAudit.Advice

def occursIn (word : List Char) : List Char → Bool
  | [] => word.isEmpty
  | c :: rest => word.isPrefixOf (c :: rest) || occursIn word rest

/-- The keywords of each level, in the order in which levels are tried. -/
def levelKeywords : List (String × List String) :=
  [("architectural", ["architect", "structure", "layer", "module", "organization"]),
    ("design",
      ["design pattern", "factory", "singleton", "observer", "strategy", "builder", "injection"]),
    ("implementation",
      ["code style", "async", "error handling", "naming", "function", "variable"]),
    ("all", ["all", "everything", "full", "complete"])]

def levelOfQuery? (query : String) : Option String :=
  let lowered := (Text.lower query).toList
  (levelKeywords.find? fun (_, words) => words.any (occursIn ·.toList lowered)).map (·.1)

end CodeAudit.Advice
