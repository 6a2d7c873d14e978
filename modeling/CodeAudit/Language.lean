import CodeAudit.Files.Path
import CodeAudit.Text.Case

/-!
# Languages

The language of a file is a label derived from the extension of its name. It is only shown; rules
run alike on all languages.
-/

namespace CodeAudit.Language

def unknown : String := "Unknown"

def byExtension : List (String × String) :=
  [(".ts", "TypeScript"), (".tsx", "TypeScript React"), (".js", "JavaScript"),
    (".jsx", "JavaScript React"), (".py", "Python"), (".rb", "Ruby"), (".go", "Go"),
    (".rs", "Rust"), (".java", "Java"), (".kt", "Kotlin"), (".swift", "Swift"), (".cs", "C#"),
    (".cpp", "C++"), (".c", "C"), (".php", "PHP"), (".vue", "Vue"), (".svelte", "Svelte")]

/-- The extension of the last part of a path, from its last dot on. A dot at either end of the name
starts no extension. -/
def extension (path : String) : String :=
  let name := (Files.Path.ofText path).name.toList
  let after := (name.reverse.takeWhile (· != '.')).reverse
  let before := name.length - after.length
  -- `before` counts the characters up to and including the last dot
  if 1 < before && !after.isEmpty then String.ofList ('.' :: after) else ""

def label (filename : String) : String :=
  (byExtension.lookup (Text.lower (extension filename))).getD unknown

end CodeAudit.Language
