import CodeAudit.Advice.Concern
import CodeAudit.Rule.Recognizer

/-!
# Built-in concerns

Things that are done in several ways in one file. On equal counts the variant listed first is
recommended, so the order of variants matters.
-/

namespace CodeAudit.Advice.Builtin

open CodeAudit.Rule (pattern)

def concerns : List Concern :=
  [
    { id := "CS-INC001"
      title := "Mixed Async Styles"
      level := "implementation"
      variants := [
        ⟨"async/await", pattern "async\\s+\\w|await\\s+"⟩,
        ⟨"Promise chains", pattern "\\.then\\s*\\("⟩,
        ⟨"Callbacks", pattern ",\\s*(?:callback|cb)\\s*\\)|,\\s*\\(err,"⟩]
      guidance := "Convert the other async styles so every call site composes the same way." },
    { id := "CS-INC002"
      title := "Mixed Error Handling"
      level := "implementation"
      variants := [
        ⟨"try/catch", pattern "try\\s*\\\x7b[\\s\\S]*?catch"⟩,
        ⟨".catch()", pattern "\\.catch\\s*\\("⟩,
        ⟨"Error callbacks", pattern "\\(\\s*err(?:or)?\\s*(?:,|\\))"⟩,
        ⟨"Result types", pattern "(?:Result|Either|Ok|Err)<"⟩]
      guidance :=
          "Pick one primary error handling strategy so callers know how failures surface." },
    { id := "CS-INC003"
      title := "Mixed Export Styles"
      level := "implementation"
      variants := [
        ⟨"Named exports", pattern "export\\s+(?:const|function|class|interface|type)\\s+\\w+"⟩,
        ⟨"Default exports", pattern "export\\s+default"⟩,
        ⟨"module.exports", pattern "module\\.exports\\s*="⟩]
      guidance := "Export every module the same way so imports read uniformly." },
    { id := "CS-INC004"
      title := "Mixed Null Handling"
      level := "implementation"
      variants := [
        ⟨"Optional chaining (?.)", pattern "\\?\\."⟩,
        ⟨"Nullish coalescing (??)", pattern "\\?\\?"⟩,
        ⟨"Logical OR (||)", pattern
            "\\|\\|\\s*(?:null|undefined|''|\\\"\\\"|\\[\\]|\\\x7b\\\x7d)"⟩,
        ⟨"Explicit checks", pattern "(?:!==?|===?)\\s*(?:null|undefined)"⟩]
      guidance :=
          "Handle missing values one way; note that || also replaces every falsy value." },
    { id := "CS-INC005"
      title := "Mixed Function Styles"
      level := "implementation"
      variants := [
        ⟨"Arrow functions", pattern "(?:const|let)\\s+\\w+\\s*=\\s*(?:\\([^)]*\\)|[^=])\\s*=>"⟩,
        ⟨"Function declarations", pattern "function\\s+\\w+\\s*\\("⟩,
        ⟨"Method shorthand", pattern "\\w+\\s*\\([^)]*\\)\\s*\\\x7b"⟩]
      guidance := "Keep one function style for similar roles so the file reads consistently." }]

end CodeAudit.Advice.Builtin
