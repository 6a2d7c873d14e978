import CodeAudit.Rule.Recognizer
import CodeAudit.Strength

/-!
# Built-in strengths

The good practices that are recognised, from typing to logging.
-/

namespace CodeAudit.Strength

open CodeAudit.Rule (pattern patternWith)

def builtin : List StrengthCheck :=
  [
    { id := "CS-STR001"
      matcher := pattern
          (":\\s*(?:string|number|boolean|void|never|unknown|null|undefined|\\w+\\[\\]|Recor" ++
            "d<|Map<|Set<|Promise<)")
      title := "Strong Typing"
      description := "Explicit type annotations improve code safety and documentation." },
    { id := "CS-STR002"
      matcher := pattern "interface\\s+\\w+\\s*\\\x7b"
      title := "Interface Definitions"
      description := "Well-defined interfaces create clear contracts." },
    { id := "CS-STR003"
      matcher := pattern "type\\s+\\w+\\s*=\\s*"
      title := "Type Aliases"
      description := "Type aliases improve code readability and reusability." },
    { id := "CS-STR010"
      matcher := pattern
          "try\\s*\\\x7b[\\s\\S]+?\\\x7d\\s*catch\\s*\\([^)]+\\)\\s*\\\x7b[\\s\\S]+?\\\x7d"
      title := "Proper Try/Catch"
      description := "Structured error handling with meaningful catch blocks." },
    { id := "CS-STR011"
      matcher := pattern "\\.catch\\s*\\(\\s*(?:error|err|e)\\s*=>\\s*\\\x7b[^\x7d]+\\\x7d"
      title := "Promise Error Handling"
      description := "Promise chains have explicit error handling." },
    { id := "CS-STR012"
      matcher := pattern "class\\s+\\w+Error\\s+extends\\s+Error"
      title := "Custom Error Classes"
      description := "Custom errors enable better error classification." },
    { id := "CS-STR020"
      matcher := pattern "/\\*\\*[\\s\\S]*?@(?:param|returns?|throws|example)[\\s\\S]*?\\*/"
      title := "JSDoc Documentation"
      description := "Functions have proper JSDoc documentation." },
    { id := "CS-STR021"
      matcher := patternWith { multiLine := true } "//\\s+[A-Z][^.!?\\n]*[.!?][ \\t]*$"
      title := "Meaningful Comments"
      description := "Code has explanatory comments in complete sentences." },
    { id := "CS-STR030"
      matcher := pattern "const\\s+\\w+\\s*="
      title := "Immutable Variables"
      description := "Using const by default prevents accidental reassignment." },
    { id := "CS-STR031"
      matcher := pattern "(?:readonly|Object\\.freeze|as\\s+const)"
      title := "Immutability Patterns"
      description := "Code uses immutability patterns for data safety." },
    { id := "CS-STR032"
      matcher := pattern "(?:private|protected|#\\w+)"
      title := "Encapsulation"
      description := "Proper use of access modifiers for encapsulation." },
    { id := "CS-STR040"
      matcher := pattern "async\\s+\\w+\\s*\\([^)]*\\)\\s*(?::\\s*Promise<[^>]+>)?"
      title := "Async/Await Usage"
      description := "Modern async/await syntax for readable asynchronous code." },
    { id := "CS-STR041"
      matcher := pattern "Promise\\.all\\s*\\("
      title := "Parallel Promise Execution"
      description := "Using Promise.all for efficient parallel async operations." },
    { id := "CS-STR042"
      matcher := pattern "Promise\\.allSettled\\s*\\("
      title := "Resilient Promise Handling"
      description := "Using allSettled handles both fulfilled and rejected promises." },
    { id := "CS-STR050"
      matcher := pattern "(?:describe|it|test|expect)\\s*\\("
      title := "Test Coverage"
      description := "Code includes tests with standard testing patterns." },
    { id := "CS-STR051"
      matcher := pattern "\\.test\\.|\\.spec\\.|__tests__"
      title := "Test Files Present"
      description := "Dedicated test files follow conventions." },
    { id := "CS-STR060"
      matcher := pattern "(?:z\\.|yup\\.|joi\\.|validator\\.)\\w+"
      title := "Schema Validation"
      description := "Using validation libraries for input/data validation." },
    { id := "CS-STR061"
      matcher := pattern "if\\s*\\(\\s*!?\\w+\\s*(?:&&|\\|\\|)?\\s*typeof\\s+\\w+"
      title := "Type Guards"
      description := "Runtime type checking before operations." },
    { id := "CS-STR070"
      matcher := pattern "(?:\\?\\.|&&\\s*\\w+\\?\\.)"
      title := "Optional Chaining"
      description := "Using ?. for safe property access." },
    { id := "CS-STR071"
      matcher := pattern "\\?\\?\\s*(?![\\[\x7b])"
      title := "Nullish Coalescing"
      description := "Using ?? for proper null/undefined handling." },
    { id := "CS-STR072"
      matcher := pattern "\\.\\.\\.\\w+"
      title := "Spread Operator"
      description := "Using spread for immutable operations." },
    { id := "CS-STR080"
      matcher := pattern "process\\.env\\.\\w+|import\\.meta\\.env\\.\\w+"
      title := "Environment Variables"
      description := "Configuration via environment variables." },
    { id := "CS-STR090"
      matcher := pattern "(?:logger|log)\\.\\w+\\s*\\("
      title := "Structured Logging"
      description := "Using a logging library instead of console.log." }]

end CodeAudit.Strength
