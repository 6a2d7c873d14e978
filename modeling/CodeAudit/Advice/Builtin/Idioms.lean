import CodeAudit.Advice.Idiom
import CodeAudit.Rule.Recognizer

/-!
# Built-in idioms

Architectural, design and implementation idioms, and which design idioms go together.
-/

namespace CodeAudit.Advice.Builtin

open CodeAudit.Rule (pattern)

def idioms : List IdiomRule :=
  [
    { id := "CS-ARCH001"
      name := "Repository Pattern"
      level := "architectural"
      matchers := [
        pattern "class\\s+\\w*Repository",
        pattern "interface\\s+I?\\w*Repository",
        pattern "(?:find|get|save|delete|update)(?:All|By|One)\\s*\\("]
      description :=
          "Data access abstraction layer separating business logic from data persistence" },
    { id := "CS-ARCH002"
      name := "Service Layer"
      level := "architectural"
      matchers := [
        pattern "class\\s+\\w*Service",
        pattern "(?:export\\s+)?(?:const|function)\\s+\\w*Service"]
      description := "Business logic encapsulation in dedicated service classes/modules" },
    { id := "CS-ARCH003"
      name := "Controller/Handler Pattern"
      level := "architectural"
      matchers := [
        pattern "class\\s+\\w*Controller",
        pattern "(?:export\\s+)?(?:const|function)\\s+\\w*(?:Controller|Handler)",
        pattern "@(?:Controller|Get|Post|Put|Delete)\\s*\\("]
      description := "HTTP request handling separated from business logic" },
    { id := "CS-ARCH004"
      name := "Middleware Pattern"
      level := "architectural"
      matchers := [
        pattern "(?:app|router)\\.use\\s*\\(",
        pattern "export\\s+(?:const|function)\\s+\\w*Middleware",
        pattern "\\(req,\\s*res,\\s*next\\)"]
      description := "Request/response pipeline with composable handlers" },
    { id := "CS-DES001"
      name := "Factory Pattern"
      level := "design"
      matchers := [
        pattern
            "(?:create|make|build)\\w*\\s*\\([^)]*\\)\\s*(?::\\s*\\w+)?\\s*(?:=>)?\\s*\\\x7b?",
        pattern "class\\s+\\w*Factory",
        pattern "function\\s+create\\w+"]
      description := "Object creation encapsulated in factory functions/classes" },
    { id := "CS-DES002"
      name := "Singleton Pattern"
      level := "design"
      matchers := [
        pattern "static\\s+(?:get)?[Ii]nstance",
        pattern "let\\s+instance\\s*[=:]",
        pattern "export\\s+default\\s+new\\s+\\w+\\(\\)"]
      description := "Single instance shared across the application" },
    { id := "CS-DES003"
      name := "Observer/Event Pattern"
      level := "design"
      matchers := [
        pattern "\\.on\\s*\\(\\s*['\\\"`]\\w+['\\\"`]",
        pattern "\\.emit\\s*\\(\\s*['\\\"`]\\w+['\\\"`]",
        pattern "addEventListener\\s*\\(",
        pattern "(?:subscribe|unsubscribe)\\s*\\(",
        pattern "new\\s+(?:Event)?Emitter"]
      description := "Pub/sub mechanism for loose coupling between components" },
    { id := "CS-DES004"
      name := "Strategy Pattern"
      level := "design"
      matchers := [
        pattern "interface\\s+\\w*Strategy",
        pattern "type\\s+\\w*Strategy\\s*=",
        pattern "strategies\\s*(?::\\s*(?:Record|Map|\\\x7b))?\\s*[=:]"]
      description := "Interchangeable algorithms selected at runtime" },
    { id := "CS-DES005"
      name := "Builder Pattern"
      level := "design"
      matchers := [
        pattern "class\\s+\\w*Builder",
        pattern "\\.set\\w+\\([^)]+\\)\\s*\\.\\s*set\\w+",
        pattern "return\\s+this\\s*;?\\s*\\\x7d\\s*\\w+\\s*\\("]
      description := "Step-by-step object construction with fluent interface" },
    { id := "CS-DES006"
      name := "Dependency Injection"
      level := "design"
      matchers := [
        pattern "constructor\\s*\\(\\s*(?:private|public|readonly)\\s+\\w+\\s*:",
        pattern "@(?:Inject|Injectable|Service)\\s*\\(",
        pattern "\\.register\\s*\\(\\s*['\\\"`]\\w+['\\\"`]"]
      description := "Dependencies provided externally rather than created internally" },
    { id := "CS-IMPL001"
      name := "Async/Await"
      level := "implementation"
      matchers := [
        pattern "async\\s+(?:function|\\w+\\s*=|(?:\\w+\\s*)?=>)",
        pattern "await\\s+"]
      description := "Modern asynchronous code handling" },
    { id := "CS-IMPL002"
      name := "Promise Chains"
      level := "implementation"
      matchers := [
        pattern "\\.then\\s*\\(\\s*(?:\\w+\\s*=>|\\([^)]*\\)\\s*=>|function)",
        pattern "\\.catch\\s*\\(\\s*(?:\\w+\\s*=>|\\([^)]*\\)\\s*=>|function)"]
      description := "Promise-based asynchronous handling with chaining" },
    { id := "CS-IMPL003"
      name := "Callback Pattern"
      level := "implementation"
      matchers := [
        pattern "function\\s*\\([^)]*,\\s*(?:callback|cb|done|next)\\s*\\)",
        pattern "\\(\\s*(?:err|error)\\s*,\\s*(?:result|data|response)\\s*\\)"]
      description := "Traditional callback-based async handling" },
    { id := "CS-IMPL004"
      name := "Result/Either Pattern"
      level := "implementation"
      matchers := [
        pattern "(?:Result|Either|Ok|Err|Success|Failure)<\\w+",
        pattern "return\\s+\\\x7b\\s*(?:success|ok|error|data)\\s*:",
        pattern "\\.isOk\\(\\)|\\.isErr\\(\\)|\\.unwrap\\(\\)"]
      description := "Explicit success/failure return types instead of exceptions" },
    { id := "CS-IMPL005"
      name := "Guard Clauses"
      level := "implementation"
      matchers := [
        pattern "if\\s*\\([^)]+\\)\\s*(?:return|throw)\\s*[^\x7b]",
        pattern "if\\s*\\(\\s*!\\w+\\s*\\)\\s*(?:return|throw)"]
      description := "Early returns for edge cases before main logic" },
    { id := "CS-IMPL006"
      name := "Null Object Pattern"
      level := "implementation"
      matchers := [
        pattern "(?:Null|Empty|Default|Noop)\\w+\\s*(?:implements|extends|=)",
        pattern "\\?\\?\\s*\\\x7b\\s*\\w+\\s*:\\s*\\(\\)\\s*=>"]
      description := "Default objects instead of null checks" }]

def relatedIdioms : List (String × List String) :=
  [
    ("Factory Pattern", ["Builder Pattern", "Singleton Pattern"]),
    ("Singleton Pattern", ["Factory Pattern", "Dependency Injection"]),
    ("Observer/Event Pattern", ["Strategy Pattern"]),
    ("Strategy Pattern", ["Factory Pattern", "Dependency Injection"]),
    ("Builder Pattern", ["Factory Pattern"]),
    ("Dependency Injection", ["Factory Pattern", "Strategy Pattern"])]

end CodeAudit.Advice.Builtin
