import CodeAudit.Rule.Definition

/-!
# Rules about common mistakes

Comparisons, loops, casts and numbers that tend to be mistakes.
-/

namespace CodeAudit.Rule.Builtin

def faulty : List Definition :=
  [
    { id := "CS-ERR020"
      title := "Variable Redeclaration with var"
      description := "Same variable declared twice with var; potential bug."
      severity := "medium"
      category := "error"
      spec := .raw "var\\s+(\\w+)[\\s\\S]*?var\\s+\\1\\s*=" "g"
      suggestion := some "Use let/const and avoid redeclaring variables." },
    { id := "CS-ERR030"
      title := "Loose Equality (==)"
      description := "Loose equality can cause unexpected type coercion."
      severity := "low"
      category := "error"
      spec := .comparison ["=="]
      suggestion := some "Use strict equality (===) instead." },
    { id := "CS-ERR031"
      title := "Loose Inequality (!=)"
      description := "Loose inequality can cause unexpected type coercion."
      severity := "low"
      category := "error"
      spec := .comparison ["!="]
      suggestion := some "Use strict inequality (!==) instead." },
    { id := "CS-ERR032"
      title := "Assignment in Condition"
      description := "Assignment inside an if condition; likely meant to compare."
      severity := "high"
      category := "error"
      spec := .raw "if\\s*\\(\\s*\\w+\\s*=\\s*[^=]" "g"
      suggestion := some
          "Use === for comparison. If assignment is intentional, wrap in extra parens." },
    { id := "CS-ERR050"
      title := "for...in on Array"
      description := "for...in iterates over keys, not values; often wrong for arrays."
      severity := "medium"
      category := "error"
      spec := .loop "for_in"
      suggestion := some "Use for...of, forEach(), or traditional for loop for arrays." },
    { id := "CS-ERR051"
      title := "Infinite Loop Pattern"
      description := "while(true) requires an explicit break; easy to create an infinite loop."
      severity := "medium"
      category := "error"
      spec := .loop "while_true"
      suggestion := some "Ensure there is always a reachable break condition." },
    { id := "CS-ERR060"
      title := "Floating Point Comparison"
      description := "Direct comparison of floats (especially money) can fail due to precision."
      severity := "high"
      category := "error"
      spec :=
        .raw
              ("(?:\\d+\\.\\d+|\\w+)\\s*===?\\s*(?:\\d+\\.\\d+|\\w+).*?(?:price|amount|total|s" ++
                "um|money|currency|rate)") "gi"
      suggestion := some "Use epsilon comparison or integer cents for money." },
    { id := "CS-ERR070"
      title := "Array Mutation During Iteration"
      description := "Modifying an array while iterating can cause skipped elements."
      severity := "high"
      category := "error"
      spec :=
        .raw
              "\\.forEach\\s*\\([^)]*\\)\\s*\\\x7b[^\x7d]*(?:\\.push|\\.pop|\\.shift|\\.splice)" "g"
      suggestion := some "Create a new array or iterate backwards when mutating." },
    { id := "CS-ERR080"
      title := "parseInt Without Radix"
      description := "parseInt without radix can give unexpected results."
      severity := "low"
      category := "error"
      spec := .raw "parseInt\\s*\\(\\s*[^,)]+\\s*\\)(?!\\s*,)" "g"
      suggestion := some "Always specify radix: parseInt(x, 10)." },
    { id := "CS-ERR090"
      title := "Potentially Unreachable Code"
      description := "Code after a return statement will never execute."
      severity := "medium"
      category := "error"
      spec := .raw "return\\s+[^;]+;\\s*\\n\\s*(?![\\s\x7d]|case\\s|default:)" "g"
      suggestion := some "Remove unreachable code or fix control flow." },
    { id := "CS-ERR100"
      title := "delete Operator on Array"
      description := "delete leaves holes in arrays; length is unchanged."
      severity := "medium"
      category := "error"
      spec := .raw "delete\\s+\\w+\\[\\w+\\]" "g"
      suggestion := some "Use splice() to remove array elements." },
    { id := "CS-ERR110"
      title := "Potential \"this\" Binding Issue"
      description :=
          "Using \"this\" in a setTimeout callback may not refer to the expected context."
      severity := "medium"
      category := "error"
      spec :=
        .raw
              "setTimeout\\s*\\(\\s*(?:this\\.\\w+|function\\s*\\([^)]*\\)\\s*\\\x7b[^\x7d]*this\\.)" "g"
      suggestion := some "Use arrow function or .bind(this)." },
    { id := "CS-ERR120"
      title := "Constructor Without \"new\""
      description := "Calling a constructor without new may not work as expected."
      severity := "low"
      category := "error"
      spec := .raw "(?:^|[^.])\\b(?:Date|Array|Object|Map|Set|Promise)\\s*\\(\\s*\\)" "g"
      suggestion := some "Use \"new\" keyword with constructors." },
    { id := "CS-ERR130"
      title := "Magic Number"
      description := "Hardcoded number without context makes code hard to maintain."
      severity := "low"
      category := "error"
      spec :=
        .raw
              ("(?:if|while|for|===?|!==?|[<>]=?)\\s*\\(?\\s*(?:\\d\x7b3,\x7d|\\d+\\.\\d+)\\s*" ++
                "(?!\\s*(?:px|em|rem|%|vh|vw|s|ms))") "g"
      suggestion := some "Extract magic numbers into named constants." },
    { id := "CS-ERR140"
      title := "Await in Constructor"
      description := "Constructors cannot be async; await will not work as expected."
      severity := "high"
      category := "error"
      spec := .raw "constructor\\s*\\([^)]*\\)\\s*\\\x7b[^\x7d]*await\\s+" "g"
      suggestion := some "Use a static factory method for async initialization." }]

end CodeAudit.Rule.Builtin
