import CodeAudit.Rule.Definition

/-!
# Rules about hidden failures

Code that looks as if it handled failures, and hides them instead.
-/

namespace CodeAudit.Rule.Builtin

def deceptive : List Definition :=
  [
    { id := "CS-DEC001"
      title := "Empty Catch Block"
      description := "Silently swallowing errors makes debugging impossible."
      severity := "high"
      category := "deceptive"
      spec := .catchHandler "empty"
      suggestion := some "At minimum, log the error. Better: handle it appropriately or rethrow." },
    { id := "CS-DEC002"
      title := "Catch Block with Only Comments"
      description := "A catch block with only comments still swallows errors."
      severity := "high"
      category := "deceptive"
      spec := .catchHandler "comment_only"
      suggestion := some "Add actual error handling, not just comments." },
    { id := "CS-DEC003"
      title := "Catch with Only Console.log"
      description :=
          "Logging alone does not handle the error; execution continues as if nothing happened."
      severity := "medium"
      category := "deceptive"
      spec := .catchHandler "log_only"
      suggestion := some "Decide: should execution continue? Add recovery logic or rethrow." },
    { id := "CS-DEC010"
      title := "Empty Promise Catch"
      description := "Silently ignoring promise rejections hides async errors."
      severity := "high"
      category := "deceptive"
      spec := .promiseCatch "empty" Spec.defaultSilentValues
      suggestion := some "Handle the rejection or let it propagate for proper error handling." },
    { id := "CS-DEC011"
      title := "Promise Catch Returns Silent Value"
      description :=
          "Returning a value from catch masks the error. Callers won't know something failed."
      severity := "high"
      category := "deceptive"
      spec := .promiseCatch "returns_silent" Spec.defaultSilentValues
      suggestion := some "Return a distinguishable error state or rethrow." },
    { id := "CS-DEC012"
      title := "Catch with Ignored Error Parameter"
      description :=
          ("Using _ for the error parameter signals an intentional ignore. Is it really safe " ++
            "to ignore?")
      severity := "medium"
      category := "deceptive"
      spec := .promiseCatch "ignores_param" Spec.defaultSilentValues
      suggestion := some "Document why ignoring this error is safe, or handle it." },
    { id := "CS-DEC020"
      title := "Empty Array Fallback"
      description :=
          "Falling back to [] can mask failed data fetching; code continues as if data was empty."
      severity := "medium"
      category := "deceptive"
      spec := .fallbackValue ["||"] ["[]"]
      suggestion := some
          ("Distinguish between \"no data\" and \"failed to fetch\". Consider throwing or " ++
            "returning null.") },
    { id := "CS-DEC021"
      title := "Empty Object Fallback"
      description := "Falling back to \x7b\x7d can hide parsing or fetching failures."
      severity := "medium"
      category := "deceptive"
      spec := .fallbackValue ["||"] ["\x7b\x7d"]
      suggestion := some "Handle the undefined/null case explicitly rather than masking it." },
    { id := "CS-DEC022"
      title := "Nullish Coalescing to Empty Value"
      description :=
          "Defaulting to empty values with ?? can mask null responses that indicate errors."
      severity := "low"
      category := "deceptive"
      spec := .fallbackValue ["??"] ["[]", "\x7b\x7d", "''", "\"\""]
      suggestion := some
          "Verify that null/undefined truly means \"use default\" vs \"something went wrong\"." },
    { id := "CS-DEC030"
      title := "Excessive Optional Chaining"
      description :=
          "Deep optional chaining (4+ levels) often masks structural problems or missing validation."
      severity := "medium"
      category := "deceptive"
      spec := .chainedAccess 4 "?."
      suggestion := some
          "Validate data shape upfront rather than optional-chaining through uncertain structures." },
    { id := "CS-DEC040"
      title := "Silent Error Return"
      description :=
          "Returning null/false on error with a comment; callers may not check for this."
      severity := "high"
      category := "deceptive"
      spec := .returnsOnly ["null", "undefined", "false"] ["error", "fail", "todo", "fixme"]
      suggestion := some "Throw an error or return a Result/Either type that forces handling." },
    { id := "CS-DEC041"
      title := "Silent Return on Error"
      description :=
          "Returning silently when an error is detected, with no logging and no propagation."
      severity := "high"
      category := "deceptive"
      spec := .raw "if\\s*\\([^)]*error[^)]*\\)\\s*\\\x7b\\s*return\\s*;?\\s*\\\x7d" "gi"
      suggestion := some "Log the error or throw it. Silent returns make debugging a nightmare." },
    { id := "CS-DEC050"
      title := "Timeout as Error Workaround"
      description := "Using setTimeout to \"fix\" timing issues often masks race conditions."
      severity := "medium"
      category := "deceptive"
      spec :=
        .raw
              "setTimeout\\s*\\([^,]+,\\s*\\d+\\s*\\)\\s*;?\\s*//.*?(?:fix|hack|workaround|retry)" "gi"
      suggestion := some "Fix the underlying race condition. Use proper async coordination." },
    { id := "CS-DEC060"
      title := "Linter/Type Check Suppression"
      description := "Suppressing type errors or linter warnings may hide real issues."
      severity := "low"
      category := "deceptive"
      spec := .suppression ["ts-ignore", "ts-expect-error", "eslint-disable", "noqa"]
      suggestion := some "Fix the underlying issue. If suppression is needed, document why." },
    { id := "CS-DEC061"
      title := "TypeScript \"as any\" Cast"
      description := "Casting to any defeats TypeScript's type safety."
      severity := "medium"
      category := "deceptive"
      spec := .typeCast ["any"]
      suggestion := some "Use proper type definitions or unknown with type guards." },
    { id := "CS-DEC070"
      title := "Fake Success Response"
      description := "Returning success without actually doing the work."
      severity := "critical"
      category := "deceptive"
      spec :=
        .raw
              ("return\\s*\\\x7b\\s*(?:success|ok|status)\\s*:\\s*true[^\x7d]*\\\x7d\\s*;?\\s*" ++
                "//.*?(?:todo|fixme|hack)") "gi"
      suggestion := some "Implement the actual functionality or return an honest error." },
    { id := "CS-DEC080"
      title := "console.error Without Throw"
      description := "Logging an error but continuing execution; the error may not be handled."
      severity := "low"
      category := "deceptive"
      spec := .raw "console\\.error\\s*\\([^)]+\\)(?!\\s*;?\\s*throw)" "g"
      suggestion := some "Consider if execution should continue. If not, throw after logging." }]

end CodeAudit.Rule.Builtin
