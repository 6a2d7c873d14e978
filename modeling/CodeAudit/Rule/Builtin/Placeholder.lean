import CodeAudit.Rule.Definition

/-!
# Rules about unfinished code

Markers, stubs and sample values that were left behind.
-/

namespace CodeAudit.Rule.Builtin

def placeholder : List Definition :=
  [
    { id := "CS-PH001"
      title := "TODO Comment Found"
      description := "Incomplete work marker found in code."
      severity := "low"
      category := "placeholder"
      spec := .commentMarker ["TODO"] "any"
      suggestion := some "Complete or remove the TODO before shipping." },
    { id := "CS-PH002"
      title := "FIXME Comment Found"
      description := "Known issue marker found; this should be fixed."
      severity := "medium"
      category := "placeholder"
      spec := .commentMarker ["FIXME"] "any"
      suggestion := some "Fix the issue or create a ticket to track it." },
    { id := "CS-PH003"
      title := "HACK Comment Found"
      description := "Workaround marker found; this is technical debt."
      severity := "medium"
      category := "placeholder"
      spec := .commentMarker ["HACK"] "any"
      suggestion := some "Document why the hack exists and plan to remove it." },
    { id := "CS-PH004"
      title := "XXX Comment Found"
      description := "Attention marker found; requires review."
      severity := "low"
      category := "placeholder"
      spec := .commentMarker ["XXX"] "any"
      suggestion := some "Address the flagged issue or remove the marker." },
    { id := "CS-PH010"
      title := "Lorem Ipsum Placeholder Text"
      description := "Placeholder text found; replace with real content."
      severity := "medium"
      category := "placeholder"
      spec := .containsText ["lorem ipsum"] "any" true
      suggestion := some "Replace with actual content before release." },
    { id := "CS-PH011"
      title := "Common Placeholder Value"
      description := "Generic placeholder value detected."
      severity := "low"
      category := "placeholder"
      spec :=
        .stringLiteral ["foo",
          "bar",
          "baz",
          "qux",
          "test",
          "dummy",
          "sample",
          "example",
          "placeholder"] true
      suggestion := some "Replace with meaningful values." },
    { id := "CS-PH020"
      title := "Test Email Address"
      description := "Placeholder email found; may not be intended for production."
      severity := "medium"
      category := "placeholder"
      spec := .raw "['\\\"`]test@(?:test|example|dummy|sample)\\.[a-z]+['\\\"`]" "gi"
      suggestion := some "Remove or replace with proper configuration." },
    { id := "CS-PH021"
      title := "Common Test Password/Value"
      description := "Potentially insecure placeholder password or test value."
      severity := "high"
      category := "placeholder"
      spec :=
        .stringLiteral ["123", "1234", "12345", "123456", "password", "admin", "root", "test"] true
      suggestion := some "Remove test credentials before deployment." },
    { id := "CS-PH022"
      title := "Localhost URL in Code"
      description := "Hardcoded localhost URL may not work in production."
      severity := "medium"
      category := "placeholder"
      spec := .raw "(?:localhost|127\\.0\\.0\\.1):\\d\x7b4,5\x7d" "g"
      suggestion := some "Use environment variables for URLs." },
    { id := "CS-PH023"
      title := "Placeholder String Pattern"
      description := "Obvious placeholder pattern detected."
      severity := "low"
      category := "placeholder"
      spec := .stringLiteral ["xxx", "yyy", "zzz", "aaa", "bbb", "ccc"] true
      suggestion := some "Replace with actual values." },
    { id := "CS-PH030"
      title := "Test Phone Number (555)"
      description := "The 555 prefix is reserved for fictional use."
      severity := "low"
      category := "placeholder"
      spec :=
        .raw "['\\\"`](?:\\+1)?[\\s-]?555[\\s-]?\\d\x7b3\x7d[\\s-]?\\d\x7b4\x7d['\\\"`]" "g"
      suggestion := some "Use proper phone number handling or config." },
    { id := "CS-PH031"
      title := "Obviously Fake ID Number"
      description := "Placeholder ID number pattern detected."
      severity := "medium"
      category := "placeholder"
      spec :=
        .raw
              ("['\\\"`](?:000[-\\s]?00[-\\s]?0000|111[-\\s]?11[-\\s]?1111|123[-\\s]?45[-\\s]?" ++
                "6789)['\\\"`]") "g"
      suggestion := some "Remove test data before production." },
    { id := "CS-PH040"
      title := "Not Implemented Error"
      description := "Function explicitly marked as not implemented."
      severity := "high"
      category := "placeholder"
      spec := .containsText ["not implemented", "implement me", "coming soon"] "string" true
      suggestion := some "Implement the function or remove the dead code." },
    { id := "CS-PH041"
      title := "TBD/Placeholder Return Value"
      description := "Code returns a placeholder instead of a real value."
      severity := "medium"
      category := "placeholder"
      spec := .raw "(?:return|=)\\s*['\\\"`](?:TBD|TBA|N/A|pending|placeholder)['\\\"`]" "gi"
      suggestion := some "Implement actual logic or handle the case properly." },
    { id := "CS-PH050"
      title := "Debug Console.log"
      description := "Debug logging statement left in code."
      severity := "low"
      category := "placeholder"
      spec :=
        .raw
              ("console\\.log\\s*\\(\\s*['\\\"`](?:debug|test|here|working|checkpoint|\\d+)['" ++
                "\\\"`]\\s*\\)") "gi"
      suggestion := some "Remove debug statements or use a proper logger." },
    { id := "CS-PH051"
      title := "Debugger Statement"
      description := "Debugger statement will pause execution in browser."
      severity := "medium"
      category := "placeholder"
      spec := .raw "debugger\\s*;" "g"
      suggestion := some "Remove debugger statements before committing." },
    { id := "CS-PH052"
      title := "Debug Alert"
      description := "Debug alert left in code."
      severity := "medium"
      category := "placeholder"
      spec := .raw "alert\\s*\\(\\s*['\\\"`](?:test|debug|here|working)['\\\"`]\\s*\\)" "gi"
      suggestion := some "Remove debug alerts." },
    { id := "CS-PH060"
      title := "Commented Out Code"
      description := "Code appears to be commented out rather than deleted."
      severity := "low"
      category := "placeholder"
      spec := .raw "//\\s*(?:const|let|var|function|class|if|for|while|return)\\s+\\w+" "g"
      suggestion := some "Remove dead code; version control can recover it if needed." },
    { id := "CS-PH070"
      title := "Test ID in Code"
      description := "Hardcoded test ID found."
      severity := "medium"
      category := "placeholder"
      spec := .stringLiteral ["test-id", "test_id", "testid", "fake-id", "temp-id"] true
      suggestion := some "Use proper ID generation or configuration." }]

end CodeAudit.Rule.Builtin
