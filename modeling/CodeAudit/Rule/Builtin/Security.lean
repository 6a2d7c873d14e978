import CodeAudit.Rule.Definition

/-!
# Security rules

Secrets in the source, injection, unsafe calls and weak cryptography.
-/

namespace CodeAudit.Rule.Builtin

def security : List Definition :=
  [
    { id := "CS-SEC001"
      title := "Hardcoded Secret Detected"
      description := "Sensitive credentials appear to be hardcoded in the source code."
      severity := "critical"
      category := "security"
      spec := .secret "generic" none
      suggestion := some "Move secrets to environment variables or a secure vault."
      verification := some {
          commands := ["git log -p -S \"<matched_value>\" -- <filename>",
              "grep -r \"<matched_value>\" .env* config/"]
          assumption := some
                "The matched string appears to be a real secret, not a placeholder or test value"
          instruction := some
                ("Verify this is a real secret, not a placeholder like \"your-api-key-here\" " ++
                  "or test data")
          confirmIf := some
                "Value looks like a real credential (high entropy, no placeholder words)"
          falsePositiveIf := some
                ("Value contains words like \"example\", \"test\", \"placeholder\", " ++
                  "\"your-\", \"xxx\", or is clearly dummy data") } },
    { id := "CS-SEC002"
      title := "GitHub Token Detected"
      description := "A GitHub personal access token was found in the code."
      severity := "critical"
      category := "security"
      spec := .secret "github" none
      suggestion := some "Remove the token immediately and rotate it in GitHub settings."
      verification := some {
          commands := ["git log -p -S \"<matched_value>\" --all", "git ls-files <filename>"]
          assumption := some "Token is real and may have been committed to git history"
          instruction := some
                ("Check if token was ever committed. If in history, it must be rotated even " ++
                  "if removed now")
          confirmIf := some
                "Token pattern matches GitHub format (ghp_, gho_, etc.) and file is tracked"
          falsePositiveIf := some
                "Token is in a test file with obviously fake data or documentation example" } },
    { id := "CS-SEC003"
      title := "OpenAI API Key Detected"
      description := "An OpenAI API key was found in the code."
      severity := "critical"
      category := "security"
      spec := .secret "openai" none
      suggestion := some "Remove the key and rotate it in your OpenAI dashboard."
      verification := some {
          commands := ["git log -p -S \"sk-\" --all -- <filename>", "git ls-files <filename>"]
          assumption := some "Key is real and may have been committed to git history"
          instruction := some
                "Check if key was ever committed. If in history, it must be rotated"
          confirmIf := some
                "Key matches OpenAI format (sk- prefix, 48+ chars) and file is tracked"
          falsePositiveIf := some "Key is in documentation as example or clearly marked as fake" } },
    { id := "CS-SEC004"
      title := "AWS Access Key Detected"
      description := "An AWS access key ID was found in the code."
      severity := "critical"
      category := "security"
      spec := .secret "aws" none
      suggestion := some "Remove and rotate the AWS credentials immediately."
      verification := some {
          commands := ["git log -p -S \"AKIA\" --all -- <filename>", "git ls-files <filename>"]
          assumption := some "Key is real and may have been committed to git history"
          instruction := some
                "Check if key was ever committed. AWS keys in git history are compromised"
          confirmIf := some "Key matches AWS format (AKIA prefix, 16 chars) and file is tracked"
          falsePositiveIf := some "Key is in documentation or test fixtures with fake data" } },
    { id := "CS-SEC005"
      title := "Stripe API Key Detected"
      description := "A Stripe API key was found in the code."
      severity := "critical"
      category := "security"
      spec := .secret "stripe" none
      suggestion := some "Remove and rotate the Stripe key immediately in your Stripe dashboard." },
    { id := "CS-SEC010"
      title := "Potential SQL Injection"
      description := "String interpolation in SQL query may allow injection attacks."
      severity := "critical"
      category := "security"
      spec :=
        .raw
              "(?:execute|query|raw)\\s*\\(\\s*['\\\"`].*?\\$\\\x7b.*?\\\x7d.*?['\\\"`]\\s*\\)" "gi"
      suggestion := some "Use parameterized queries or prepared statements instead." },
    { id := "CS-SEC011"
      title := "SQL Query String Concatenation"
      description := "Concatenating strings in SQL queries is vulnerable to injection."
      severity := "high"
      category := "security"
      spec := .raw "(?:execute|query)\\s*\\(\\s*['\\\"`].*?\\+.*?['\\\"`]\\s*\\)" "gi"
      suggestion := some "Use parameterized queries with placeholders." },
    { id := "CS-SEC020"
      title := "Potential XSS via innerHTML"
      description := "Setting innerHTML with dynamic content can lead to XSS."
      severity := "high"
      category := "security"
      spec := .raw "innerHTML\\s*=\\s*(?!['\\\"`]<)" "g"
      suggestion := some "Use textContent or sanitize HTML before insertion." },
    { id := "CS-SEC021"
      title := "React dangerouslySetInnerHTML Usage"
      description := "Using dangerouslySetInnerHTML can expose the app to XSS."
      severity := "medium"
      category := "security"
      spec := .functionCall ["dangerouslySetInnerHTML"] false false true
      suggestion := some "Ensure content is properly sanitized before rendering." },
    { id := "CS-SEC030"
      title := "eval() Usage Detected"
      description := "eval() can execute arbitrary code and is a security risk."
      severity := "high"
      category := "security"
      spec := .functionCall ["eval"] false false true
      suggestion := some "Avoid eval(). Use safer alternatives like JSON.parse()." },
    { id := "CS-SEC031"
      title := "Dynamic Function Constructor"
      description := "Creating functions from strings is similar to eval()."
      severity := "high"
      category := "security"
      spec := .functionCall ["Function"] false true false
      suggestion := some "Avoid dynamic function creation from user input." },
    { id := "CS-SEC032"
      title := "document.write() Usage"
      description := "document.write() can overwrite the document and enable XSS."
      severity := "medium"
      category := "security"
      spec := .raw "document\\.write\\s*\\(" "g"
      suggestion := some "Use DOM manipulation methods instead." },
    { id := "CS-SEC040"
      title := "Weak Hash Algorithm"
      description := "MD5 and SHA1 are cryptographically broken."
      severity := "high"
      category := "security"
      spec := .functionCall ["md5", "sha1"] false false true
      suggestion := some "Use SHA-256 or bcrypt for password hashing." },
    { id := "CS-SEC041"
      title := "Insecure Random for Security"
      description := "Math.random() is not cryptographically secure."
      severity := "medium"
      category := "security"
      spec := .raw "Math\\.random\\s*\\(\\)" "g"
      suggestion := some "Use crypto.randomBytes() or crypto.getRandomValues()." },
    { id := "CS-SEC050"
      title := "Insecure HTTP URL"
      description := "Using HTTP instead of HTTPS exposes data in transit."
      severity := "medium"
      category := "security"
      spec := .url "http" true
      suggestion := some "Use HTTPS for all external URLs." },
    { id := "CS-SEC051"
      title := "SSL Certificate Validation Disabled"
      description := "Disabling certificate validation enables MITM attacks."
      severity := "critical"
      category := "security"
      spec := .raw "rejectUnauthorized\\s*:\\s*false" "g"
      suggestion := some "Never disable SSL certificate validation in production." },
    { id := "CS-SEC060"
      title := "Wildcard CORS Origin"
      description := "Allowing all origins can expose the API to unauthorized access."
      severity := "medium"
      category := "security"
      spec := .raw "Access-Control-Allow-Origin['\\\":]+\\s*\\*" "g"
      suggestion := some "Specify allowed origins explicitly." }]

end CodeAudit.Rule.Builtin
