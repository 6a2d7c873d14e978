import CodeAudit.Rule.DefinitionReader
import CodeAudit.Rule.Builtin
import CodeAudit.Strength.Builtin
import CodeAudit.Advice.Level
import CodeAudit.Language
import CodeAudit.Report.Document
import CodeAudit.Toml.Reader
import CodeAudit.Files.Tree
import CodeAudit.Rule.File
import CodeAudit.Settings.Project
import CodeAudit.Settings.Rules
import CodeAudit.Shell.Console
import CodeAudit.Proofs.Markup
import CodeAudit.Proofs.Layout
import CodeAudit.Report.Screen
import CodeAudit.Command.Run
import CodeAudit.Main
import CodeAudit.Proofs.Outcome
import CodeAudit.Proofs.Table
import CodeAudit.Scan.Request
import CodeAudit.Proofs.Analysis
import CodeAudit.Proofs.Validation
import CodeAudit.Proofs.Findings
import CodeAudit.Proofs.Settings
import CodeAudit.Proofs.Selection
import CodeAudit.Proofs.Text
import CodeAudit.Proofs.RuleIds
import CodeAudit.Proofs.Regrouping
import CodeAudit.Proofs.Independence
import CodeAudit.Proofs.Phrase
import CodeAudit.Proofs.Reading
import CodeAudit.Proofs.Compiling
import CodeAudit.Proofs.Phrasing
import CodeAudit.Proofs.Buildable
import CodeAudit.Proofs.ExitCode
import CodeAudit.Proofs.Coherence
import CodeAudit.Proofs.Relabeling
import CodeAudit.Proofs.Grammar
import CodeAudit.Proofs.Vocabulary
import CodeAudit.Proofs.Backtracking
import CodeAudit.Proofs.Searching
import CodeAudit.Proofs.Levels
import CodeAudit.Proofs.Authoring
import CodeAudit.Proofs.Lines
import CodeAudit.Proofs.Beginnings
import CodeAudit.Proofs.Placement
import CodeAudit.Proofs.Folding
import CodeAudit.Proofs.Covering
import CodeAudit.Proofs.Alternatives
import CodeAudit.Proofs.Widening
import CodeAudit.Proofs.DesignView
import CodeAudit.Proofs.Decoding
import CodeAudit.Proofs.Faithful
import CodeAudit.Proofs.Counts
import CodeAudit.Proofs.FirstFault
import CodeAudit.Proofs.Replacing
import CodeAudit.Proofs.Templates
import CodeAudit.Proofs.LineLookup
import CodeAudit.Proofs.Blocks
import CodeAudit.Proofs.Meaning
import CodeAudit.Proofs.Calls
import CodeAudit.Proofs.Casts
import CodeAudit.Proofs.Scanning
import CodeAudit.Proofs.Consuming
import CodeAudit.Proofs.Preference
import CodeAudit.Proofs.Chains
import CodeAudit.Proofs.Caseless
import CodeAudit.Proofs.Markers
import CodeAudit.Proofs.Exclusions
import CodeAudit.Proofs.Numbers
import CodeAudit.Proofs.Handlers
import CodeAudit.Proofs.Comments
import CodeAudit.Proofs.Places
import CodeAudit.Proofs.Idioms
import CodeAudit.Proofs.Concerns
import CodeAudit.Proofs.Actions
import CodeAudit.Proofs.Suggestions
import CodeAudit.Proofs.DesignReport
import CodeAudit.Proofs.Spelling
import CodeAudit.Proofs.Categories
import CodeAudit.Proofs.SettingFaults
import CodeAudit.Proofs.Canonical
import CodeAudit.Proofs.Repeating
import CodeAudit.Proofs.Literals
import CodeAudit.Proofs.Verbatim
