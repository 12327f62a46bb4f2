import SourceLint.Text.Blank
import SourceLint.Text.Utf8
import SourceLint.Syntax.Token
import SourceLint.Syntax.Token.Literal
import SourceLint.Syntax.Token.Lexer
import SourceLint.Syntax.Node
import SourceLint.Syntax.Parser
import SourceLint.Syntax.Grammar.PlainPath
import SourceLint.Syntax.Grammar.Path
import SourceLint.Syntax.Grammar.Type
import SourceLint.Syntax.Grammar.Pattern
import SourceLint.Syntax.Grammar.Expression
import SourceLint.Syntax.Grammar.Item
import SourceLint.Syntax.Grammar.Statement
import SourceLint.Text.ByteOrderMark
import SourceLint.Syntax.Grammar.Knot
import SourceLint.Syntax.Program
import SourceLint.Text.Split
import SourceLint.Files.PathName
import SourceLint.Files.Tree
import SourceLint.Files.Pattern
import SourceLint.Files.IgnoreList
import SourceLint.Files.Discovery
import SourceLint.Source.Location
import SourceLint.Source.LineIndex
import SourceLint.Source.SourceFile
import SourceLint.Report.Severity
import SourceLint.Report.Violation
import SourceLint.Report.Report
import SourceLint.Report.Rendering
import SourceLint.Edit.Substitution
import SourceLint.Directive.Allowance
import SourceLint.Traversal.Visitor
import SourceLint.Syntax.Attributes
import SourceLint.Traversal.Recorder
import SourceLint.Rule.Description
import SourceLint.Number.Binary64
import SourceLint.Number.Notation
import SourceLint.Number.Numeral
import SourceLint.Text.Quoted
import SourceLint.Data.Mismatch
import SourceLint.Json.Value
import SourceLint.Json.Reader
import SourceLint.Json.Decode
import SourceLint.Json.Description
import SourceLint.Toml.Value
import SourceLint.Toml.Reader
import SourceLint.Toml.Key
import SourceLint.Toml.Scalars
import SourceLint.Toml.Error
import SourceLint.Toml.Item
import SourceLint.Toml.Document
import SourceLint.Toml.Datetime
import SourceLint.Toml.Decoding
import SourceLint.Settings.SettingsError
import SourceLint.Settings.RuleSettings
import SourceLint.Settings.Config
import SourceLint.Rule.Basic
import SourceLint.Rules.PreferExpect
import SourceLint.Rules.TestCaseAccessibility
import SourceLint.Rules.LegacyCall
import SourceLint.Rules.Rename
import SourceLint.Rules.Scripted
import SourceLint.Analysis.Analyzer
import SourceLint.Analysis.Verification
import SourceLint.Rules.Registry
import SourceLint.Settings.ConfigFile
import SourceLint.Command.CommandError
import SourceLint.Command.Help
import SourceLint.Command.Check
import SourceLint.Command.NewConfig
import SourceLint.Command.RuleList
import SourceLint.Command.Arguments
import SourceLint.Command.Program
import SourceLint.Main
import SourceLint.Proofs.Edit.OnePass
import SourceLint.Proofs.Analysis.Correction
import SourceLint.Proofs.Traversal.PostOrder
import SourceLint.Proofs.Analysis.Independence
import SourceLint.Proofs.Syntax.Yields
import SourceLint.Proofs.Syntax.TypeShape
import SourceLint.Proofs.Syntax.ExpressionShape
import SourceLint.Proofs.Syntax.ItemShape
import SourceLint.Proofs.Rules.TestCases
import SourceLint.Proofs.Source.Offset
import SourceLint.Proofs.Edit.Deletion
import SourceLint.Proofs.Syntax.Conceal
import SourceLint.Proofs.Rules.Privacy
import SourceLint.Proofs.Analysis.Directives
import SourceLint.Proofs.Edit.Relocation
import SourceLint.Proofs.Source.ByteOrderMark
import SourceLint.Proofs.Analysis.Relocation
import SourceLint.Proofs.Settings.Blame
import SourceLint.Proofs.Settings.Configured
import SourceLint.Proofs.Rules.Builtin
import SourceLint.Proofs.Rules.Selection
import SourceLint.Proofs.Command.NamedRules
import SourceLint.Proofs.Settings.Entry
import SourceLint.Proofs.Analysis.ExamplePass
import SourceLint.Proofs.Rules.Shrinking
import SourceLint.Proofs.Files.Names
import SourceLint.Proofs.Rules.Reports
import SourceLint.Proofs.Command.Described
import SourceLint.Proofs.Command.Runs
import SourceLint.Proofs.Source.Positions
import SourceLint.Proofs.Analysis.Transfer
import SourceLint.Proofs.Settings.Severities
import SourceLint.Proofs.Rules.Restamping
import SourceLint.Proofs.Text.Splitting
import SourceLint.Proofs.Syntax.Stretches
import SourceLint.Proofs.Directive.Reading
import SourceLint.Proofs.Directive.LineComments
import SourceLint.Proofs.Edit.Reordering
import SourceLint.Proofs.Text.Trimming
import SourceLint.Proofs.Directive.Writing
import SourceLint.Proofs.Syntax.Parsed
import SourceLint.Proofs.Rules.BannedCalls
import SourceLint.Proofs.Rules.LegacyModules
import SourceLint.Proofs.Report.Merging
import SourceLint.Proofs.Analysis.Defects
import SourceLint.Proofs.Directive.Reach
import SourceLint.Proofs.Settings.Fields
import SourceLint.Proofs.Settings.KeyByKey
import SourceLint.Proofs.Rule.Marks
import SourceLint.Proofs.Analysis.Demands
import SourceLint.Proofs.Json.ReadBack
import SourceLint.Proofs.Rules.NegativeImpls
import SourceLint.Proofs.Edit.FirstWins
import SourceLint.Proofs.Analysis.Anchoring
import SourceLint.Proofs.Settings.Defaults
import SourceLint.Proofs.Report.Sorting
