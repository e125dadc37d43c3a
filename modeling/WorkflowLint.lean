import WorkflowLint.Classification
import WorkflowLint.Cli.Arguments
import WorkflowLint.Cli.Help
import WorkflowLint.Cli.Run
import WorkflowLint.Config.Basic
import WorkflowLint.Config.Checked
import WorkflowLint.Config.File
import WorkflowLint.Config.Reading
import WorkflowLint.Config.Text
import WorkflowLint.Decimal.Binary
import WorkflowLint.Decimal.Reading
import WorkflowLint.Decimal.Shortest
import WorkflowLint.Document.Decoding
import WorkflowLint.Document.Issue
import WorkflowLint.Document.Lines
import WorkflowLint.Document.Outline
import WorkflowLint.Document.Structure
import WorkflowLint.Document.Workflow
import WorkflowLint.Files.Glob
import WorkflowLint.Files.Selection
import WorkflowLint.Files.Tree
import WorkflowLint.Finding.Basic
import WorkflowLint.Graph.Basic
import WorkflowLint.Graph.Reach
import WorkflowLint.Graph.Session
import WorkflowLint.Json.Reader
import WorkflowLint.Json.Writer
import WorkflowLint.Lint.Basic
import WorkflowLint.Lint.Result
import WorkflowLint.Log.Event
import WorkflowLint.Main
import WorkflowLint.Regex.CharSet
import WorkflowLint.Regex.Compile
import WorkflowLint.Regex.Denylist
import WorkflowLint.Regex.Escape
import WorkflowLint.Regex.Fault
import WorkflowLint.Regex.Matching
import WorkflowLint.Regex.Pattern
import WorkflowLint.Regex.Source
import WorkflowLint.Report.CheckRun
import WorkflowLint.Report.Render
import WorkflowLint.Rule.Basic
import WorkflowLint.Rule.Catalogue
import WorkflowLint.Rule.ErrorPaths
import WorkflowLint.Rule.Flow
import WorkflowLint.Rule.Literals
import WorkflowLint.Rule.Loops
import WorkflowLint.Rule.Naming
import WorkflowLint.Rule.Registry
import WorkflowLint.Rule.Retries
import WorkflowLint.Schema.Basic
import WorkflowLint.Schema.Reading
import WorkflowLint.Schema.Workflow
import WorkflowLint.Settings.Basic
import WorkflowLint.Settings.Dotenv
import WorkflowLint.Text.Blank
import WorkflowLint.Text.Case
import WorkflowLint.Text.CodeRange
import WorkflowLint.Text.Digit
import WorkflowLint.Text.Identifier
import WorkflowLint.Text.Keyword
import WorkflowLint.Text.Lowercase
import WorkflowLint.Text.Printable
import WorkflowLint.Text.Quoted
import WorkflowLint.Text.Utf8
import WorkflowLint.Text.Word
import WorkflowLint.Value.Basic
import WorkflowLint.Value.Coercion
import WorkflowLint.Value.Conversion
import WorkflowLint.Value.Display
import WorkflowLint.Value.Leaves
import WorkflowLint.Value.Link
import WorkflowLint.Value.Mention
import WorkflowLint.Value.Merge
import WorkflowLint.Value.Number
import WorkflowLint.Yaml.Cursor
import WorkflowLint.Yaml.Lexer
import WorkflowLint.Yaml.Meaning
import WorkflowLint.Yaml.Node
import WorkflowLint.Yaml.Scalar
import WorkflowLint.Yaml.ScalarValue
import WorkflowLint.Yaml.Tag
import WorkflowLint.Yaml.Token
import WorkflowLint.Proofs.LinkPlaces
import WorkflowLint.Proofs.Sequence
import WorkflowLint.Proofs.SchemaMeaning
import WorkflowLint.Proofs.Acceptance
import WorkflowLint.Proofs.GraphLookups
import WorkflowLint.Proofs.GraphNodes
import WorkflowLint.Proofs.GraphEdges
import WorkflowLint.Proofs.WorkflowGraph
import WorkflowLint.Proofs.Reachability
import WorkflowLint.Proofs.GraphRegions
import WorkflowLint.Proofs.RuleEvaluation
import WorkflowLint.Proofs.RuleLocality
import WorkflowLint.Proofs.DisjointGraphs
import WorkflowLint.Proofs.DeclarationOrder
import WorkflowLint.Proofs.ErrorBranches
import WorkflowLint.Proofs.RuleIndependence
import WorkflowLint.Proofs.DataFates
import WorkflowLint.Proofs.ErrorCoverage
import WorkflowLint.Proofs.DocumentErrorBranches
import WorkflowLint.Proofs.JsonValues
import WorkflowLint.Proofs.Faults
import WorkflowLint.Proofs.DocumentVerdict
import WorkflowLint.Proofs.DoubleRange
import WorkflowLint.Proofs.ParameterNumbers
import WorkflowLint.Proofs.UsualRun
import WorkflowLint.Proofs.RemarkPlaces
import WorkflowLint.Proofs.FindingPlaces
import WorkflowLint.Proofs.RunVerdict
import WorkflowLint.Proofs.JsonTexts
import WorkflowLint.Proofs.JsonRoundTrip
import WorkflowLint.Proofs.ReportRoundTrip
import WorkflowLint.Proofs.AlertPaths
import WorkflowLint.Proofs.Mentions
import WorkflowLint.Proofs.MutationGuards
import WorkflowLint.Proofs.YamlScanning
import WorkflowLint.Proofs.YamlComposition
import WorkflowLint.Proofs.YamlConstruction
import WorkflowLint.Proofs.YamlScalars
import WorkflowLint.Proofs.DecodingFaults
import WorkflowLint.Proofs.AddedEdges
import WorkflowLint.Proofs.LeafPlaces
import WorkflowLint.Proofs.DoubleValues
import WorkflowLint.Proofs.ListedLiterals
import WorkflowLint.Proofs.ValueEquality
import WorkflowLint.Proofs.StageIssues
import WorkflowLint.Proofs.MappingKeys
import WorkflowLint.Proofs.MergedMappings
import WorkflowLint.Proofs.YamlMappings
import WorkflowLint.Proofs.PatchedRecords
import WorkflowLint.Proofs.UnmentionedFields
import WorkflowLint.Proofs.RetrySettings
import WorkflowLint.Proofs.CaseFolding
import WorkflowLint.Proofs.WrittenTexts
import WorkflowLint.Proofs.AnnouncedWaits
import WorkflowLint.Proofs.ConfigFiles
import WorkflowLint.Proofs.NodeLines
import WorkflowLint.Proofs.IncludePatterns
import WorkflowLint.Proofs.NamePatterns
import WorkflowLint.Proofs.FileSelection
import WorkflowLint.Proofs.Respelling
import WorkflowLint.Proofs.CheckNotes
import WorkflowLint.Proofs.LookupSessions
import WorkflowLint.Proofs.LiteralPatterns
import WorkflowLint.Proofs.MentionSearch
import WorkflowLint.Proofs.ChannelLinks
