import EditImpact.Baseline.Basic
import EditImpact.Baseline.Cache
import EditImpact.Baseline.Resolve
import EditImpact.ChangeSet
import EditImpact.Decimal.Read
import EditImpact.Decimal.Shortest
import EditImpact.Engine.Basic
import EditImpact.Engine.Project
import EditImpact.Engine.Record
import EditImpact.Failure
import EditImpact.Files.Disk
import EditImpact.Files.Glob
import EditImpact.Files.Kind
import EditImpact.Files.Memory
import EditImpact.Files.Path
import EditImpact.Files.System
import EditImpact.Files.Timed
import EditImpact.Files.Walk
import EditImpact.Git.Checkout
import EditImpact.Git.Repository
import EditImpact.Impact.Downstream
import EditImpact.Impact.Mention
import EditImpact.Impact.Report
import EditImpact.Impact.TestSearch
import EditImpact.Inventory.Basic
import EditImpact.Inventory.Collect
import EditImpact.Inventory.Grammars
import EditImpact.Inventory.Lines
import EditImpact.Inventory.Record
import EditImpact.Inventory.Trees
import EditImpact.Language
import EditImpact.LineDelta
import EditImpact.Lines.Diff
import EditImpact.Lines.Grid
import EditImpact.Lines.Hunk
import EditImpact.Lines.Marks
import EditImpact.Lines.Meeting
import EditImpact.Lines.Patch
import EditImpact.Lines.Shortest
import EditImpact.Log
import EditImpact.Parsing.Phrase
import EditImpact.Parsing.Python.Expressions
import EditImpact.Parsing.Python.Statements
import EditImpact.Parsing.Python.Words
import EditImpact.Parsing.Script.Expressions
import EditImpact.Parsing.Script.Statements
import EditImpact.Parsing.Script.Types
import EditImpact.Parsing.Script.Words
import EditImpact.Parsing.Tree
import EditImpact.Pattern.Basic
import EditImpact.Pattern.Build
import EditImpact.Pattern.Search
import EditImpact.Scoring.Context
import EditImpact.Scoring.Default
import EditImpact.Scoring.Metric
import EditImpact.Scoring.Record
import EditImpact.Scoring.Rules.Contracts
import EditImpact.Scoring.Rules.Correctness
import EditImpact.Scoring.Rules.Coverage
import EditImpact.Scoring.Rules.Hygiene
import EditImpact.Scoring.Rules.Risk
import EditImpact.Scoring.Rules.Security
import EditImpact.Scoring.Scorer
import EditImpact.Settings.Basic
import EditImpact.Settings.Bundled
import EditImpact.Settings.Check
import EditImpact.Settings.Conversions
import EditImpact.Settings.Environment
import EditImpact.Settings.Load
import EditImpact.Settings.Read
import EditImpact.Settings.Record
import EditImpact.Settings.Shape
import EditImpact.Signature.Extract
import EditImpact.Signature.Header
import EditImpact.Signature.Params
import EditImpact.Source.Collapse
import EditImpact.Source.Mask
import EditImpact.Source.TopLevel
import EditImpact.Text.Base64
import EditImpact.Text.Blank
import EditImpact.Text.CaseTable
import EditImpact.Text.CodePoint
import EditImpact.Text.LetterCase
import EditImpact.Text.Printable
import EditImpact.Text.Quoted
import EditImpact.Text.Range
import EditImpact.Text.Utf8
import EditImpact.Text.WordChar
import EditImpact.Value.Basic
import EditImpact.Value.Json
import EditImpact.Value.Merge
import EditImpact.Value.Order
import EditImpact.Value.Shown
import EditImpact.Yaml.Read
import EditImpact.Yaml.Scalar
import EditImpact.Proofs.Baseline.Store
import EditImpact.Proofs.Baseline.Attempts
import EditImpact.Proofs.Baseline.Chain
import EditImpact.Proofs.Baseline.Transparency
import EditImpact.Proofs.Baseline.Provenance
import EditImpact.Proofs.Baseline.Snapshots
import EditImpact.Proofs.Engine.Calls
import EditImpact.Proofs.Engine.SnapshotHistory
import EditImpact.Proofs.Signature.Contract
import EditImpact.Proofs.Signature.ReturnType
import EditImpact.Proofs.Signature.Renaming
import EditImpact.Proofs.ChangeSet.Respacing
import EditImpact.Proofs.ChangeSet.Difference
import EditImpact.Proofs.Source.Causality
import EditImpact.Proofs.Source.Segments
import EditImpact.Proofs.Pattern.Horizon
import EditImpact.Proofs.Source.Parentheses
import EditImpact.Proofs.Signature.BodyEdits
import EditImpact.Proofs.Signature.Comments
import EditImpact.Proofs.Scoring.Exact
import EditImpact.Proofs.Scoring.Quiet
import EditImpact.Proofs.Engine.Outcomes
import EditImpact.Proofs.Engine.Failures
import EditImpact.Proofs.Baseline.Repeats
import EditImpact.Proofs.Engine.Repeats
import EditImpact.Proofs.Baseline.Locality
import EditImpact.Proofs.Engine.Independence
import EditImpact.Proofs.Scoring.Mean
import EditImpact.Proofs.Scoring.Locality
import EditImpact.Proofs.Files.Trees
import EditImpact.Proofs.Impact.Scans
import EditImpact.Proofs.Pattern.Readings
import EditImpact.Proofs.Impact.Uses
import EditImpact.Proofs.Files.Traversals
import EditImpact.Proofs.Files.Located
import EditImpact.Proofs.Impact.TestSearches
import EditImpact.Proofs.Lines.Accounting
import EditImpact.Proofs.Lines.ChangedText
import EditImpact.Proofs.Scoring.Penalties
import EditImpact.Proofs.Pattern.Lines
import EditImpact.Proofs.Scoring.Security
import EditImpact.Proofs.Scoring.Defaults
import EditImpact.Proofs.Scoring.Diagnostics
import EditImpact.Proofs.Scoring.Places
import EditImpact.Proofs.Scoring.BreakingTags
import EditImpact.Proofs.Source.Tokens
import EditImpact.Proofs.Inventory.Scopes
import EditImpact.Proofs.Impact.Reports
import EditImpact.Proofs.Settings.Layering
import EditImpact.Proofs.Baseline.Lifetimes
import EditImpact.Proofs.Source.Lexemes
import EditImpact.Proofs.Source.Splitting
