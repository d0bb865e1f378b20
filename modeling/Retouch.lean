import Retouch.Command.Grammar
import Retouch.Command.Help
import Retouch.Command.Request
import Retouch.Command.Session
import Retouch.Corpus.Basic
import Retouch.Corpus.Reader
import Retouch.Csv
import Retouch.Decimal.Binary
import Retouch.Decimal.Fixed
import Retouch.Decimal.Notation
import Retouch.Decimal.Shortest
import Retouch.Diagnostic.Basic
import Retouch.Diagnostic.Plain
import Retouch.Digest.Blake3
import Retouch.Edit.Compare
import Retouch.Edit.Script
import Retouch.Edit.Search
import Retouch.Edit.Unified
import Retouch.Files.Path
import Retouch.Files.Tree
import Retouch.Json.Basic
import Retouch.Json.Reader
import Retouch.Main
import Retouch.Pass.Basic
import Retouch.Pass.BlankLines
import Retouch.Pass.Catalog
import Retouch.Pass.Comments
import Retouch.Pass.Containers
import Retouch.Pass.CountingLoop
import Retouch.Pass.DeadBranch
import Retouch.Pass.Increment
import Retouch.Pass.SquareCall
import Retouch.Pass.Sums
import Retouch.Pass.ZeroAddition
import Retouch.Pass.ZeroInit
import Retouch.Pattern.Basic
import Retouch.Pattern.Scan
import Retouch.Pipeline
import Retouch.Proofs.Comments
import Retouch.Proofs.Decoding
import Retouch.Proofs.Furthest
import Retouch.Proofs.Grid
import Retouch.Proofs.Hunks
import Retouch.Proofs.Lines
import Retouch.Proofs.Patch
import Retouch.Proofs.Replay
import Retouch.Proofs.Retrieval
import Retouch.Proofs.Scanning
import Retouch.Proofs.Search
import Retouch.Proofs.Selection
import Retouch.Proofs.Shortest
import Retouch.Proofs.SquareCalls
import Retouch.Proofs.Trail
import Retouch.Proofs.Verdict
import Retouch.Report.Optimize
import Retouch.Report.Run
import Retouch.Report.Verification
import Retouch.Retrieval.Index
import Retouch.Retrieval.Tokens
import Retouch.Retrieval.Weights
import Retouch.Selection
import Retouch.Settings.Basic
import Retouch.Settings.Reader
import Retouch.Shell.Arithmetic
import Retouch.Shell.Builtin
import Retouch.Shell.Calendar
import Retouch.Shell.Condition
import Retouch.Shell.Expansion
import Retouch.Shell.Format
import Retouch.Shell.Gathering
import Retouch.Shell.Glob
import Retouch.Shell.Jobs
import Retouch.Shell.Launcher
import Retouch.Shell.Matching
import Retouch.Shell.Program
import Retouch.Shell.Reader
import Retouch.Shell.Redirect
import Retouch.Shell.Regex
import Retouch.Shell.Run
import Retouch.Shell.Script
import Retouch.Shell.Signal
import Retouch.Shell.State
import Retouch.Shell.Utility.Basic
import Retouch.Shell.Utility.Catalog
import Retouch.Shell.Utility.Characters
import Retouch.Shell.Utility.Files
import Retouch.Shell.Utility.Listing
import Retouch.Shell.Utility.Modes
import Retouch.Shell.Utility.Numbers
import Retouch.Shell.Utility.Paths
import Retouch.Shell.Utility.Searching
import Retouch.Shell.Utility.Sed
import Retouch.Shell.Utility.SedScript
import Retouch.Shell.Utility.Sorting
import Retouch.Shell.Utility.Texts
import Retouch.Shell.Utility.Words
import Retouch.Shell.Wrapper
import Retouch.Source
import Retouch.Text.Basic
import Retouch.Text.Bytes
import Retouch.Text.Case
import Retouch.Text.CaseTable
import Retouch.Text.Columns
import Retouch.Text.HiddenTable
import Retouch.Text.Octets
import Retouch.Text.Quoted
import Retouch.Text.Ranges
import Retouch.Text.Word
import Retouch.Text.WordTable
import Retouch.Toml.Basic
import Retouch.Toml.Date
import Retouch.Toml.Reader
import Retouch.Verify.Launch
import Retouch.Verify.Outcome
import Retouch.Verify.Toolchain
import Retouch.Verify.Trial
import Retouch.Proofs.Diagnostics
import Retouch.Proofs.Nearest
import Retouch.Proofs.Sums
import Retouch.Proofs.Expressions
import Retouch.Proofs.JsonText
import Retouch.Proofs.Corpora
import Retouch.Proofs.SumChains
import Retouch.Proofs.Braces
import Retouch.Proofs.Identifiers
import Retouch.Proofs.UnusedVariables
import Retouch.Proofs.Junctions
import Retouch.Proofs.WholeWords
import Retouch.Proofs.CountingLoops
import Retouch.Proofs.Increments
import Retouch.Proofs.BlankLines
import Retouch.Proofs.CommentFree
import Retouch.Proofs.Idempotence
import Retouch.Proofs.Statements
import Retouch.Proofs.FoldingRounds
import Retouch.Proofs.IdentifierRuns
import Retouch.Proofs.Context
import Retouch.Proofs.DropsFirst
import Retouch.Proofs.ExactTexts
import Retouch.Proofs.Spans
import Retouch.Proofs.Placeholders
import Retouch.Proofs.Projection
import Retouch.Proofs.InnerProducts
import Retouch.Proofs.CheckedSearch
import Retouch.Proofs.JsonReading
import Retouch.Proofs.SharedFrontiers
import Retouch.Proofs.RecordLines
import Retouch.Proofs.TokenRuns
