import NamedParams.Arguments
import NamedParams.Command.Check
import NamedParams.Command.Explain
import NamedParams.CommandLine.Help
import NamedParams.CommandLine.Invocation
import NamedParams.CommandLine.Option
import NamedParams.CommandLine.Reader
import NamedParams.CommandLine.Similar
import NamedParams.CompilerSettings
import NamedParams.Config
import NamedParams.Config.File
import NamedParams.Config.Search
import NamedParams.Config.Session
import NamedParams.Detector
import NamedParams.Detector.Step
import NamedParams.Environment
import NamedParams.Failure
import NamedParams.FileSearch
import NamedParams.FileTree
import NamedParams.Finding
import NamedParams.Glob.Base
import NamedParams.Glob.Brace
import NamedParams.Glob.Filter
import NamedParams.Glob.Piece
import NamedParams.Glob.Search
import NamedParams.Glob.Segment
import NamedParams.Instant
import NamedParams.Json.Plain
import NamedParams.Json.Printer
import NamedParams.Json.Reader
import NamedParams.Json.Value
import NamedParams.Log
import NamedParams.Main
import NamedParams.Model
import NamedParams.Number.Decimal
import NamedParams.Number.Nearest
import NamedParams.Number.Numeral
import NamedParams.Path
import NamedParams.Presentation
import NamedParams.Program
import NamedParams.Rule
import NamedParams.RuleInfo
import NamedParams.Source.Characters
import NamedParams.Source.Cursor
import NamedParams.Source.Decorators
import NamedParams.Source.File
import NamedParams.Source.Functions
import NamedParams.Source.Grammar
import NamedParams.Source.Grammar.Basic
import NamedParams.Source.Grammar.Binding
import NamedParams.Source.Grammar.Elements
import NamedParams.Source.Grammar.Expressions
import NamedParams.Source.Grammar.Functions
import NamedParams.Source.Grammar.Statements
import NamedParams.Source.Grammar.Types
import NamedParams.Source.Imports
import NamedParams.Source.Lexeme
import NamedParams.Source.Literal
import NamedParams.Source.Token
import NamedParams.Source.Tree
import NamedParams.Terminal.Picture
import NamedParams.Terminal.Slice
import NamedParams.Terminal.Style
import NamedParams.Terminal.Table
import NamedParams.Terminal.Width
import NamedParams.Text.Blank
import NamedParams.Text.Escape
import NamedParams.Text.Position
import NamedParams.Text.Units
import NamedParams.Yaml.Cursor
import NamedParams.Yaml.Document
import NamedParams.Yaml.Node
import NamedParams.Yaml.Reader
import NamedParams.Yaml.Scalar
import NamedParams.Yaml.Tag
import NamedParams.Yaml.Text
import NamedParams.Proofs.Text.LinePosition
import NamedParams.Proofs.Rule.RequiredReports
import NamedParams.Proofs.Source.NamedElements
import NamedParams.Proofs.Source.Assertions
import NamedParams.Proofs.Source.Resolution
import NamedParams.Proofs.Detector.FileFindings
import NamedParams.Proofs.Detector.FindingOrder
import NamedParams.Proofs.Detector.CheckedFiles
import NamedParams.Proofs.Detector.SortedFindings
import NamedParams.Proofs.Detector.SettledImports
import NamedParams.Proofs.Detector.FreshDetector
import NamedParams.Proofs.Source.Nesting
import NamedParams.Proofs.Detector.CountedFunctions
import NamedParams.Proofs.Rule.BrokenRuns
import NamedParams.Proofs.Files.Places
import NamedParams.Proofs.Files.Kinds
import NamedParams.Proofs.Glob.PlainText
import NamedParams.Proofs.Glob.Anywhere
import NamedParams.Proofs.Files.Search
import NamedParams.Proofs.Files.Inward
import NamedParams.Proofs.Files.Exclusions
import NamedParams.Proofs.Files.Targets
import NamedParams.Proofs.Files.LeftOut
import NamedParams.Proofs.Files.TargetLists
import NamedParams.Proofs.Files.Directories
import NamedParams.Proofs.Command.FoundFiles
import NamedParams.Proofs.Detector.AssertionNames
import NamedParams.Proofs.Source.ImportOrder
import NamedParams.Proofs.Command.ExitStatus
import NamedParams.Proofs.Detector.ExcludedPaths
import NamedParams.Proofs.Outcomes
import NamedParams.Proofs.Config.Recall
import NamedParams.Proofs.Config.FirstSuccess
import NamedParams.Proofs.Config.Retry
import NamedParams.Proofs.Config.Settings
import NamedParams.Proofs.Config.ReadFiles
import NamedParams.Proofs.Config.Failures
import NamedParams.Proofs.Json.DecimalText
import NamedParams.Proofs.Json.RoundTrip
import NamedParams.Proofs.Command.DataRuns
import NamedParams.Proofs.Command.ShownAlike
import NamedParams.Proofs.Command.DataChannel
import NamedParams.Proofs.Source.BuiltParameters
import NamedParams.Proofs.Source.ParameterPositions
import NamedParams.Proofs.Detector.AskedImports
import NamedParams.Proofs.Detector.TextAnswers
import NamedParams.Proofs.Detector.GivenPaths
import NamedParams.Proofs.Command.EffectiveNames
import NamedParams.Proofs.Json.HeldNumbers
import NamedParams.Proofs.Json.Records
import NamedParams.Proofs.Json.ResultDocument
import NamedParams.Proofs.Rule.Outlines
import NamedParams.Proofs.Rule.ReworkedBodies
import NamedParams.Proofs.Rule.Remedies
import NamedParams.Proofs.Rule.Questions
import NamedParams.Proofs.Presentation.ShownPaths
import NamedParams.Proofs.Source.ImportTable
import NamedParams.Proofs.Presentation.LimitedReports
import NamedParams.Proofs.Detector.RenamedFindings
import NamedParams.Proofs.Arguments.WrittenLists
import NamedParams.Proofs.Arguments.PositiveNumbers
