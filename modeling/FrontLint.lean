import FrontLint.Block.Component
import FrontLint.Block.Span
import FrontLint.Block.Tag
import FrontLint.Catalog.Builtin
import FrontLint.Catalog.Entry
import FrontLint.Catalog.Load
import FrontLint.Catalog.Source
import FrontLint.Classifier
import FrontLint.Command.Arguments
import FrontLint.Command.Check
import FrontLint.Command.Outcome
import FrontLint.Command.Rules
import FrontLint.Command.Run
import FrontLint.Command.Setup
import FrontLint.Decimal.Shortest
import FrontLint.Directive
import FrontLint.Exclusions
import FrontLint.FileKind
import FrontLint.FileSystem.Basic
import FrontLint.FileSystem.Tree
import FrontLint.Finding
import FrontLint.Glob
import FrontLint.JsonValue
import FrontLint.Main
import FrontLint.Paint
import FrontLint.Parse
import FrontLint.Pass.Line
import FrontLint.Pass.Span
import FrontLint.Path
import FrontLint.Pattern.Accepted
import FrontLint.Pattern.CharClass
import FrontLint.Pattern.Direct
import FrontLint.Pattern.Flags
import FrontLint.Pattern.Footprint
import FrontLint.Pattern.Grammar
import FrontLint.Pattern.Look
import FrontLint.Pattern.Match
import FrontLint.Pattern.Program
import FrontLint.Pattern.Property
import FrontLint.Pattern.Property.Age
import FrontLint.Pattern.Property.Binary
import FrontLint.Pattern.Property.Case
import FrontLint.Pattern.Property.Emoji
import FrontLint.Pattern.Property.Extension
import FrontLint.Pattern.Property.Script
import FrontLint.Pattern.Property.Segment
import FrontLint.Pattern.Property.Trait
import FrontLint.Pattern.Regex
import FrontLint.Pattern.Token
import FrontLint.Pattern.Trail
import FrontLint.Pattern.Utf8
import FrontLint.Position
import FrontLint.Preview
import FrontLint.Report.Basic
import FrontLint.Report.Plain
import FrontLint.Report.Structured
import FrontLint.Rule.Attributes
import FrontLint.Rule.Basic
import FrontLint.Rule.Table
import FrontLint.Scan.Basic
import FrontLint.Scan.Batch
import FrontLint.Scan.Discovery
import FrontLint.Settings.Basic
import FrontLint.Settings.Search
import FrontLint.Strip.Markup
import FrontLint.Strip.Run
import FrontLint.Strip.Script
import FrontLint.Strip.State
import FrontLint.Strip.Style
import FrontLint.Text.Alphabetic
import FrontLint.Text.Basic
import FrontLint.Text.Blank
import FrontLint.Text.CaseFold
import FrontLint.Text.Category
import FrontLint.Text.Category.Invisible
import FrontLint.Text.Category.Letter
import FrontLint.Text.Category.Mark
import FrontLint.Text.Category.Number
import FrontLint.Text.Category.Punctuation
import FrontLint.Text.Category.Symbol
import FrontLint.Text.CharSet
import FrontLint.Text.Extender
import FrontLint.Text.Hex
import FrontLint.Text.Printable
import FrontLint.Text.Quoted
import FrontLint.Text.Recent
import FrontLint.Text.Word
import FrontLint.Toml.Document
import FrontLint.Toml.Reader
import FrontLint.Toml.Shape
import FrontLint.Toml.Value
import FrontLint.Validator
import FrontLint.Proofs.Text.Boundary
import FrontLint.Proofs.Text.Offset
import FrontLint.Proofs.Strip.Layout
import FrontLint.Proofs.Block.Reading
import FrontLint.Proofs.Block.Merge
import FrontLint.Proofs.Block.Sequential
import FrontLint.Proofs.Block.Partition
import FrontLint.Proofs.Strip.Extent
import FrontLint.Proofs.Strip.Segment
import FrontLint.Proofs.Block.Overlay
import FrontLint.Proofs.Pattern.Literal
import FrontLint.Proofs.Pattern.Occurrence
import FrontLint.Proofs.Scan.Places
import FrontLint.Proofs.Directive.Silence
import FrontLint.Proofs.Pass.Cleaning
import FrontLint.Proofs.Pass.Hits
import FrontLint.Proofs.Pass.Skipping
import FrontLint.Proofs.Pass.Spans
import FrontLint.Proofs.Report.Order
import FrontLint.Proofs.Scan.Batch
import FrontLint.Proofs.Scan.Configured
import FrontLint.Proofs.Directive.Reading
import FrontLint.Proofs.Strip.Retouch
import FrontLint.Proofs.Scan.Inert
import FrontLint.Proofs.Directive.Parts
import FrontLint.Proofs.Scan.Skips
import FrontLint.Proofs.Scan.Suppression
import FrontLint.Proofs.Strip.Markup
import FrontLint.Proofs.Scan.Comments
import FrontLint.Proofs.Rule.Distinct
import FrontLint.Proofs.Scan.Regions
import FrontLint.Proofs.Scan.Unrepeated
import FrontLint.Proofs.Pass.Relocation
import FrontLint.Proofs.Scan.Embedded
import FrontLint.Proofs.Pattern.Escape
import FrontLint.Proofs.Pass.Agreement
import FrontLint.Proofs.Path.Components
import FrontLint.Proofs.Scan.Root
import FrontLint.Proofs.Json.Compact
import FrontLint.Proofs.Report.Records
import FrontLint.Proofs.Path.Names
import FrontLint.Proofs.Path.Order
import FrontLint.Proofs.Scan.Discovery
import FrontLint.Proofs.FileSystem.Grove
import FrontLint.Proofs.Settings.Search
import FrontLint.Proofs.Strip.Rerun
import FrontLint.Proofs.Strip.Whole
import FrontLint.Proofs.Block.Regions
import FrontLint.Proofs.Block.Slices
import FrontLint.Proofs.Pass.Runs
import FrontLint.Proofs.Pass.Cut
import FrontLint.Proofs.Validator.Argument
import FrontLint.Proofs.Directive.Spelling
import FrontLint.Proofs.Pattern.Sweep
import FrontLint.Proofs.Text.Preview
import FrontLint.Proofs.Traversal
import FrontLint.Proofs.Catalog.Build
import FrontLint.Proofs.Validator.Address
import FrontLint.Proofs.Toml.Distinct
import FrontLint.Proofs.Settings.Warnings
