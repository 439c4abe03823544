import Reshape.Arguments
import Reshape.Binary64
import Reshape.Binary64.Decimal
import Reshape.Binary64.Shortest
import Reshape.Binary64.Text
import Reshape.Command
import Reshape.Definition
import Reshape.Definition.Reader
import Reshape.Definition.Text
import Reshape.Error
import Reshape.Event
import Reshape.Failure
import Reshape.Files
import Reshape.Files.Document
import Reshape.Form
import Reshape.Form.Choice
import Reshape.Journal
import Reshape.Json.Cursor
import Reshape.Json.Fault
import Reshape.Json.Numeral
import Reshape.Json.Reader
import Reshape.Json.Shaped
import Reshape.Json.Skip
import Reshape.Json.Writer
import Reshape.Logging
import Reshape.Logging.Filter
import Reshape.Main
import Reshape.Mapper
import Reshape.Pattern
import Reshape.Pattern.Reader
import Reshape.Plan
import Reshape.Plan.Build
import Reshape.Plan.Output
import Reshape.Program
import Reshape.Proofs.Fields
import Reshape.Proofs.Mapper
import Reshape.Proofs.Outcome
import Reshape.Proofs.Plan.Agreement
import Reshape.Proofs.Plan.Assembly
import Reshape.Proofs.Plan.Calls
import Reshape.Proofs.Plan.Conformance
import Reshape.Proofs.Plan.Mirror
import Reshape.Proofs.Plan.Tree
import Reshape.Proofs.Plan.WellFormed
import Reshape.Proofs.Schema
import Reshape.Report.Color
import Reshape.Report.Tree
import Reshape.Report.Writer
import Reshape.Schema
import Reshape.Session
import Reshape.Settings
import Reshape.Settings.File
import Reshape.Text.Case
import Reshape.Text.CaseTable
import Reshape.Text.Mark
import Reshape.Text.Property
import Reshape.Text.Quoted
import Reshape.Text.Space
import Reshape.Toml.Content
import Reshape.Toml.Fault
import Reshape.Toml.Moment
import Reshape.Toml.Numeral
import Reshape.Toml.Place
import Reshape.Toml.Quoted
import Reshape.Toml.Reader
import Reshape.Toml.Statement
import Reshape.Toml.Table
import Reshape.Transform
import Reshape.Transform.Builtin
import Reshape.Transform.Registry
import Reshape.Transform.Table
import Reshape.Value
import Reshape.Value.Found
import Reshape.Yaml.BlockScalar
import Reshape.Yaml.Character
import Reshape.Yaml.Fault
import Reshape.Yaml.Lexeme
import Reshape.Yaml.Node
import Reshape.Yaml.Reader
import Reshape.Yaml.Scalar
import Reshape.Yaml.Spelling
import Reshape.Yaml.Tag
import Reshape.Yaml.Writer
import Reshape.Proofs.Plan.Extension
import Reshape.Proofs.Plan.Inlining
import Reshape.Proofs.Session
import Reshape.Proofs.Plan.Reordering
import Reshape.Proofs.Plan.KeyOrder
import Reshape.Proofs.Plan.Relabelling
import Reshape.Proofs.Plan.Key
import Reshape.Proofs.Plan.Embedding
import Reshape.Proofs.Definition.Grammar
import Reshape.Proofs.Definition.Fault
import Reshape.Proofs.Plan.Fault
import Reshape.Proofs.Transform
import Reshape.Proofs.Phase
import Reshape.Proofs.Plan.ApplyEvents
import Reshape.Proofs.Plan.BuildEvents
import Reshape.Proofs.Command.Files
import Reshape.Proofs.Command.Text
import Reshape.Proofs.Command.Exit
import Reshape.Proofs.Plan.Composition
import Reshape.Proofs.Plan.Elements
import Reshape.Proofs.Plan.Vanishing
import Reshape.Proofs.Command.Origin
import Reshape.Proofs.Keys
import Reshape.Proofs.Plan.Targets
import Reshape.Proofs.Plan.Wrapping
import Reshape.Proofs.Binary64
import Reshape.Proofs.Text.Decimal
import Reshape.Proofs.Transform.Integer
import Reshape.Proofs.Binary64.Whole
import Reshape.Proofs.Transform.Whole
import Reshape.Proofs.Report.Line
import Reshape.Proofs.Report.Outline
import Reshape.Proofs.Schema.Serialized
import Reshape.Proofs.Report.Recovery
import Reshape.Proofs.Transform.Registry
import Reshape.Proofs.Plan.Reading
