import ExtractionSchema.Agent
import ExtractionSchema.CommandLine.Arguments
import ExtractionSchema.CommandLine.Display
import ExtractionSchema.CommandLine.Files
import ExtractionSchema.CommandLine.Markup
import ExtractionSchema.CommandLine.Request
import ExtractionSchema.CommandLine.Run
import ExtractionSchema.Compilation
import ExtractionSchema.Contract.Author
import ExtractionSchema.Contract.Basic
import ExtractionSchema.Contract.Violation
import ExtractionSchema.Conversion
import ExtractionSchema.Document
import ExtractionSchema.Failure
import ExtractionSchema.Gate
import ExtractionSchema.Location
import ExtractionSchema.Log
import ExtractionSchema.Main
import ExtractionSchema.Number.Basic
import ExtractionSchema.Number.Rounding
import ExtractionSchema.Number.Shortest
import ExtractionSchema.Number.Text
import ExtractionSchema.Prompt
import ExtractionSchema.Proofs.Agent.Acceptance
import ExtractionSchema.Proofs.Agent.FirstBreach
import ExtractionSchema.Proofs.Agent.Order
import ExtractionSchema.Proofs.CommandLine.Conversion
import ExtractionSchema.Proofs.CommandLine.Files
import ExtractionSchema.Proofs.Compilation.NormalForm
import ExtractionSchema.Proofs.Contract.Acceptance
import ExtractionSchema.Proofs.Contract.Author
import ExtractionSchema.Proofs.Contract.Demands
import ExtractionSchema.Proofs.Contract.Issues
import ExtractionSchema.Proofs.Contract.Reordered
import ExtractionSchema.Proofs.Contract.Showable
import ExtractionSchema.Proofs.Contract.Sorted
import ExtractionSchema.Proofs.Conversion.Rearranged
import ExtractionSchema.Proofs.Conversion.Relaxation
import ExtractionSchema.Proofs.Conversion.RoundTrip
import ExtractionSchema.Proofs.Conversion.StandsFor
import ExtractionSchema.Proofs.Conversion.Success
import ExtractionSchema.Proofs.Conversion.WellFormed
import ExtractionSchema.Proofs.Conversion.Written
import ExtractionSchema.Proofs.Gate.Completion
import ExtractionSchema.Proofs.Gate.Depth
import ExtractionSchema.Proofs.Gate.Partition
import ExtractionSchema.Proofs.Gate.Shallow
import ExtractionSchema.Proofs.Location
import ExtractionSchema.Proofs.Number.Exact
import ExtractionSchema.Proofs.Prompt.Assembly
import ExtractionSchema.Proofs.Prompt.Completion
import ExtractionSchema.Proofs.Prompt.DataBlock
import ExtractionSchema.Proofs.Prompt.Decoded
import ExtractionSchema.Proofs.Prompt.Guidance
import ExtractionSchema.Proofs.Prompt.Truncations
import ExtractionSchema.Proofs.Property.Compilable
import ExtractionSchema.Proofs.Property.Conformance
import ExtractionSchema.Proofs.Property.Duplicates
import ExtractionSchema.Proofs.Property.InMemory
import ExtractionSchema.Proofs.Property.Plain
import ExtractionSchema.Proofs.Property.Reread
import ExtractionSchema.Proofs.Property.WellFormed
import ExtractionSchema.Proofs.Reading.Items
import ExtractionSchema.Proofs.Reading.Showable
import ExtractionSchema.Proofs.Record.Absence
import ExtractionSchema.Proofs.Record.Conformance
import ExtractionSchema.Proofs.Record.Missing
import ExtractionSchema.Proofs.Record.Reordered
import ExtractionSchema.Proofs.Record.Reported
import ExtractionSchema.Proofs.StableSort
import ExtractionSchema.Proofs.Text.Quoted
import ExtractionSchema.Proofs.Value.Document
import ExtractionSchema.Proofs.Value.Entries
import ExtractionSchema.Proofs.Value.Equality
import ExtractionSchema.Proofs.Value.Json.Decoded
import ExtractionSchema.Proofs.Value.Json.Lines
import ExtractionSchema.Proofs.Value.Json.Numbers
import ExtractionSchema.Proofs.Value.Json.Plain
import ExtractionSchema.Proofs.Value.Json.Restored
import ExtractionSchema.Proofs.Value.Json.Size
import ExtractionSchema.Proofs.Value.Json.Strings
import ExtractionSchema.Proofs.Value.Json.Written
import ExtractionSchema.Proofs.Value.Reordered
import ExtractionSchema.Proofs.View.Algebra
import ExtractionSchema.Proofs.View.Fields
import ExtractionSchema.Proofs.View.Json
import ExtractionSchema.Proofs.View.Relaxation
import ExtractionSchema.Proofs.View.Separation
import ExtractionSchema.Proofs.Wire.Acceptance
import ExtractionSchema.Proofs.Wire.Agreement
import ExtractionSchema.Proofs.Wire.Authored
import ExtractionSchema.Proofs.Wire.Bare
import ExtractionSchema.Proofs.Wire.Contents
import ExtractionSchema.Proofs.Wire.DisplayOrder
import ExtractionSchema.Proofs.Wire.Grammar
import ExtractionSchema.Proofs.Wire.Literals
import ExtractionSchema.Proofs.Wire.NormalForm
import ExtractionSchema.Proofs.Wire.Reads
import ExtractionSchema.Proofs.Wire.Rearranged
import ExtractionSchema.Proofs.Wire.Reread
import ExtractionSchema.Proofs.Wire.Unknown
import ExtractionSchema.Proofs.Wire.Unreadable
import ExtractionSchema.Proofs.Wire.Written
import ExtractionSchema.Property.Basic
import ExtractionSchema.Property.Printer
import ExtractionSchema.Property.Reader
import ExtractionSchema.Reading.Checked
import ExtractionSchema.Reading.Coercion
import ExtractionSchema.Reading.Fault
import ExtractionSchema.Record.Contract
import ExtractionSchema.Record.Validation
import ExtractionSchema.Settings
import ExtractionSchema.Text.Base64
import ExtractionSchema.Text.Blank
import ExtractionSchema.Text.Capped
import ExtractionSchema.Text.Cells
import ExtractionSchema.Text.ControlSequences
import ExtractionSchema.Text.Decoding
import ExtractionSchema.Text.Digits
import ExtractionSchema.Text.Emoji
import ExtractionSchema.Text.EmojiNames
import ExtractionSchema.Text.Infix
import ExtractionSchema.Text.Lowercase
import ExtractionSchema.Text.Printable
import ExtractionSchema.Text.Quoted
import ExtractionSchema.Text.Uppercase
import ExtractionSchema.Text.Wrapping
import ExtractionSchema.Value.Basic
import ExtractionSchema.Value.Date
import ExtractionSchema.Value.Elements
import ExtractionSchema.Value.Equality
import ExtractionSchema.Value.Json.Printer
import ExtractionSchema.Value.Json.Reader
import ExtractionSchema.Value.Literal
import ExtractionSchema.View
import ExtractionSchema.Wire.Node
import ExtractionSchema.Wire.Printer
import ExtractionSchema.Wire.Reader
import ExtractionSchema.Yaml.Cursor
import ExtractionSchema.Yaml.Document
import ExtractionSchema.Yaml.Fault
import ExtractionSchema.Yaml.Graph
import ExtractionSchema.Yaml.Lexer
import ExtractionSchema.Yaml.Node
import ExtractionSchema.Yaml.Scalar
import ExtractionSchema.Yaml.ScalarValue
import ExtractionSchema.Yaml.Tag
import ExtractionSchema.Yaml.Token
