import ApiSamples.Main
import ApiSamples.Settings.Schema
import ApiSamples.Proofs.Text.Basic
import ApiSamples.Proofs.Files.Path
import ApiSamples.Proofs.Files.Resolution
import ApiSamples.Proofs.Sample.Batching
import ApiSamples.Proofs.Files.Replacement
import ApiSamples.Proofs.Files.Sequence
import ApiSamples.Proofs.Files.Frame
import ApiSamples.Proofs.Output.Programs
import ApiSamples.Proofs.Output.Retention
import ApiSamples.Proofs.Files.Descent
import ApiSamples.Proofs.Output.Confinement
import ApiSamples.Proofs.Json.Quoted
import ApiSamples.Proofs.Literal.Scanner
import ApiSamples.Proofs.Literal.Token
import ApiSamples.Proofs.Number.Characters
import ApiSamples.Proofs.Literal.Scalar
import ApiSamples.Proofs.Literal.Entries
import ApiSamples.Proofs.Literal.Layout
import ApiSamples.Proofs.Literal.Synthesis
import ApiSamples.Proofs.Text.Casing
import ApiSamples.Proofs.Text.Lines
import ApiSamples.Proofs.Sample.Script
import ApiSamples.Proofs.Sample.Arguments
import ApiSamples.Proofs.Sample.Names
import ApiSamples.Proofs.Sample.Variables
import ApiSamples.Proofs.Sample.Comment
import ApiSamples.Proofs.Output.Fragments
import ApiSamples.Proofs.Json.Printed
import ApiSamples.Proofs.Literal.Lines
import ApiSamples.Proofs.Sample.Guard
import ApiSamples.Proofs.Sample.Modes
import ApiSamples.Proofs.Model.Defects
import ApiSamples.Proofs.Output.Refusal
import ApiSamples.Proofs.Literal.Traversal
import ApiSamples.Proofs.Sample.Declared
import ApiSamples.Proofs.Sample.Reports
import ApiSamples.Proofs.Output.Accounting
import ApiSamples.Proofs.Output.Agreement
import ApiSamples.Proofs.Json.Parts
import ApiSamples.Proofs.Literal.Nesting
import ApiSamples.Proofs.Files.Outcome
import ApiSamples.Proofs.Files.Atomicity
import ApiSamples.Proofs.Files.Interruption
import ApiSamples.Proofs.Output.Interruption
import ApiSamples.Proofs.Json.Scanning
import ApiSamples.Proofs.Json.Reading
import ApiSamples.Proofs.Model.RoundTrip
import ApiSamples.Proofs.Number.Decimal
import ApiSamples.Proofs.Literal.Numbers
import ApiSamples.Proofs.Literal.Visits
import ApiSamples.Proofs.Literal.Closure
import ApiSamples.Proofs.Text.Indentation
import ApiSamples.Proofs.Text.Margins
import ApiSamples.Proofs.Literal.Strings
import ApiSamples.Proofs.Literal.Margins
import ApiSamples.Proofs.Literal.Words
import ApiSamples.Proofs.Literal.Nulls
import ApiSamples.Proofs.Literal.Spelling
import ApiSamples.Proofs.Sample.Recorded
import ApiSamples.Proofs.Sample.Suppression
import ApiSamples.Proofs.Sample.Footprint
import ApiSamples.Proofs.Json.Address
import ApiSamples.Proofs.Sample.Hiding
import ApiSamples.Proofs.Json.Brackets
import ApiSamples.Proofs.Sample.Freshness
import ApiSamples.Proofs.Sample.Stars
import ApiSamples.Proofs.Sample.Prelude
import ApiSamples.Proofs.Output.Reservations
import ApiSamples.Proofs.Text.Recasing
import ApiSamples.Proofs.Output.Preview
import ApiSamples.Proofs.Settings.Override
import ApiSamples.Proofs.Diagnostic.Interleaving
