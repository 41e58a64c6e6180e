import CommandLine.Conversion.Simple
import CommandLine.Main
import CommandLine.Proofs.Binding.Exactness
import CommandLine.Proofs.Chain.Meaning
import CommandLine.Proofs.Substitution.Evaluation
import CommandLine.Proofs.Substitution.Termination
import CommandLine.Script
import CommandLine.Proofs.Binding.Internals
import CommandLine.Proofs.Invocation.SingleStage
import CommandLine.Proofs.Fallible
import CommandLine.Proofs.Invocation.Preparation
import CommandLine.Proofs.Chain.Record
import CommandLine.Proofs.Chain.Stage
import CommandLine.Proofs.Invocation.Order
import CommandLine.Proofs.Binding.Late
import CommandLine.Proofs.Catalog.Origin
import CommandLine.Proofs.Chain.Stock
import CommandLine.Proofs.Program.Check
import CommandLine.Proofs.Binding.Shapes
import CommandLine.Proofs.Line.Exactness
import CommandLine.Proofs.Substitution.Cycles
import CommandLine.Proofs.Line.Quoting
import CommandLine.Proofs.Binding.Rearrangement
import CommandLine.Proofs.Invocation.Pipeline
import CommandLine.Proofs.Chain.Raised
import CommandLine.Proofs.Invocation.BuildTime
import CommandLine.Proofs.Binding.Reached
import CommandLine.Proofs.Substitution.Plain
import CommandLine.Proofs.Program.Layers
import CommandLine.Proofs.Program.Precedence
import CommandLine.Proofs.Registry.Places
import CommandLine.Proofs.Registry.Exactness
import CommandLine.Proofs.Binding.Required
import CommandLine.Proofs.Binding.Nested
import CommandLine.Proofs.Binding.Given
import CommandLine.Proofs.Binding.Records
import CommandLine.Proofs.Line.Composition
import CommandLine.Proofs.Resolver.Sources
import CommandLine.Proofs.Resolver.Prefixes
import CommandLine.Proofs.Resolver.Overrides
import CommandLine.Proofs.Text.Uppercase
import CommandLine.Proofs.Catalog.Constants
import CommandLine.Proofs.Substitution.Literal
import CommandLine.Proofs.Binding.Globals
import CommandLine.Proofs.Binding.Remaining
import CommandLine.Proofs.Binding.Turns
import CommandLine.Proofs.Binding.Defaults
import CommandLine.Proofs.Decimal.Numeral
import CommandLine.Proofs.Decimal.Number
import CommandLine.Proofs.Text.EditDistance
import CommandLine.Proofs.Binding.Integers
import CommandLine.Proofs.Text.Trimming
import CommandLine.Proofs.Binding.Partition
import CommandLine.Proofs.Registry.Suggestion
import CommandLine.Proofs.Catalog.TypeNames
import CommandLine.Proofs.Catalog.Declared
import CommandLine.Proofs.Catalog.Resolution
import CommandLine.Proofs.Catalog.Canonical
import CommandLine.Proofs.Conversion.Kinds
import CommandLine.Proofs.Conversion.Idempotence
import CommandLine.Proofs.Binding.Accounting
import CommandLine.Proofs.Substitution.Nesting
