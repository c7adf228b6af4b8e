import ParameterTemplates.Text.Basic
import ParameterTemplates.Text.Visible
import ParameterTemplates.Text.Quoted
import ParameterTemplates.Text.Plain
import ParameterTemplates.Number.Binary64
import ParameterTemplates.Number.Numeral
import ParameterTemplates.Number.Shortest
import ParameterTemplates.Number.Format
import ParameterTemplates.Json.Basic
import ParameterTemplates.Json.Number
import ParameterTemplates.Json.Reader
import ParameterTemplates.Template.Reference
import ParameterTemplates.Template.Operand
import ParameterTemplates.Template.Shape
import ParameterTemplates.Template.Grammar
import ParameterTemplates.Value.ValueType
import ParameterTemplates.Value.Bindings
import ParameterTemplates.Value.Scalar
import ParameterTemplates.Value.Literal
import ParameterTemplates.Value.Parameter
import ParameterTemplates.Resolution.Error
import ParameterTemplates.Resolution.Traced
import ParameterTemplates.Resolution.Reading
import ParameterTemplates.Resolution.Evaluation
import ParameterTemplates.Resolution.Resolve
import ParameterTemplates.Command.Request
import ParameterTemplates.Command.Load
import ParameterTemplates.Command.Run
import ParameterTemplates.Main
import ParameterTemplates.Proofs.Blanks
import ParameterTemplates.Proofs.Reference
import ParameterTemplates.Proofs.Operand
import ParameterTemplates.Proofs.Grammar
import ParameterTemplates.Proofs.OpenQuestion
import ParameterTemplates.Proofs.Outcome
import ParameterTemplates.Proofs.Classification
import ParameterTemplates.Proofs.Numerals
import ParameterTemplates.Proofs.Literal
import ParameterTemplates.Proofs.StringConditions
import ParameterTemplates.Proofs.Concatenation
import ParameterTemplates.Proofs.RightSide
import ParameterTemplates.Proofs.Precedence
import ParameterTemplates.Proofs.Reads
import ParameterTemplates.Proofs.ReferencedNames
import ParameterTemplates.Proofs.Noninterference
import ParameterTemplates.Proofs.Faults
import ParameterTemplates.Proofs.EntryPoints
import ParameterTemplates.Proofs.Marks
import ParameterTemplates.Proofs.Spelling
import ParameterTemplates.Proofs.Conditions
import ParameterTemplates.Proofs.OutcomeLaw
import ParameterTemplates.Proofs.Provenance
import ParameterTemplates.Proofs.LogTrace
import ParameterTemplates.Proofs.Assignments
import ParameterTemplates.Proofs.CheckedRuns
import ParameterTemplates.Proofs.Verbatim
import ParameterTemplates.Proofs.Equivalence
import ParameterTemplates.Proofs.Comparison
import ParameterTemplates.Proofs.LiteralTypes
import ParameterTemplates.Proofs.Culprit
import ParameterTemplates.Proofs.Rounding
import ParameterTemplates.Proofs.NumberLiterals
import ParameterTemplates.Proofs.ReferenceGuard
import ParameterTemplates.Proofs.ScalarDocuments
import ParameterTemplates.Proofs.Overrides
import ParameterTemplates.Proofs.InlineValues
import ParameterTemplates.Proofs.Integers
import ParameterTemplates.Proofs.ShortestDecimal
import ParameterTemplates.Proofs.PrintedNumbers
