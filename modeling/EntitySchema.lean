import EntitySchema.Value.Reader
import EntitySchema.Json.Reader
import EntitySchema.Json.Writer
import EntitySchema.Model.Document
import EntitySchema.Config.Document
import EntitySchema.Compilation
import EntitySchema.Proofs.Value.SourceFrame
import EntitySchema.Proofs.AttributeType
import EntitySchema.Proofs.Schema.Lookup
import EntitySchema.Proofs.Value.Acceptance
import EntitySchema.Proofs.Compilation.Bindings
import EntitySchema.Proofs.WalkDepth
import EntitySchema.Proofs.Derivation
import EntitySchema.Proofs.Renaming.Graph
import EntitySchema.Proofs.Renaming.Compilation
import EntitySchema.Proofs.Model.Numbers
import EntitySchema.Proofs.Json.Fields
import EntitySchema.Proofs.Model.RoundTrip
import EntitySchema.Proofs.Compilation.Failure
import EntitySchema.Proofs.Schema.Content
import EntitySchema.Proofs.Compilation.Writability
import EntitySchema.Proofs.Compilation.Lines
import EntitySchema.Proofs.Compilation.Blocks
import EntitySchema.Proofs.Constraint
import EntitySchema.Proofs.Number.Order
import EntitySchema.Proofs.Validator.Checking
import EntitySchema.Proofs.Validator.Readability
import EntitySchema.Proofs.Validator.PlainShape
import EntitySchema.Proofs.Nullability
import EntitySchema.Proofs.ScalarChain
import EntitySchema.Proofs.Schema.References
import EntitySchema.Proofs.ExpressionStep
import EntitySchema.Proofs.TypeForm
import EntitySchema.Proofs.TypeReading
import EntitySchema.Proofs.Inheritance
import EntitySchema.Proofs.Value.StringLiteral
import EntitySchema.Proofs.Value.Numbers
import EntitySchema.Proofs.Value.CanonicalText
import EntitySchema.Proofs.Number.Overflow
import EntitySchema.Proofs.Value.Normalisation
import EntitySchema.Proofs.Number.Equality
import EntitySchema.Proofs.Value.Faults
import EntitySchema.Proofs.Value.Equality
import EntitySchema.Proofs.WellFormedType
import EntitySchema.Proofs.Compilation.Imports
import EntitySchema.Proofs.AttributeEquality
import EntitySchema.Proofs.InsertionOrder
import EntitySchema.Proofs.Model.Growth
import EntitySchema.Proofs.WalkTermination
import EntitySchema.Proofs.Value.Boundaries
import EntitySchema.Proofs.Value.QuotedText
