import ShapeCheck.Batch
import ShapeCheck.Check
import ShapeCheck.Class
import ShapeCheck.Decoding.Basic
import ShapeCheck.Decoding.Decode
import ShapeCheck.Document.Basic
import ShapeCheck.Entries
import ShapeCheck.Failure.Basic
import ShapeCheck.Failure.Render
import ShapeCheck.Instant
import ShapeCheck.KeyReport
import ShapeCheck.Literal
import ShapeCheck.Node
import ShapeCheck.Number.Double
import ShapeCheck.Number.Power
import ShapeCheck.Number.Rounding
import ShapeCheck.Number.Shortest
import ShapeCheck.Number.Text
import ShapeCheck.Path
import ShapeCheck.Predicate
import ShapeCheck.Presence
import ShapeCheck.Program.Calendar
import ShapeCheck.Program.Number
import ShapeCheck.Program.Pattern
import ShapeCheck.Program.Reader
import ShapeCheck.Program.Target
import ShapeCheck.Program.Token
import ShapeCheck.Refusal
import ShapeCheck.Rejection
import ShapeCheck.Shape.Basic
import ShapeCheck.Shape.Build
import ShapeCheck.Shape.Display
import ShapeCheck.Shape.Intersection
import ShapeCheck.Text.Alphabetic
import ShapeCheck.Text.CodePoints
import ShapeCheck.Text.CombiningMarks
import ShapeCheck.Text.Identifier
import ShapeCheck.Text.Ignorable
import ShapeCheck.Text.Lines
import ShapeCheck.Text.Numeric
import ShapeCheck.Text.Quoted
import ShapeCheck.Text.Search
import ShapeCheck.Text.Visible
import ShapeCheck.Value.Basic
import ShapeCheck.Value.Equality
import ShapeCheck.Value.Inspect
import ShapeCheck.Proofs.Combination
import ShapeCheck.Proofs.Built
import ShapeCheck.Proofs.Report
import ShapeCheck.Proofs.EntryPoints
import ShapeCheck.Proofs.Judging
import ShapeCheck.Proofs.Causes
import ShapeCheck.Proofs.Findings
import ShapeCheck.Proofs.Places
import ShapeCheck.Proofs.Mismatches
import ShapeCheck.Proofs.Unions
import ShapeCheck.Proofs.Diagnosis
import ShapeCheck.Proofs.Uncommented
import ShapeCheck.Proofs.Comments
import ShapeCheck.Proofs.Expressions
import ShapeCheck.Proofs.Meet
import ShapeCheck.Proofs.Alike
import ShapeCheck.Proofs.Regrouping
import ShapeCheck.Proofs.Outline
import ShapeCheck.Proofs.NormalForm
import ShapeCheck.Proofs.Slices
import ShapeCheck.Proofs.Validations
import ShapeCheck.Proofs.NamedKeys
import ShapeCheck.Proofs.Scopes
import ShapeCheck.Proofs.Commutation
import ShapeCheck.Proofs.Branches
import ShapeCheck.Proofs.Operands
import ShapeCheck.Proofs.Rearrangement
import ShapeCheck.Proofs.Wrapping
import ShapeCheck.Proofs.Distribution
import ShapeCheck.Proofs.Idempotence
import ShapeCheck.Proofs.Equality
import ShapeCheck.Proofs.Congruence
import ShapeCheck.Proofs.Rounding
import ShapeCheck.Proofs.Documents
import ShapeCheck.Proofs.RoundTrip
import ShapeCheck.Proofs.Subtyping
import ShapeCheck.Proofs.Contents
import ShapeCheck.Proofs.Flattening
import ShapeCheck.Proofs.Indentation
import ShapeCheck.Proofs.Quoting
import ShapeCheck.Proofs.PathTexts
import ShapeCheck.Proofs.LineBreaks
import ShapeCheck.Proofs.Parentheses
import ShapeCheck.Proofs.Ancestry
import ShapeCheck.Proofs.FailureTrees
import ShapeCheck.Proofs.Lifting
import ShapeCheck.Proofs.Widths
