import Criteria.Calendar.ClockPattern
import Criteria.Calendar.Date
import Criteria.Calendar.FreeForm
import Criteria.Calendar.Interval
import Criteria.Calendar.Iso
import Criteria.Calendar.Moment
import Criteria.Calendar.Relative
import Criteria.Calendar.TimeOfDay
import Criteria.Catalog.Candidates
import Criteria.Catalog.Specs
import Criteria.Catalog.Types
import Criteria.Coercion.Basic
import Criteria.Coercion.Model
import Criteria.Coercion.Token
import Criteria.Compile.Basic
import Criteria.Compile.Context
import Criteria.Compile.Custom
import Criteria.Custom.Parameters
import Criteria.Failure
import Criteria.Filter.Error
import Criteria.Filter.Keyword
import Criteria.Filter.Operator
import Criteria.Number.Binary64
import Criteria.Number.Decimal
import Criteria.Number.Reading
import Criteria.Number.Shortest
import Criteria.Proofs.Calendar.Counted
import Criteria.Proofs.Calendar.DayCircle
import Criteria.Proofs.Calendar.DayText
import Criteria.Proofs.Calendar.Named
import Criteria.Proofs.Calendar.Ordinal
import Criteria.Proofs.Calendar.Pattern
import Criteria.Proofs.Calendar.Readers
import Criteria.Proofs.Calendar.Shifted
import Criteria.Proofs.Calendar.Written
import Criteria.Proofs.Coercion.Reported
import Criteria.Proofs.Coercion.Settled
import Criteria.Proofs.Coercion.Token
import Criteria.Proofs.Coercion.Typed
import Criteria.Proofs.Coercion.Whole
import Criteria.Proofs.Coercion.Written
import Criteria.Proofs.Compile.Cleared
import Criteria.Proofs.Compile.Composite
import Criteria.Proofs.Compile.CustomFaults
import Criteria.Proofs.Compile.DateComparison
import Criteria.Proofs.Compile.DateRange
import Criteria.Proofs.Compile.DateWindow
import Criteria.Proofs.Compile.Expressed
import Criteria.Proofs.Compile.Faults
import Criteria.Proofs.Compile.MemberList
import Criteria.Proofs.Compile.Merged
import Criteria.Proofs.Compile.Negation
import Criteria.Proofs.Compile.Partition
import Criteria.Proofs.Compile.Paths
import Criteria.Proofs.Compile.Portable
import Criteria.Proofs.Compile.Resent
import Criteria.Proofs.Compile.Runs
import Criteria.Proofs.Compile.Steps
import Criteria.Proofs.Compile.Target
import Criteria.Proofs.Compile.TimeRange
import Criteria.Proofs.Compile.ValueList
import Criteria.Proofs.Compile.Verdicts
import Criteria.Proofs.Filter.Spelling
import Criteria.Proofs.Number.DecimalText
import Criteria.Proofs.Number.Digits
import Criteria.Proofs.Number.Numeral
import Criteria.Proofs.Number.Rational
import Criteria.Proofs.Number.Rounding
import Criteria.Proofs.Number.Scripts
import Criteria.Proofs.Number.Shortest
import Criteria.Proofs.Number.Whole
import Criteria.Proofs.Outcome
import Criteria.Proofs.Query.Building
import Criteria.Proofs.Query.Cleared
import Criteria.Proofs.Query.Collection
import Criteria.Proofs.Query.Consistency
import Criteria.Proofs.Query.Criterion
import Criteria.Proofs.Query.Fitting
import Criteria.Proofs.Query.Fresh
import Criteria.Proofs.Query.Merge
import Criteria.Proofs.Query.Nodes
import Criteria.Proofs.Query.Received
import Criteria.Proofs.Query.Remerged
import Criteria.Proofs.Query.Resent
import Criteria.Proofs.Query.Respelled
import Criteria.Proofs.Query.RoundTrip
import Criteria.Proofs.Query.Spelling
import Criteria.Proofs.Query.Superseded
import Criteria.Proofs.Query.Update
import Criteria.Proofs.Registry.Restriction
import Criteria.Proofs.Registry.Shared
import Criteria.Proofs.Result.Agreement
import Criteria.Proofs.Result.Kinds
import Criteria.Proofs.Result.Merging
import Criteria.Proofs.Result.Ordering
import Criteria.Proofs.Result.Paging
import Criteria.Proofs.Result.Repeated
import Criteria.Proofs.Result.StableSort
import Criteria.Proofs.Schema.Access
import Criteria.Proofs.Schema.Conformance
import Criteria.Proofs.Schema.Lineage
import Criteria.Proofs.Schema.PathSpelling
import Criteria.Proofs.Schema.Scales
import Criteria.Proofs.Schema.Trichotomy
import Criteria.Proofs.Spec.Expression
import Criteria.Proofs.Spec.Verdict
import Criteria.Proofs.Text.LowerCase
import Criteria.Proofs.Text.Trimming
import Criteria.Proofs.Value.Equality
import Criteria.Proofs.Value.Instants
import Criteria.Proofs.Value.Phrase
import Criteria.Proofs.Value.Reading
import Criteria.Proofs.Value.Uuid
import Criteria.Proofs.Value.WrittenList
import Criteria.Proofs.Wire.Payload
import Criteria.Proofs.Wire.Reading
import Criteria.Proofs.Wire.Text
import Criteria.Query.Basic
import Criteria.Query.Builder
import Criteria.Query.Change
import Criteria.Query.Criterion
import Criteria.Query.Fitting
import Criteria.Query.Merge
import Criteria.Query.Payload
import Criteria.Query.Update
import Criteria.Query.Wire
import Criteria.Refusal
import Criteria.Registry.Basic
import Criteria.Registry.Shared
import Criteria.Registry.Signature
import Criteria.Result.Search
import Criteria.Result.Shape
import Criteria.Result.Sorting
import Criteria.Schema.Access
import Criteria.Schema.Basic
import Criteria.Schema.Members
import Criteria.Schema.Path
import Criteria.Schema.TypeExpr
import Criteria.Schema.TypeText
import Criteria.Spec.Basic
import Criteria.Spec.Comparison
import Criteria.Spec.Transform
import Criteria.Text.Blank
import Criteria.Text.Case
import Criteria.Text.CaseTable
import Criteria.Text.Digit
import Criteria.Text.Listing
import Criteria.Text.Printable
import Criteria.Text.Quoted
import Criteria.Text.Similar
import Criteria.Text.WordEnd
import Criteria.Value.Basic
import Criteria.Value.Equality
import Criteria.Value.Lenient
import Criteria.Value.Order
import Criteria.Value.Reading
import Criteria.Value.Temporal
import Criteria.Value.Text
import Criteria.Value.Uuid
import Criteria.Value.UuidParts
import Criteria.Value.Whole
import Criteria.Wire.Form
import Criteria.Wire.Reader
import Criteria.Wire.Writer
