import RecordFilter.Binary64
import RecordFilter.Decimal.Notation
import RecordFilter.Decimal.Shortest
import RecordFilter.Error
import RecordFilter.Filter.Lexer
import RecordFilter.Filter.Parser
import RecordFilter.Main
import RecordFilter.Predicate.Assembly
import RecordFilter.Predicate.Builder
import RecordFilter.Predicate.Equality
import RecordFilter.Predicate.InPlace
import RecordFilter.Predicate.NormalForm
import RecordFilter.Predicate.Plan
import RecordFilter.Predicate.Printer
import RecordFilter.Predicate.Scan
import RecordFilter.Predicate.Shape
import RecordFilter.Record.Store
import RecordFilter.Text.Blank
import RecordFilter.Text.Escaped
import RecordFilter.Text.Letter
import RecordFilter.Text.Like
import RecordFilter.Text.Mark
import RecordFilter.Text.Numeral
import RecordFilter.Text.Quoted
import RecordFilter.Text.Visible
import RecordFilter.Value.Coercion
import RecordFilter.Value.Order
import RecordFilter.Wire.Decoder
import RecordFilter.Wire.Encoder
import RecordFilter.Proofs.Result
import RecordFilter.Proofs.Predicate.ShapeErrors
import RecordFilter.Proofs.Predicate.Pairing
import RecordFilter.Proofs.Predicate.InPlace
import RecordFilter.Proofs.Predicate.NormalShape
import RecordFilter.Proofs.Predicate.PlanRun
import RecordFilter.Proofs.Predicate.Assembly
import RecordFilter.Proofs.Predicate.PostOrder
import RecordFilter.Proofs.Predicate.Equality
import RecordFilter.Proofs.Predicate.Scan
import RecordFilter.Proofs.Predicate.SameShape
import RecordFilter.Proofs.Predicate.Context
import RecordFilter.Proofs.Text.Pattern
import RecordFilter.Proofs.Text.Fragment
import RecordFilter.Proofs.Record.Answer
import RecordFilter.Proofs.Record.Writes
import RecordFilter.Proofs.Record.Locality
import RecordFilter.Proofs.Value.Comparable
import RecordFilter.Proofs.Value.Rounding
import RecordFilter.Proofs.Value.Consistency
import RecordFilter.Proofs.Record.Acceptance
import RecordFilter.Proofs.Record.Faults
import RecordFilter.Proofs.Record.Membership
import RecordFilter.Proofs.Record.Fragments
import RecordFilter.Proofs.Sql.SplitOrder
import RecordFilter.Proofs.Sql.Lowering
import RecordFilter.Proofs.Sql.LoweredTruth
import RecordFilter.Proofs.Sql.SplitLeaves
import RecordFilter.Proofs.Sql.SameRejection
import RecordFilter.Proofs.Sql.Codecs
import RecordFilter.Proofs.Sql.ColumnOrder
import RecordFilter.Proofs.Schema.Fields
import RecordFilter.Proofs.Schema.Agreement
import RecordFilter.Proofs.Sql.Grammar
import RecordFilter.Proofs.Sql.Rendering
import RecordFilter.Proofs.Sql.Compilation
import RecordFilter.Proofs.Sql.Literals
import RecordFilter.Proofs.Sql.Columns
import RecordFilter.Proofs.Sql.Rejection
import RecordFilter.Proofs.Schema.Registration
import RecordFilter.Proofs.Schema.History
import RecordFilter.Proofs.Schema.CheckedQuery
import RecordFilter.Proofs.Filter.Completeness
import RecordFilter.Proofs.Filter.Soundness
import RecordFilter.Proofs.Filter.Acceptance
import RecordFilter.Proofs.Filter.Positions
import RecordFilter.Proofs.Filter.Layout
import RecordFilter.Proofs.Filter.FirstFault
import RecordFilter.Proofs.Filter.Logical
import RecordFilter.Proofs.Filter.Containment
import RecordFilter.Proofs.Filter.Printed
import RecordFilter.Proofs.Filter.WholeNumbers
import RecordFilter.Proofs.Wire.Canonical
import RecordFilter.Proofs.CommandLine.Agreement
