import Polystore.Backend
import Polystore.Binary64.Basic
import Polystore.Binary64.Layout
import Polystore.Binary64.Read
import Polystore.Binary64.Shortest
import Polystore.Calendar.Date
import Polystore.Calendar.Instant
import Polystore.Calendar.Read
import Polystore.Column.Basic
import Polystore.Column.Codec
import Polystore.Column.Coerce
import Polystore.Condition.Basic
import Polystore.Condition.Codec
import Polystore.Config
import Polystore.Database
import Polystore.Document.Compile
import Polystore.Document.Filter
import Polystore.Document.Store
import Polystore.Error
import Polystore.Formatter
import Polystore.Index
import Polystore.Json.Basic
import Polystore.Json.Fields
import Polystore.Json.Members
import Polystore.Json.Printer
import Polystore.Json.Reader
import Polystore.KeyValue.Compile
import Polystore.KeyValue.Key
import Polystore.KeyValue.Store
import Polystore.Like
import Polystore.Query.Basic
import Polystore.Query.Codec
import Polystore.Registry
import Polystore.Relational.Compile
import Polystore.Relational.Store
import Polystore.Relational.Table
import Polystore.Rows
import Polystore.Sql.Clauses
import Polystore.Sql.Declaration
import Polystore.Sql.Literal
import Polystore.Sql.Pieces
import Polystore.Sql.Read
import Polystore.Sql.Token
import Polystore.Sql.Where
import Polystore.Sql.Words
import Polystore.Statement.Basic
import Polystore.Statement.Codec
import Polystore.Statement.Holds
import Polystore.Statement.Render
import Polystore.Text.Alphanumeric
import Polystore.Text.Basic
import Polystore.Text.Fold
import Polystore.Text.Printable
import Polystore.Text.Whole
import Polystore.Text.Word
import Polystore.TextMap
import Polystore.Value.Basic
import Polystore.Value.Compare
import Polystore.Proofs.Relational.Failure
import Polystore.Proofs.Condition.Agreement
import Polystore.Proofs.Value.Order
import Polystore.Proofs.Condition.Columns
import Polystore.Proofs.Selection.Presented
import Polystore.Proofs.Selection.Agreement
import Polystore.Proofs.Sql.Quotation
import Polystore.Proofs.Sql.Scanning
import Polystore.Proofs.Sql.Phrase
import Polystore.Proofs.Sql.Grammar
import Polystore.Proofs.Sql.Parsing
import Polystore.Proofs.Sql.Cutting
import Polystore.Proofs.Sql.Reread
import Polystore.Proofs.Text.Digits
import Polystore.Proofs.Sql.Literals
import Polystore.Proofs.Sql.Names
import Polystore.Proofs.Sql.Written
import Polystore.Proofs.Sql.Compiled
import Polystore.Proofs.Sql.Tails
import Polystore.Proofs.Sql.Heads
import Polystore.Proofs.Sql.Values
import Polystore.Proofs.Sql.Filtered
import Polystore.Proofs.Sql.Reads
import Polystore.Proofs.Sql.Faithful
import Polystore.Proofs.Relational.Effect
import Polystore.Proofs.Relational.Reachable
import Polystore.Proofs.Relational.Indexed
import Polystore.Proofs.Relational.Distinct
import Polystore.Proofs.Relational.Rows
import Polystore.Proofs.Relational.WellFormed
import Polystore.Proofs.Relational.Numbers
import Polystore.Proofs.Relational.Counting
import Polystore.Proofs.Relational.Locality
import Polystore.Proofs.Relational.Unindexed
import Polystore.Proofs.Relational.Unobserved
import Polystore.Proofs.Relational.Issued
import Polystore.Proofs.Relational.Typed
import Polystore.Proofs.Document.Failure
import Polystore.Proofs.Relational.Defaults
import Polystore.Proofs.Relational.Refusals
import Polystore.Proofs.Statement.Operands
import Polystore.Proofs.Relational.Binding
import Polystore.Proofs.Binary64.Nearest
import Polystore.Proofs.Binary64.Reading
import Polystore.Proofs.Binary64.Reread
import Polystore.Proofs.Binary64.Exact
import Polystore.Proofs.Calendar.Date
import Polystore.Proofs.Calendar.Reread
import Polystore.Proofs.Column.Recall
import Polystore.Proofs.Relational.Recall
import Polystore.Proofs.KeyValue.Effect
import Polystore.Proofs.KeyValue.Failure
import Polystore.Proofs.KeyValue.Keyed
import Polystore.Proofs.Document.Effect
import Polystore.Proofs.Document.Distinct
import Polystore.Proofs.Document.Touched
import Polystore.Proofs.Condition.Collapse
import Polystore.Proofs.Condition.Reread
import Polystore.Proofs.Condition.GivenBack
import Polystore.Proofs.Sql.Numbered
import Polystore.Proofs.Sql.Expression
import Polystore.Proofs.Sql.Indices
import Polystore.Proofs.Relational.Touched
import Polystore.Proofs.Sql.Declared
import Polystore.Proofs.Sql.Given
import Polystore.Proofs.Sql.Schemas
import Polystore.Proofs.Value.Kinds
import Polystore.Proofs.Selection.Arranged
import Polystore.Proofs.Selection.Sorts
import Polystore.Proofs.Relational.Inserted
import Polystore.Proofs.Relational.Undone
import Polystore.Proofs.Relational.Selected
import Polystore.Proofs.Like
import Polystore.Proofs.Sql.NameLists
import Polystore.Proofs.Sql.BrokenLists
import Polystore.Proofs.Sql.ColumnLists
import Polystore.Proofs.Value.Integers
import Polystore.Proofs.Relational.Integers
import Polystore.Proofs.Binary64.Rational
import Polystore.Proofs.Column.Exact
import Polystore.Proofs.Column.Settled
import Polystore.Proofs.Relational.Modified
import Polystore.Proofs.Relational.Spelled
import Polystore.Proofs.Value.Symmetry
import Polystore.Proofs.Value.Scalars
import Polystore.Proofs.Text.Joined
import Polystore.Proofs.Value.Tuples
import Polystore.Proofs.Relational.Tuples
import Polystore.Proofs.Relational.Fitting
import Polystore.Proofs.Relational.PrimaryKeys
import Polystore.Proofs.KeyValue.RowKeys
import Polystore.Proofs.Document.Stored
import Polystore.Proofs.Json.Members
import Polystore.Proofs.Column.Reread
import Polystore.Proofs.Query.Reread
import Polystore.Proofs.Sql.Unquoting
import Polystore.Proofs.Sql.Levels
import Polystore.Proofs.Sql.Segments
