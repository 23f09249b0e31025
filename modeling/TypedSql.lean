import TypedSql.Calendar.Date
import TypedSql.Calendar.Read
import TypedSql.Calendar.Write
import TypedSql.Connection.Basic
import TypedSql.Connection.Bracket
import TypedSql.Connection.Call
import TypedSql.Connection.Failure
import TypedSql.Connection.Prepared
import TypedSql.Connection.Registration
import TypedSql.Connection.ResultRow
import TypedSql.Decimal.Arithmetic
import TypedSql.Decimal.Binary64
import TypedSql.Decimal.Shortest
import TypedSql.Engine.Basic
import TypedSql.Engine.Collation
import TypedSql.Engine.Datum
import TypedSql.Engine.Error
import TypedSql.Engine.Formula
import TypedSql.Engine.Function
import TypedSql.Engine.Plan
import TypedSql.Engine.Resolve
import TypedSql.Engine.Select
import TypedSql.Engine.Store
import TypedSql.Engine.Table
import TypedSql.Engine.Visit
import TypedSql.Engine.Write
import TypedSql.Fragment
import TypedSql.Json.Basic
import TypedSql.Json.Token
import TypedSql.Proofs.Calendar.DayNumber
import TypedSql.Proofs.Calendar.Fields
import TypedSql.Proofs.Calendar.RoundTrip
import TypedSql.Proofs.Connection.Act
import TypedSql.Proofs.Connection.Along
import TypedSql.Proofs.Connection.Columns
import TypedSql.Proofs.Connection.Control
import TypedSql.Proofs.Connection.Expanded
import TypedSql.Proofs.Connection.Insertions
import TypedSql.Proofs.Connection.Moves
import TypedSql.Proofs.Connection.Resolution
import TypedSql.Proofs.Connection.Slots
import TypedSql.Proofs.Connection.Tracing
import TypedSql.Proofs.Engine.Bare
import TypedSql.Proofs.Engine.Classes
import TypedSql.Proofs.Engine.Insertion
import TypedSql.Proofs.Engine.Laws
import TypedSql.Proofs.Engine.Moves
import TypedSql.Proofs.Engine.Numbers
import TypedSql.Proofs.Engine.Rows
import TypedSql.Proofs.Engine.Savepoint
import TypedSql.Proofs.Engine.Transaction
import TypedSql.Proofs.Engine.Window
import TypedSql.Proofs.Fragment
import TypedSql.Proofs.Query.Compile
import TypedSql.Proofs.Query.Composed
import TypedSql.Proofs.Query.Counting
import TypedSql.Proofs.Query.History
import TypedSql.Proofs.Query.Inlined
import TypedSql.Proofs.Query.Paging
import TypedSql.Proofs.Query.Sources
import TypedSql.Proofs.Query.Statements
import TypedSql.Proofs.Record.Decimals
import TypedSql.Proofs.Record.Defaults
import TypedSql.Proofs.Record.Derivation
import TypedSql.Proofs.Record.Marks
import TypedSql.Proofs.Record.Naming
import TypedSql.Proofs.Record.Spelling
import TypedSql.Proofs.Scan.Alike
import TypedSql.Proofs.Scan.Boundary
import TypedSql.Proofs.Scan.Closed
import TypedSql.Proofs.Scan.Heads
import TypedSql.Proofs.Scan.Inlining
import TypedSql.Proofs.Scan.Literal
import TypedSql.Proofs.Scan.Names
import TypedSql.Proofs.Scan.Positions
import TypedSql.Proofs.Scan.Quoting
import TypedSql.Proofs.Scan.Range
import TypedSql.Proofs.Scan.Reading
import TypedSql.Proofs.Scan.Regions
import TypedSql.Proofs.Scan.Spans
import TypedSql.Proofs.Scan.Unique
import TypedSql.Proofs.Schema.Definition
import TypedSql.Proofs.Schema.Description
import TypedSql.Proofs.Script.Body
import TypedSql.Proofs.Script.Calls
import TypedSql.Proofs.Script.Insertions
import TypedSql.Proofs.Script.Quiet
import TypedSql.Proofs.Script.Rollback
import TypedSql.Proofs.Script.Savepoint
import TypedSql.Proofs.Script.Tracing
import TypedSql.Proofs.Script.Transaction
import TypedSql.Proofs.Script.Ways
import TypedSql.Proofs.Sql.Climb
import TypedSql.Proofs.Sql.Control
import TypedSql.Proofs.Sql.Kind
import TypedSql.Proofs.Sql.Lexing
import TypedSql.Proofs.Sql.Numbering
import TypedSql.Proofs.Sql.Numerals
import TypedSql.Proofs.Sql.Operators
import TypedSql.Proofs.Sql.Phrases
import TypedSql.Proofs.Sql.Verb
import TypedSql.Proofs.Sql.Window
import TypedSql.Proofs.Term.Compile
import TypedSql.Proofs.Term.Nesting
import TypedSql.Proofs.Term.Nullability
import TypedSql.Proofs.Term.Precedence
import TypedSql.Proofs.Term.Structured
import TypedSql.Proofs.Term.Words
import TypedSql.Query.Assignment
import TypedSql.Query.Basic
import TypedSql.Query.Render
import TypedSql.Record.Attribute
import TypedSql.Record.Table
import TypedSql.Record.Token
import TypedSql.Scan.Inline
import TypedSql.Scan.Piece
import TypedSql.Schema.Create
import TypedSql.Schema.Table
import TypedSql.Script.Basic
import TypedSql.Script.Run
import TypedSql.Settings.Basic
import TypedSql.Settings.Document
import TypedSql.Sql.Expression
import TypedSql.Sql.Parameters
import TypedSql.Sql.Reader
import TypedSql.Sql.Statement
import TypedSql.Sql.Syntax
import TypedSql.Sql.Token
import TypedSql.Stored
import TypedSql.Term.Basic
import TypedSql.Term.Build
import TypedSql.Term.Render
import TypedSql.Term.Typing
import TypedSql.Text.Alphanumeric
import TypedSql.Text.Blank
import TypedSql.Text.Escaped
import TypedSql.Text.Quoted
import TypedSql.Text.Uppercase
import TypedSql.Text.Utf8
import TypedSql.Value
