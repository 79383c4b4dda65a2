import SqlLayer.Binary64
import SqlLayer.Binary64.Arithmetic
import SqlLayer.Binary64.Shortest
import SqlLayer.Binary64.Text
import SqlLayer.Calendar
import SqlLayer.Calendar.Reading
import SqlLayer.Calendar.Text
import SqlLayer.Connection
import SqlLayer.Diagnostic
import SqlLayer.Dialect
import SqlLayer.Driver
import SqlLayer.Driver.Any
import SqlLayer.Driver.MySql
import SqlLayer.Driver.Recording
import SqlLayer.Driver.Registry
import SqlLayer.Driver.Sqlite
import SqlLayer.Error
import SqlLayer.Extended
import SqlLayer.Fragment
import SqlLayer.Json
import SqlLayer.Json.Number
import SqlLayer.Json.Reading
import SqlLayer.Numeral
import SqlLayer.Op
import SqlLayer.OrderedMap
import SqlLayer.Result.Cursor
import SqlLayer.Result.Reading
import SqlLayer.Result.Record
import SqlLayer.Result.Row
import SqlLayer.Result.Store
import SqlLayer.Selection
import SqlLayer.Selection.Column
import SqlLayer.Selection.Inspect
import SqlLayer.Selection.Sql
import SqlLayer.Session
import SqlLayer.Session.Command
import SqlLayer.Settings
import SqlLayer.Settings.File
import SqlLayer.Settings.FileTree
import SqlLayer.Settings.Serial
import SqlLayer.Settings.Toml
import SqlLayer.Sqlite.Engine
import SqlLayer.Sqlite.Keyword
import SqlLayer.Sqlite.Lexeme
import SqlLayer.Sqlite.Reading
import SqlLayer.Sqlite.Real
import SqlLayer.Sqlite.Statement
import SqlLayer.Text.Blank
import SqlLayer.Text.Hex
import SqlLayer.Text.Hidden
import SqlLayer.Text.Quoted
import SqlLayer.Text.Search
import SqlLayer.Text.Utf8
import SqlLayer.Toml.Document
import SqlLayer.Toml.Quoted
import SqlLayer.Toml.Reading
import SqlLayer.Toml.Scalar
import SqlLayer.Toml.Writing
import SqlLayer.Transaction
import SqlLayer.Value
import SqlLayer.Value.Inspect
import SqlLayer.Value.Json
import SqlLayer.Value.Kind
import SqlLayer.Value.Serial
import SqlLayer.Proofs.Dialect.Literal
import SqlLayer.Proofs.Dialect.Scanning
import SqlLayer.Proofs.Fragment.Injection
import SqlLayer.Proofs.Dialect.Lexing
import SqlLayer.Proofs.Selection.Building
import SqlLayer.Proofs.Selection.Grammar
import SqlLayer.Proofs.Selection.Spelling
import SqlLayer.Proofs.Driver.Buffered
import SqlLayer.Proofs.Op
import SqlLayer.Proofs.OrderedMap
import SqlLayer.Proofs.Result.InStep
import SqlLayer.Proofs.Result.Synchrony
import SqlLayer.Proofs.Result.Store
import SqlLayer.Proofs.Result.Alone
import SqlLayer.Proofs.Result.Independence
import SqlLayer.Proofs.Result.Persistence
import SqlLayer.Proofs.Driver.Log
import SqlLayer.Proofs.Driver.Ledger
import SqlLayer.Proofs.Connection.Bookkeeping
import SqlLayer.Proofs.Connection.Attaching
import SqlLayer.Proofs.Session.Slots
import SqlLayer.Proofs.Session.Events
import SqlLayer.Proofs.Session.History
import SqlLayer.Proofs.Session.Undoing
import SqlLayer.Proofs.Session.Release
import SqlLayer.Proofs.Session.Lifecycle
import SqlLayer.Proofs.Result.Iteration
import SqlLayer.Proofs.Result.Accessors
import SqlLayer.Proofs.Result.Rewinding
import SqlLayer.Proofs.Result.Draining
import SqlLayer.Proofs.Fragment.Comments
import SqlLayer.Proofs.Selection.Representation
import SqlLayer.Proofs.Selection.Aliases
import SqlLayer.Proofs.Selection.Additions
import SqlLayer.Proofs.Selection.Joins
import SqlLayer.Proofs.Selection.FieldLog
import SqlLayer.Proofs.Selection.Qualification
import SqlLayer.Proofs.Result.Position
import SqlLayer.Proofs.Result.Immovable
import SqlLayer.Proofs.Fragment.Substitution
import SqlLayer.Proofs.Text.Blank
import SqlLayer.Proofs.Numeral.Longest
import SqlLayer.Proofs.Numeral.Bytes
import SqlLayer.Proofs.Binary64.Overflow
import SqlLayer.Proofs.Numeral.Saturation
import SqlLayer.Proofs.Selection.Direction
import SqlLayer.Proofs.Dialect.Nesting
import SqlLayer.Proofs.Selection.Conjunction
import SqlLayer.Proofs.Connection.Connecting
import SqlLayer.Proofs.Result.Fields
import SqlLayer.Proofs.Selection.References
import SqlLayer.Proofs.Selection.Declared
import SqlLayer.Proofs.Selection.Detached
import SqlLayer.Proofs.Outcome
import SqlLayer.Proofs.Json.Members
import SqlLayer.Proofs.Result.ByName
import SqlLayer.Proofs.Settings.Entries
import SqlLayer.Proofs.Settings.Secrecy
import SqlLayer.Proofs.Transaction
import SqlLayer.Proofs.Calendar.Fields
import SqlLayer.Proofs.Dialect.Moments
import SqlLayer.Proofs.Json.Reordering
import SqlLayer.Proofs.Json.Texts
import SqlLayer.Proofs.Toml.Values
import SqlLayer.Proofs.Toml.Documents
import SqlLayer.Proofs.Settings.Storing
import SqlLayer.Proofs.Selection.Statement
