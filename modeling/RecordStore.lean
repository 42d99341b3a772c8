import RecordStore.Calendar
import RecordStore.Calendar.Reading
import RecordStore.CommandLine.Arguments
import RecordStore.CommandLine.Invocation
import RecordStore.CommandLine.Run
import RecordStore.Config.Basic
import RecordStore.Config.Json
import RecordStore.Config.Shape
import RecordStore.Config.Yaml
import RecordStore.Draft
import RecordStore.Draft.InPlace
import RecordStore.Error
import RecordStore.Identifier
import RecordStore.Json.Basic
import RecordStore.Json.Decode
import RecordStore.Json.Printer
import RecordStore.Json.Reader
import RecordStore.Key.Basic
import RecordStore.Key.Reading
import RecordStore.Layout
import RecordStore.Main
import RecordStore.Number.Double
import RecordStore.Number.Hex
import RecordStore.Number.Integer
import RecordStore.Number.Power
import RecordStore.Number.Shortest
import RecordStore.Number.Text
import RecordStore.Ordered
import RecordStore.Program
import RecordStore.Proofs.Accessors
import RecordStore.Proofs.Actions
import RecordStore.Proofs.Admission
import RecordStore.Proofs.Atomic
import RecordStore.Proofs.Calendar.RoundTrip
import RecordStore.Proofs.Coercion
import RecordStore.Proofs.Columns
import RecordStore.Proofs.CommandLine.Failing
import RecordStore.Proofs.CommandLine.Files
import RecordStore.Proofs.CommandLine.Identities
import RecordStore.Proofs.CommandLine.Runs
import RecordStore.Proofs.Config.Redaction
import RecordStore.Proofs.Config.RoundTrip
import RecordStore.Proofs.Config.Validation
import RecordStore.Proofs.DeclaredFields
import RecordStore.Proofs.Dialects
import RecordStore.Proofs.Drafts
import RecordStore.Proofs.Failures
import RecordStore.Proofs.Hooks
import RecordStore.Proofs.Identity
import RecordStore.Proofs.KeyedMap
import RecordStore.Proofs.Layout
import RecordStore.Proofs.LifeCycle
import RecordStore.Proofs.Number.Exact
import RecordStore.Proofs.Number.ReadBack
import RecordStore.Proofs.Offline
import RecordStore.Proofs.Operations
import RecordStore.Proofs.Partition
import RecordStore.Proofs.Play
import RecordStore.Proofs.Printing
import RecordStore.Proofs.Reads
import RecordStore.Proofs.Registry
import RecordStore.Proofs.Registry.History
import RecordStore.Proofs.Resolution
import RecordStore.Proofs.RoundTrip
import RecordStore.Proofs.Sql.Read
import RecordStore.Proofs.Sql.Requested
import RecordStore.Proofs.Sql.Scan
import RecordStore.Proofs.Sql.Template
import RecordStore.Proofs.Sqlite.Codec
import RecordStore.Proofs.Sqlite.Decoding
import RecordStore.Proofs.Sqlite.Keys
import RecordStore.Proofs.Sqlite.Reading
import RecordStore.Proofs.Sqlite.Rows
import RecordStore.Proofs.Sqlite.Spared
import RecordStore.Proofs.Sqlite.Statements
import RecordStore.Proofs.Sqlite.Tables
import RecordStore.Proofs.StatementBook
import RecordStore.Proofs.Subjects
import RecordStore.Proofs.Tables
import RecordStore.Proofs.Tables.Listing
import RecordStore.Proofs.Tables.Statements
import RecordStore.Proofs.Tables.Surface
import RecordStore.Proofs.Taking
import RecordStore.Proofs.Text.ByteOrder
import RecordStore.Proofs.Text.Quoted
import RecordStore.Proofs.Told
import RecordStore.Proofs.Transaction
import RecordStore.Proofs.Uuid
import RecordStore.Record
import RecordStore.RecordType
import RecordStore.Registry
import RecordStore.Schema
import RecordStore.Sql.Command
import RecordStore.Sql.Dialect
import RecordStore.Sql.Token
import RecordStore.Sqlite.Affinity
import RecordStore.Sqlite.Cell
import RecordStore.Sqlite.Connection
import RecordStore.Sqlite.Database
import RecordStore.Sqlite.Decode
import RecordStore.Sqlite.Location
import RecordStore.Sqlite.Refusal
import RecordStore.Sqlite.Table
import RecordStore.Statement
import RecordStore.StatementBook
import RecordStore.Store.Basic
import RecordStore.Store.Connect
import RecordStore.Store.Read
import RecordStore.Store.Write
import RecordStore.Surface.Script
import RecordStore.Text.Blank
import RecordStore.Text.Case
import RecordStore.Text.CaseContext
import RecordStore.Text.CaseTable
import RecordStore.Text.Combining
import RecordStore.Text.Inspected
import RecordStore.Text.Quoted
import RecordStore.Text.Range
import RecordStore.Text.Search
import RecordStore.Text.Unprintable
import RecordStore.Uuid
import RecordStore.Value.Basic
import RecordStore.Value.Coerce
import RecordStore.Value.Extract
import RecordStore.Value.Text
import RecordStore.View
import RecordStore.Yaml.Cursor
import RecordStore.Yaml.Decode
import RecordStore.Yaml.Document
import RecordStore.Yaml.Lexer
import RecordStore.Yaml.Property
import RecordStore.Yaml.Scalar
import RecordStore.Yaml.Token
