import CaretSql.Binary64.Basic
import CaretSql.Binary64.Shortest
import CaretSql.Character.Alphanumeric
import CaretSql.Character.Blank
import CaretSql.Character.LetterCase
import CaretSql.CommandLine.Arguments
import CaretSql.CommandLine.Basic
import CaretSql.CommandLine.Place
import CaretSql.Config
import CaretSql.Connection
import CaretSql.Controller
import CaretSql.Document
import CaretSql.Duration
import CaretSql.Editor
import CaretSql.Engine.Postgres.Cell
import CaretSql.Engine.Postgres.Login
import CaretSql.Engine.Postgres.Reply
import CaretSql.Engine.Scripted
import CaretSql.ErrorLocation
import CaretSql.Fault
import CaretSql.Feed
import CaretSql.Files.Path
import CaretSql.Files.Tree
import CaretSql.Json.Basic
import CaretSql.Json.Notifications
import CaretSql.Json.Places
import CaretSql.Json.Printer
import CaretSql.Json.Reader
import CaretSql.Json.Record
import CaretSql.Json.Results
import CaretSql.Lexemes
import CaretSql.LogFile
import CaretSql.Main
import CaretSql.Pane
import CaretSql.Position
import CaretSql.Program
import CaretSql.QueryResult
import CaretSql.Report
import CaretSql.Request
import CaretSql.Rounding
import CaretSql.Session
import CaretSql.Text.Form
import CaretSql.Text.Numeral
import CaretSql.Text.Percent
import CaretSql.Text.Utf8
import CaretSql.Token
import CaretSql.Toml.Document
import CaretSql.Toml.Json
import CaretSql.Toml.Node
import CaretSql.Toml.Number
import CaretSql.Toml.Text
import CaretSql.Toml.Value
import CaretSql.Url.Error
import CaretSql.Url.Host
import CaretSql.Url.Ipv6
import CaretSql.Url.Parse
import CaretSql.Url.Path
import CaretSql.Url.Punycode
import CaretSql.Word
import CaretSql.Proofs.Character.Trim
import CaretSql.Proofs.Document.Place
import CaretSql.Proofs.Document.Edit
import CaretSql.Proofs.Editor.Act
import CaretSql.Proofs.Editor.Places
import CaretSql.Proofs.Controller.Operation
import CaretSql.Proofs.Controller.Ledger
import CaretSql.Proofs.Controller.Notices
import CaretSql.Proofs.Controller.SingleFlight
import CaretSql.Proofs.Controller.Edit
import CaretSql.Proofs.Controller.Marker
import CaretSql.Proofs.Controller.MarkerPlace
import CaretSql.Proofs.Token.Grammar
import CaretSql.Proofs.Token.Tail
import CaretSql.Proofs.Token.Reads
import CaretSql.Proofs.Token.Places
import CaretSql.Proofs.Token.Scan
import CaretSql.Proofs.Token.Lexing
import CaretSql.Proofs.Token.Seam
import CaretSql.Proofs.Token.Blank
import CaretSql.Proofs.Token.Cut
import CaretSql.Proofs.Token.Restart
import CaretSql.Proofs.Request.Region
import CaretSql.Proofs.Request.ErrorMapping
import CaretSql.Proofs.Request.Reach
import CaretSql.Proofs.Request.Caret
import CaretSql.Proofs.Request.Statement
import CaretSql.Proofs.Request.Sweep
import CaretSql.Proofs.Request.Rerun
import CaretSql.Proofs.Feed.Evict
import CaretSql.Proofs.Session.LifeCycle
import CaretSql.Proofs.Pane.Served
import CaretSql.Proofs.Session.Observer
import CaretSql.Proofs.Feed.Operation
import CaretSql.Proofs.Feed.Budget
import CaretSql.Proofs.Feed.Ids
import CaretSql.Proofs.Session.Traffic
import CaretSql.Proofs.Pane.Traffic
import CaretSql.Proofs.Document.Lines
import CaretSql.Proofs.Request.Selection
import CaretSql.Proofs.Controller.Append
import CaretSql.Proofs.Request.Quote
import CaretSql.Proofs.Request.Highlight
import CaretSql.Proofs.Text.Part
import CaretSql.Proofs.Text.Numeral
import CaretSql.Proofs.Text.Percent
import CaretSql.Proofs.Url.Path
import CaretSql.Proofs.Url.Host
import CaretSql.Proofs.Url.Authority
import CaretSql.Proofs.Connection.Address
import CaretSql.Proofs.CommandLine.Anchor
import CaretSql.Proofs.Pane.SingleRun
import CaretSql.Proofs.Program.SingleRun
import CaretSql.Proofs.Document.Nearest
import CaretSql.Proofs.Request.Piece
import CaretSql.Proofs.Editor.Search
import CaretSql.Proofs.Controller.Search
import CaretSql.Proofs.Request.Preamble
import CaretSql.Proofs.Postgres.Keyword
import CaretSql.Proofs.Text.Form
import CaretSql.Proofs.Controller.Export
import CaretSql.Proofs.Postgres.Cell
import CaretSql.Proofs.Connection.Given
import CaretSql.Proofs.Connection.Table
import CaretSql.Proofs.CommandLine.Port
import CaretSql.Proofs.Program.Connection
import CaretSql.Proofs.Editor.Preferences
import CaretSql.Proofs.Controller.Preferences
import CaretSql.Proofs.Token.EndMode
import CaretSql.Proofs.Token.Closing
import CaretSql.Proofs.Session.Ending
import CaretSql.Proofs.CommandLine.Place
import CaretSql.Proofs.CommandLine.Written
import CaretSql.Proofs.QueryResult.Limit
import CaretSql.Proofs.Json.Record
import CaretSql.Proofs.Json.Reports
