import MapStandin.Access.Fault
import MapStandin.Access.Password
import MapStandin.Access.Token
import MapStandin.DataDownload.Address
import MapStandin.DataDownload.Envelope
import MapStandin.DataDownload.Fault
import MapStandin.DataDownload.Result
import MapStandin.DataDownload.Service
import MapStandin.Decimal.Digits
import MapStandin.Decimal.Double
import MapStandin.Decimal.Reading
import MapStandin.Decimal.Shortest
import MapStandin.Decimal.Word
import MapStandin.Desktop.Arguments
import MapStandin.Desktop.Exit
import MapStandin.Desktop.Run
import MapStandin.Desktop.Snapshot
import MapStandin.Feature.Basic
import MapStandin.Feature.Geometry
import MapStandin.Files.Path
import MapStandin.Files.Store
import MapStandin.Guid
import MapStandin.Http.Content
import MapStandin.Http.Message
import MapStandin.Http.Query
import MapStandin.Job.Outcome
import MapStandin.Job.Run
import MapStandin.Job.Workspace
import MapStandin.Json.Fault
import MapStandin.Json.Lexer
import MapStandin.Json.Printer
import MapStandin.Json.Reader
import MapStandin.Json.Record
import MapStandin.Json.Skip
import MapStandin.Json.Value
import MapStandin.Log
import MapStandin.Main
import MapStandin.MapServer.Document
import MapStandin.MapServer.Fault
import MapStandin.MapServer.Service
import MapStandin.Parameter.Kind
import MapStandin.Parameter.Request
import MapStandin.Parameter.Schema
import MapStandin.Power
import MapStandin.Rejection
import MapStandin.Server.Answer
import MapStandin.Server.Place
import MapStandin.Settings.Basic
import MapStandin.Settings.Fault
import MapStandin.Settings.Loading
import MapStandin.Settings.Value
import MapStandin.Settings.Way
import MapStandin.Text.Base64
import MapStandin.Text.Class
import MapStandin.Text.Cut
import MapStandin.Text.Fields
import MapStandin.Text.Hex
import MapStandin.Text.Hidden
import MapStandin.Text.Percent
import MapStandin.Text.Quoted
import MapStandin.Text.Utf8
import MapStandin.Unicode.CombiningClass
import MapStandin.Unicode.Composition
import MapStandin.Unicode.Direction
import MapStandin.Unicode.Forms
import MapStandin.Unicode.Joining
import MapStandin.Unicode.Mark
import MapStandin.Unicode.Normal
import MapStandin.Unicode.Ranges
import MapStandin.Unicode.Unprintable
import MapStandin.Url.Basic
import MapStandin.Url.Domain
import MapStandin.Url.Domain.Label
import MapStandin.Url.Domain.PlainForm
import MapStandin.Url.Fault
import MapStandin.Url.Host
import MapStandin.Url.Punycode
import MapStandin.Url.Reader
import MapStandin.Wkt.Polygon
import MapStandin.Wkt.Token
import MapStandin.Xml.Element
import MapStandin.Xml.Escape
import MapStandin.Proofs.Parameter.Place
import MapStandin.Proofs.Parameter.Reading
import MapStandin.Proofs.Parameter.Order
import MapStandin.Proofs.Files.Place
import MapStandin.Proofs.Job.Result
import MapStandin.Proofs.Desktop.Stage
import MapStandin.Proofs.Desktop.FlagRun
import MapStandin.Proofs.Feature.Shape
import MapStandin.Proofs.Desktop.FileRun
import MapStandin.Proofs.Desktop.Frame
import MapStandin.Proofs.Desktop.View
import MapStandin.Proofs.Desktop.Session
import MapStandin.Proofs.Desktop.Repeat
import MapStandin.Proofs.Text.Base64
import MapStandin.Proofs.Json.Written
import MapStandin.Proofs.Access.Credentials
import MapStandin.Proofs.Server.Place
import MapStandin.Proofs.Server.Entry
import MapStandin.Proofs.Server.MapEntry
import MapStandin.Proofs.DataDownload.Envelope
import MapStandin.Proofs.DataDownload.Answer
import MapStandin.Proofs.DataDownload.Query
import MapStandin.Proofs.Decimal.Written
import MapStandin.Proofs.Text.Line
import MapStandin.Proofs.Text.Percent
import MapStandin.Proofs.Json.Line
import MapStandin.Proofs.Desktop.FailureText
import MapStandin.Proofs.Url.Host
import MapStandin.Proofs.Url.Address
import MapStandin.Proofs.DataDownload.Address
import MapStandin.Proofs.Server.ResultFile
import MapStandin.Proofs.Xml.Grammar
import MapStandin.Proofs.Xml.Written
import MapStandin.Proofs.MapServer.Collection
import MapStandin.Proofs.Parameter.Properties
import MapStandin.Proofs.Parameter.Shown
import MapStandin.Proofs.Desktop.Log
import MapStandin.Proofs.Desktop.FlagLog
import MapStandin.Proofs.Feature.Shown
import MapStandin.Proofs.Desktop.FileLog
import MapStandin.Proofs.DataDownload.Log
import MapStandin.Proofs.Disclosure
import MapStandin.Proofs.Desktop.Undecoded
import MapStandin.Proofs.Job.Verdict
import MapStandin.Proofs.Guid
import MapStandin.Proofs.Job.Lines
import MapStandin.Proofs.Xml.Reading
import MapStandin.Proofs.MapServer.ReadBack
import MapStandin.Proofs.Http.Disposition
import MapStandin.Proofs.Text.Case
import MapStandin.Proofs.MapServer.Answer
import MapStandin.Proofs.Decimal.Reading
import MapStandin.Proofs.Settings.Spelling
import MapStandin.Proofs.Settings.Way
import MapStandin.Proofs.Settings.TextSetting
import MapStandin.Proofs.Settings.Variable
import MapStandin.Proofs.Parameter.PositiveInteger
import MapStandin.Proofs.Text.Cut
