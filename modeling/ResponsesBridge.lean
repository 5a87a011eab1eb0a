import ResponsesBridge.CallLedger
import ResponsesBridge.Conversation.Reply
import ResponsesBridge.Conversation.Request
import ResponsesBridge.Conversation.Schema
import ResponsesBridge.Conversation.Tool
import ResponsesBridge.Conversation.Turn
import ResponsesBridge.Dictionary
import ResponsesBridge.Failure
import ResponsesBridge.Http.Charset
import ResponsesBridge.Http.EventStream
import ResponsesBridge.Http.Message
import ResponsesBridge.Inbound.Fragments
import ResponsesBridge.Inbound.Payload
import ResponsesBridge.Inbound.Response
import ResponsesBridge.Json.Choice
import ResponsesBridge.Json.Codec
import ResponsesBridge.Json.Node
import ResponsesBridge.Json.Record
import ResponsesBridge.Json.Scan
import ResponsesBridge.Json.Value
import ResponsesBridge.Logging.Filter
import ResponsesBridge.Logging.Logger
import ResponsesBridge.Number.Decimal
import ResponsesBridge.Number.Floating
import ResponsesBridge.Number.Power
import ResponsesBridge.Outbound.Items
import ResponsesBridge.Outbound.Request
import ResponsesBridge.Outbound.Tools
import ResponsesBridge.Proofs.Conversation.Forms
import ResponsesBridge.Proofs.Conversation.Keywords
import ResponsesBridge.Proofs.Conversation.Requests
import ResponsesBridge.Proofs.Conversation.Schemas
import ResponsesBridge.Proofs.Inbound.Agreement
import ResponsesBridge.Proofs.Inbound.Failed
import ResponsesBridge.Proofs.Inbound.OpenCalls
import ResponsesBridge.Proofs.Inbound.Output
import ResponsesBridge.Proofs.Inbound.Reception
import ResponsesBridge.Proofs.Inbound.Whole
import ResponsesBridge.Proofs.Json.Codecs
import ResponsesBridge.Proofs.Json.Grammar
import ResponsesBridge.Proofs.Json.NewMembers
import ResponsesBridge.Proofs.Json.Recognition
import ResponsesBridge.Proofs.Json.Scanning
import ResponsesBridge.Proofs.Json.Texts
import ResponsesBridge.Proofs.Json.Values
import ResponsesBridge.Proofs.Ledger.History
import ResponsesBridge.Proofs.Ledger.Numbering
import ResponsesBridge.Proofs.Ledger.Search
import ResponsesBridge.Proofs.Ledger.Told
import ResponsesBridge.Proofs.Number.Widening
import ResponsesBridge.Proofs.Outbound.Arguments
import ResponsesBridge.Proofs.Outbound.Conversion
import ResponsesBridge.Proofs.Outbound.Correlation
import ResponsesBridge.Proofs.Outbound.Entries
import ResponsesBridge.Proofs.Outbound.Faults
import ResponsesBridge.Proofs.Outbound.Growth
import ResponsesBridge.Proofs.Outbound.MadeIds
import ResponsesBridge.Proofs.Outbound.Obstacles
import ResponsesBridge.Proofs.Outbound.OfferedFunctions
import ResponsesBridge.Proofs.Outbound.Rereading
import ResponsesBridge.Proofs.Outbound.ReturnedTurns
import ResponsesBridge.Proofs.Rows
import ResponsesBridge.Proofs.Service.Endpoint
import ResponsesBridge.Proofs.Service.Requests
import ResponsesBridge.Proofs.Settings.ApiKey
import ResponsesBridge.Proofs.Settings.Expansion
import ResponsesBridge.Proofs.Settings.Occurrences
import ResponsesBridge.Proofs.Settings.Records
import ResponsesBridge.Proofs.Stream.Conservation
import ResponsesBridge.Proofs.Stream.Course
import ResponsesBridge.Proofs.Stream.Padding
import ResponsesBridge.Proofs.Stream.Run
import ResponsesBridge.Proofs.Stream.Segments
import ResponsesBridge.Proofs.Stream.Usage
import ResponsesBridge.Proofs.Toml.Bounds
import ResponsesBridge.Proofs.Toml.Gaps
import ResponsesBridge.Proofs.Toml.Places
import ResponsesBridge.Proofs.Toml.Quotations
import ResponsesBridge.Proofs.Toml.Readers
import ResponsesBridge.Proofs.Toml.Steadiness
import ResponsesBridge.Proofs.Toml.Texts
import ResponsesBridge.Proofs.Url.Authorities
import ResponsesBridge.Proofs.Url.Encoding
import ResponsesBridge.Proofs.Url.Paths
import ResponsesBridge.Proofs.Url.Rereading
import ResponsesBridge.Proofs.Url.Steps
import ResponsesBridge.Proofs.Wire.Forms
import ResponsesBridge.Proofs.Wire.NewMembers
import ResponsesBridge.Service.Exchange
import ResponsesBridge.Service.Model
import ResponsesBridge.Settings.Configuration
import ResponsesBridge.Settings.Placeholder
import ResponsesBridge.Settings.Span
import ResponsesBridge.Stream.Aggregation
import ResponsesBridge.Stream.Replies
import ResponsesBridge.Text.Blank
import ResponsesBridge.Text.Hex
import ResponsesBridge.Text.Invisible
import ResponsesBridge.Text.Quoted
import ResponsesBridge.Text.Split
import ResponsesBridge.Text.Utf8
import ResponsesBridge.Toml.Quotation
import ResponsesBridge.Toml.Read
import ResponsesBridge.Toml.Scalar
import ResponsesBridge.Toml.Table
import ResponsesBridge.Unicode.Alphanumeric
import ResponsesBridge.Unicode.Composition
import ResponsesBridge.Unicode.Decomposition
import ResponsesBridge.Unicode.Direction
import ResponsesBridge.Unicode.Hidden
import ResponsesBridge.Unicode.Joining
import ResponsesBridge.Unicode.LetterCase
import ResponsesBridge.Unicode.Mark
import ResponsesBridge.Unicode.Normal
import ResponsesBridge.Unicode.Range
import ResponsesBridge.Url.Address
import ResponsesBridge.Url.Basic
import ResponsesBridge.Url.Domain
import ResponsesBridge.Url.Host
import ResponsesBridge.Url.Percent
import ResponsesBridge.Url.Punycode
import ResponsesBridge.Url.Read
import ResponsesBridge.Wire.Event
import ResponsesBridge.Wire.Request
import ResponsesBridge.Wire.Response
