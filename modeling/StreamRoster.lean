import StreamRoster.Api.Request
import StreamRoster.Api.Response
import StreamRoster.Api.Router
import StreamRoster.Api.Session
import StreamRoster.Api.Views
import StreamRoster.Archive.Listing
import StreamRoster.Archive.Request
import StreamRoster.Config.Basic
import StreamRoster.Config.Directory
import StreamRoster.Config.File
import StreamRoster.Config.Load
import StreamRoster.Domain.Basic
import StreamRoster.Domain.Direction
import StreamRoster.Domain.DirectionTable
import StreamRoster.Domain.Joining
import StreamRoster.Domain.JoiningTable
import StreamRoster.Domain.Mapping
import StreamRoster.Domain.MappingTable
import StreamRoster.Domain.Punycode
import StreamRoster.Feed.Frame
import StreamRoster.Feed.Session
import StreamRoster.Feed.Source
import StreamRoster.Feed.Writer
import StreamRoster.Http.Authorization
import StreamRoster.Http.Base64
import StreamRoster.Http.Percent
import StreamRoster.Http.Status
import StreamRoster.Http.Target
import StreamRoster.Json.Failure
import StreamRoster.Json.Lexer
import StreamRoster.Json.Number
import StreamRoster.Json.Reader
import StreamRoster.Json.Record
import StreamRoster.Json.Skip
import StreamRoster.Json.Tree
import StreamRoster.Json.Variant
import StreamRoster.Json.Writer
import StreamRoster.Log.Filter
import StreamRoster.Log.Line
import StreamRoster.Net.Ipv4
import StreamRoster.Net.Ipv6
import StreamRoster.Net.SocketAddress
import StreamRoster.Number.Double
import StreamRoster.Number.FloatText
import StreamRoster.Number.Shortest
import StreamRoster.Number.Unsigned
import StreamRoster.Parameter.Basic
import StreamRoster.Parameter.Detail
import StreamRoster.Parameter.Value
import StreamRoster.Proofs.Api.Answers
import StreamRoster.Proofs.Api.Moves
import StreamRoster.Proofs.Api.Pushes
import StreamRoster.Proofs.Api.StreamPaths
import StreamRoster.Proofs.Api.Surfaces
import StreamRoster.Proofs.Api.Texts
import StreamRoster.Proofs.Archive.Address
import StreamRoster.Proofs.Archive.Naming
import StreamRoster.Proofs.Config.Loading
import StreamRoster.Proofs.Config.Settings
import StreamRoster.Proofs.Feed.Calls
import StreamRoster.Proofs.Feed.Confirmations
import StreamRoster.Proofs.Feed.Disconnects
import StreamRoster.Proofs.Feed.EventFrames
import StreamRoster.Proofs.Feed.Frames
import StreamRoster.Proofs.Feed.Moves
import StreamRoster.Proofs.Feed.Notices
import StreamRoster.Proofs.Feed.Requests
import StreamRoster.Proofs.Feed.Rooms
import StreamRoster.Proofs.Feed.Row
import StreamRoster.Proofs.Feed.Wording
import StreamRoster.Proofs.Feed.Writers
import StreamRoster.Proofs.Http.PercentText
import StreamRoster.Proofs.Json.Conversion
import StreamRoster.Proofs.Json.Extent
import StreamRoster.Proofs.Json.Gathering
import StreamRoster.Proofs.Json.Leniency
import StreamRoster.Proofs.Json.MemberOrder
import StreamRoster.Proofs.Json.Members
import StreamRoster.Proofs.Json.Nesting
import StreamRoster.Proofs.Json.OneValue
import StreamRoster.Proofs.Json.Passing
import StreamRoster.Proofs.Json.Records
import StreamRoster.Proofs.Json.Rereading
import StreamRoster.Proofs.Json.Supplied
import StreamRoster.Proofs.Json.Written
import StreamRoster.Proofs.Number.NaturalText
import StreamRoster.Proofs.Number.NumberText
import StreamRoster.Proofs.Parameter.Display
import StreamRoster.Proofs.Parameter.RoundTrip
import StreamRoster.Proofs.Parameter.ValueReading
import StreamRoster.Proofs.Roster.Consistency
import StreamRoster.Proofs.Roster.Counts
import StreamRoster.Proofs.Roster.Delivery
import StreamRoster.Proofs.Roster.Entries
import StreamRoster.Proofs.Roster.EventReading
import StreamRoster.Proofs.Roster.History
import StreamRoster.Proofs.Roster.Moves
import StreamRoster.Proofs.Roster.NameOrder
import StreamRoster.Proofs.Roster.Published
import StreamRoster.Proofs.Roster.Release
import StreamRoster.Proofs.Roster.RoundTrip
import StreamRoster.Proofs.Roster.Settling
import StreamRoster.Proofs.Text.Bytes
import StreamRoster.Proofs.Time.TimestampText
import StreamRoster.Proofs.Timeline.Registrations
import StreamRoster.Proofs.Url.Cutting
import StreamRoster.Proofs.Url.Endpoints
import StreamRoster.Proofs.Url.Extension
import StreamRoster.Roster.Basic
import StreamRoster.Roster.Event
import StreamRoster.Roster.Item
import StreamRoster.Roster.NameOrder
import StreamRoster.Roster.Publication
import StreamRoster.Roster.Session
import StreamRoster.Text.Alphanumeric
import StreamRoster.Text.Blank
import StreamRoster.Text.CaseFold
import StreamRoster.Text.CodeTable
import StreamRoster.Text.Composed
import StreamRoster.Text.CompositionTable
import StreamRoster.Text.Printable
import StreamRoster.Text.Quoted
import StreamRoster.Text.Ranges
import StreamRoster.Text.Split
import StreamRoster.Text.Utf8
import StreamRoster.Time.Calendar
import StreamRoster.Time.Json
import StreamRoster.Time.Timestamp
import StreamRoster.Timeline.Action
import StreamRoster.Timeline.Dispatcher
import StreamRoster.Toml.Basic
import StreamRoster.Toml.Document
import StreamRoster.Toml.Lexer
import StreamRoster.Toml.Scalar
import StreamRoster.Url.Basic
import StreamRoster.Url.Host
import StreamRoster.Url.Parse
import StreamRoster.Url.Path
import StreamRoster.Url.Scheme
import StreamRoster.Url.Validation
