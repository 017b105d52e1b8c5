import RouteServer.Address.Basic
import RouteServer.Address.Parser
import RouteServer.Address.Printer
import RouteServer.Channel.Client
import RouteServer.Channel.Clients
import RouteServer.Channel.Pipe
import RouteServer.Command.Dispatch
import RouteServer.Command.Error
import RouteServer.Command.Listing
import RouteServer.Command.Registry
import RouteServer.Command.Selector
import RouteServer.Command.Service
import RouteServer.Command.Standard
import RouteServer.Config.Error
import RouteServer.Config.Neighbor
import RouteServer.Config.Parser
import RouteServer.Config.Token
import RouteServer.Console
import RouteServer.Daemon.Bootstrap
import RouteServer.Daemon.Error
import RouteServer.Daemon.Health
import RouteServer.Daemon.Listener
import RouteServer.Daemon.Machine
import RouteServer.Daemon.Run
import RouteServer.Decimal.Fraction
import RouteServer.Decimal.Shortest
import RouteServer.Domain.Ascii
import RouteServer.Domain.Mapping
import RouteServer.Domain.Punycode
import RouteServer.Endpoint.Basic
import RouteServer.Endpoint.Directory
import RouteServer.Endpoint.Host
import RouteServer.Endpoint.Url
import RouteServer.Event
import RouteServer.Family
import RouteServer.Files.Path
import RouteServer.Files.Tree
import RouteServer.Json.Decode
import RouteServer.Json.Overlay
import RouteServer.Json.Printer
import RouteServer.Json.Value
import RouteServer.Keyed
import RouteServer.Log.Filter
import RouteServer.Log.Format
import RouteServer.Log.Line
import RouteServer.Log.Pattern
import RouteServer.Log.Record
import RouteServer.Loopback
import RouteServer.Main
import RouteServer.Proofs.Address
import RouteServer.Proofs.Address.Spelling
import RouteServer.Proofs.Address.Text
import RouteServer.Proofs.Channel.Clients
import RouteServer.Proofs.Channel.Framing
import RouteServer.Proofs.Channel.Overlong
import RouteServer.Proofs.Channel.Payload
import RouteServer.Proofs.Channel.Reading
import RouteServer.Proofs.Channel.Sending
import RouteServer.Proofs.Command.Canonical
import RouteServer.Proofs.Command.Codeless
import RouteServer.Proofs.Command.ConfigurationListing
import RouteServer.Proofs.Command.Lines
import RouteServer.Proofs.Command.Modifiers
import RouteServer.Proofs.Command.PeerListing
import RouteServer.Proofs.Command.Resolution
import RouteServer.Proofs.Command.Response
import RouteServer.Proofs.Command.Selection
import RouteServer.Proofs.Command.SummaryFilter
import RouteServer.Proofs.Command.Teardown
import RouteServer.Proofs.Config.Accepted
import RouteServer.Proofs.Config.Beginning
import RouteServer.Proofs.Config.Coverage
import RouteServer.Proofs.Config.Culprits
import RouteServer.Proofs.Config.Declared
import RouteServer.Proofs.Config.FamilyBody
import RouteServer.Proofs.Config.Grammar
import RouteServer.Proofs.Config.Layout
import RouteServer.Proofs.Config.NeighborBody
import RouteServer.Proofs.Config.Positions
import RouteServer.Proofs.Config.Printed
import RouteServer.Proofs.Config.Referenced
import RouteServer.Proofs.Config.Relocated
import RouteServer.Proofs.Config.Respaced
import RouteServer.Proofs.Config.Scanning
import RouteServer.Proofs.Console.Outcomes
import RouteServer.Proofs.Console.Run
import RouteServer.Proofs.Console.Untitled
import RouteServer.Proofs.Endpoint.Fitting
import RouteServer.Proofs.Endpoint.Host
import RouteServer.Proofs.Endpoint.Naming
import RouteServer.Proofs.Endpoint.Path
import RouteServer.Proofs.Endpoint.Reading
import RouteServer.Proofs.Except
import RouteServer.Proofs.Family
import RouteServer.Proofs.Family.Calls
import RouteServer.Proofs.Json.Reader
import RouteServer.Proofs.Json.RoundTrip
import RouteServer.Proofs.Keyed
import RouteServer.Proofs.Lists
import RouteServer.Proofs.Numerals
import RouteServer.Proofs.Reactor.Cell
import RouteServer.Proofs.Reactor.Conversation
import RouteServer.Proofs.Reactor.Course
import RouteServer.Proofs.Reactor.Departure
import RouteServer.Proofs.Reactor.Due
import RouteServer.Proofs.Reactor.Legible
import RouteServer.Proofs.Reactor.Phases
import RouteServer.Proofs.Reactor.Responses
import RouteServer.Proofs.Reactor.Settled
import RouteServer.Proofs.Reactor.Tasks
import RouteServer.Proofs.Reactor.Turns
import RouteServer.Proofs.Report.Agreement
import RouteServer.Proofs.Report.Duration
import RouteServer.Proofs.Report.Lines
import RouteServer.Proofs.Report.Objects
import RouteServer.Proofs.Report.Rebuilt
import RouteServer.Proofs.Schedule.Apart
import RouteServer.Proofs.Schedule.Client
import RouteServer.Proofs.Schedule.Delivery
import RouteServer.Proofs.Schedule.Endings
import RouteServer.Proofs.Schedule.Lifecycle
import RouteServer.Proofs.Schedule.Output
import RouteServer.Proofs.Schedule.Rotation
import RouteServer.Proofs.Schedule.Run
import RouteServer.Proofs.Schedule.Task
import RouteServer.Proofs.Session.Course
import RouteServer.Proofs.Session.Forgetting
import RouteServer.Proofs.Session.History
import RouteServer.Proofs.Session.Names
import RouteServer.Proofs.Session.Opening
import RouteServer.Proofs.Session.Requests
import RouteServer.Proofs.Session.Snapshots
import RouteServer.Proofs.Text
import RouteServer.Proofs.Text.Spacing
import RouteServer.Proofs.Trace
import RouteServer.Proofs.Utf8
import RouteServer.Reactor
import RouteServer.Report.Record
import RouteServer.Report.Table
import RouteServer.Schedule.Scheduler
import RouteServer.Schedule.Task
import RouteServer.Session.Recorded
import RouteServer.Session.Snapshot
import RouteServer.Session.Table
import RouteServer.Settings.Arguments
import RouteServer.Settings.Basic
import RouteServer.Settings.Candidates
import RouteServer.Settings.Environment
import RouteServer.Settings.Layers
import RouteServer.Settings.Source
import RouteServer.SystemError
import RouteServer.Text.Blank
import RouteServer.Text.Decimal
import RouteServer.Text.Printable
import RouteServer.Text.Similar
import RouteServer.Text.Utf8
import RouteServer.Toml.Document
import RouteServer.Toml.Node
import RouteServer.Toml.Scalar
import RouteServer.Toml.Text
import RouteServer.Unicode.Alphanumeric
import RouteServer.Unicode.CodeSet
import RouteServer.Unicode.Direction
import RouteServer.Unicode.Joining
import RouteServer.Unicode.Normal
