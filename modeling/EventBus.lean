import EventBus.Broker
import EventBus.Broker.Directory
import EventBus.Broker.Roster
import EventBus.Calendar
import EventBus.Cli
import EventBus.Cli.Arguments
import EventBus.Cli.Help
import EventBus.Config
import EventBus.Config.Document
import EventBus.Config.Json
import EventBus.Config.Load
import EventBus.Config.Record
import EventBus.Config.Substitution
import EventBus.Config.Url
import EventBus.Connection
import EventBus.Connection.Credentials
import EventBus.Connection.Error
import EventBus.Connection.Network
import EventBus.Connection.Options
import EventBus.Connection.Refresh
import EventBus.Connection.Retry
import EventBus.Dispatch
import EventBus.Double
import EventBus.Double.Shortest
import EventBus.Duration
import EventBus.Entries
import EventBus.Environment
import EventBus.Error
import EventBus.Event
import EventBus.Event.Inbound
import EventBus.Event.Outbound
import EventBus.Event.Record
import EventBus.Files
import EventBus.Id
import EventBus.Json.Basic
import EventBus.Json.Diagnostic
import EventBus.Json.Reader
import EventBus.Json.Record
import EventBus.Json.Tree
import EventBus.Json.Writer
import EventBus.Log
import EventBus.Log.Directive
import EventBus.Log.Filter
import EventBus.Log.Text
import EventBus.Main
import EventBus.Message
import EventBus.Outcome
import EventBus.Packet
import EventBus.Payload
import EventBus.Proofs.Broker.Roster
import EventBus.Proofs.Calendar
import EventBus.Proofs.Cli.Load
import EventBus.Proofs.Cli.Secrecy
import EventBus.Proofs.Config.Substitution
import EventBus.Proofs.Config.Validity
import EventBus.Proofs.Connection.Attempts
import EventBus.Proofs.Connection.Credentials
import EventBus.Proofs.Connection.Refresh
import EventBus.Proofs.Connection.Retry
import EventBus.Proofs.Digits
import EventBus.Proofs.Dispatch.Nesting
import EventBus.Proofs.Dispatch.Schedule
import EventBus.Proofs.Double
import EventBus.Proofs.Duration
import EventBus.Proofs.Entries
import EventBus.Proofs.Event.Readers
import EventBus.Proofs.Event.Wire
import EventBus.Proofs.Json.Arrangement
import EventBus.Proofs.Json.Members
import EventBus.Proofs.Json.Numeral
import EventBus.Proofs.Json.Record
import EventBus.Proofs.Json.String
import EventBus.Proofs.Json.Text
import EventBus.Proofs.Json.Value
import EventBus.Proofs.Payload
import EventBus.Proofs.Publisher.Driver
import EventBus.Proofs.Publisher.Ledger
import EventBus.Proofs.Publisher.Queue
import EventBus.Proofs.Publisher.Renewal
import EventBus.Proofs.Serialized
import EventBus.Proofs.Service.Coverage
import EventBus.Proofs.Service.Declarations
import EventBus.Proofs.Service.Enrollment
import EventBus.Proofs.Service.Growth
import EventBus.Proofs.Service.Null
import EventBus.Proofs.Service.Run
import EventBus.Proofs.Service.Startup
import EventBus.Proofs.Span
import EventBus.Proofs.Splice
import EventBus.Proofs.Subscriber.Accounting
import EventBus.Proofs.Subscriber.Attempts
import EventBus.Proofs.Subscriber.Cycle
import EventBus.Proofs.Subscriber.Listener
import EventBus.Proofs.Subscriber.Panic
import EventBus.Proofs.Subscriber.Plan
import EventBus.Proofs.Subscriber.Reconnect
import EventBus.Proofs.Subscriber.Topics
import EventBus.Proofs.Subscriber.Worker
import EventBus.Proofs.Subscription.Declaration
import EventBus.Proofs.Subscription.History
import EventBus.Proofs.Subscription.Inbound
import EventBus.Proofs.Subscription.Plan
import EventBus.Proofs.Subscription.Registry
import EventBus.Proofs.Timestamp
import EventBus.Proofs.Topic.Base
import EventBus.Proofs.Topic.Grammar
import EventBus.Proofs.Topic.Plan
import EventBus.Proofs.Topic.Prefix
import EventBus.Proofs.Topic.Segments
import EventBus.Proofs.Topic.Selection
import EventBus.Proofs.Topic.Slashes
import EventBus.Proofs.Url.Authority
import EventBus.Proofs.Url.Percent
import EventBus.Proofs.Url.Secrecy
import EventBus.Proofs.Utf8
import EventBus.Publisher
import EventBus.Publisher.Session
import EventBus.Qos
import EventBus.Record
import EventBus.Service
import EventBus.Service.Null
import EventBus.Service.Request
import EventBus.StandIn
import EventBus.Subscriber
import EventBus.Subscriber.Delivery
import EventBus.Subscription
import EventBus.Subscription.Declaration
import EventBus.Subscription.Registry
import EventBus.Text.Alphanumeric
import EventBus.Text.Blank
import EventBus.Text.Plain
import EventBus.Text.Quoted
import EventBus.Text.Visible
import EventBus.Timestamp
import EventBus.Timestamp.Rfc3339
import EventBus.Toml
import EventBus.Toml.Draft
import EventBus.Toml.Reader
import EventBus.Toml.Scalar
import EventBus.Toml.Writer
import EventBus.Topic
import EventBus.Topic.Filter
import EventBus.Topic.Prefix
import EventBus.Url
import EventBus.Url.Address
import EventBus.Url.Percent
import EventBus.Utf8
import EventBus.World
