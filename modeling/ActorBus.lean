import ActorBus.Actor.Basic
import ActorBus.Actor.Intake
import ActorBus.Binary
import ActorBus.Bus
import ActorBus.Bytes
import ActorBus.Callback.Caller
import ActorBus.Callback.Completion
import ActorBus.Callback.Table
import ActorBus.Client
import ActorBus.Codec.Basic
import ActorBus.Codec.Frames
import ActorBus.Config
import ActorBus.Error
import ActorBus.Factory
import ActorBus.Instances
import ActorBus.Json.Number
import ActorBus.Json.Object
import ActorBus.Json.Skip
import ActorBus.Json.Text
import ActorBus.Json.Value
import ActorBus.Keyed
import ActorBus.LineWriter
import ActorBus.Message.Argument
import ActorBus.Message.Assembly
import ActorBus.Message.Envelope
import ActorBus.Monitor
import ActorBus.Number.Binary64
import ActorBus.Number.Power
import ActorBus.Number.Shortest
import ActorBus.Object
import ActorBus.Proofs.Actor.Alike
import ActorBus.Proofs.Actor.Call
import ActorBus.Proofs.Actor.Callers
import ActorBus.Proofs.Actor.Company
import ActorBus.Proofs.Actor.Faults
import ActorBus.Proofs.Actor.Intake
import ActorBus.Proofs.Actor.Payloads
import ActorBus.Proofs.Actor.Run
import ActorBus.Proofs.Actor.Seat
import ActorBus.Proofs.Actor.Sends
import ActorBus.Proofs.Actor.Serve
import ActorBus.Proofs.Actor.Transcript
import ActorBus.Proofs.Actor.Turn
import ActorBus.Proofs.Callback.Caller
import ActorBus.Proofs.Callback.Run
import ActorBus.Proofs.Callback.Table
import ActorBus.Proofs.Codec.Afresh
import ActorBus.Proofs.Codec.Canonical
import ActorBus.Proofs.Codec.Formats
import ActorBus.Proofs.Codec.Frames
import ActorBus.Proofs.Codec.Starts
import ActorBus.Proofs.Config.Overrides
import ActorBus.Proofs.Factory.Activate
import ActorBus.Proofs.Factory.Activations
import ActorBus.Proofs.Factory.HalfTurn
import ActorBus.Proofs.Factory.Settle
import ActorBus.Proofs.Json.Number
import ActorBus.Proofs.Json.Object
import ActorBus.Proofs.Json.Opening
import ActorBus.Proofs.Json.Text
import ActorBus.Proofs.Json.Zero
import ActorBus.Proofs.Message.Alternation
import ActorBus.Proofs.Message.FirstError
import ActorBus.Proofs.Message.Grammar
import ActorBus.Proofs.Message.Markers
import ActorBus.Proofs.Message.Payload
import ActorBus.Proofs.Message.RoundTrip
import ActorBus.Proofs.Object.Binary
import ActorBus.Proofs.Service.Answers
import ActorBus.Proofs.Service.CustomerStore
import ActorBus.Proofs.Service.EchoReplies
import ActorBus.Proofs.Service.HexReplies
import ActorBus.Proofs.Service.Journal
import ActorBus.Proofs.Service.Ledger
import ActorBus.Proofs.Service.SaveOnce
import ActorBus.Proofs.Service.SaveOutcomes
import ActorBus.Proofs.Service.Saves
import ActorBus.Proofs.Service.Shutdown
import ActorBus.Proofs.Silo.Attend
import ActorBus.Proofs.Silo.Calls
import ActorBus.Proofs.Silo.Counted
import ActorBus.Proofs.Silo.Crew
import ActorBus.Proofs.Silo.Deeds
import ActorBus.Proofs.Silo.Departures
import ActorBus.Proofs.Silo.Going
import ActorBus.Proofs.Silo.Lifecycle
import ActorBus.Proofs.Silo.Muster
import ActorBus.Proofs.Silo.Post
import ActorBus.Proofs.Silo.Rest
import ActorBus.Proofs.Silo.Run
import ActorBus.Proofs.Silo.Staffed
import ActorBus.Proofs.Silo.Stages
import ActorBus.Proofs.Silo.Start
import ActorBus.Proofs.Silo.Stop
import ActorBus.Proofs.Silo.StopOrders
import ActorBus.Proofs.Silo.Worker
import ActorBus.Proofs.Text.Canonical
import ActorBus.Proofs.Text.Case
import ActorBus.Proofs.Text.Digits
import ActorBus.Proofs.Text.Hex
import ActorBus.Proofs.Text.Utf16
import ActorBus.Proofs.Text.Utf8
import ActorBus.Proofs.Transport.Exchange
import ActorBus.Proofs.Transport.Line
import ActorBus.Proofs.Transport.Publisher
import ActorBus.Proofs.Transport.Reading
import ActorBus.Proofs.Transport.Receivers
import ActorBus.Proofs.Transport.Relay
import ActorBus.Proofs.Transport.Seats
import ActorBus.Proofs.Transport.Subscriber
import ActorBus.Proofs.Workload.Answers
import ActorBus.Proofs.Workload.Completions
import ActorBus.Proofs.Workload.Counting
import ActorBus.Proofs.Workload.Creations
import ActorBus.Proofs.Workload.Handler
import ActorBus.Proofs.Workload.Sends
import ActorBus.Proofs.Workload.Texts
import ActorBus.Properties
import ActorBus.Service.CustomerStore
import ActorBus.Service.Echo
import ActorBus.Service.HexText
import ActorBus.Service.LineJournal
import ActorBus.Service.Suite
import ActorBus.Silo.Basic
import ActorBus.Silo.Caller
import ActorBus.Store
import ActorBus.Text.Blank
import ActorBus.Text.Duration
import ActorBus.Text.Hex
import ActorBus.Text.Quoted
import ActorBus.Text.Unprintable
import ActorBus.Text.Utf16
import ActorBus.Text.Utf8
import ActorBus.Threads
import ActorBus.Toml.Document
import ActorBus.Toml.Scalar
import ActorBus.Toml.Value
import ActorBus.Transport.Endpoint
import ActorBus.Transport.Pipe
import ActorBus.Transport.Publisher
import ActorBus.Transport.Subscriber
import ActorBus.Trial.Basic
import ActorBus.Trial.Script
import ActorBus.Workload.Basic
import ActorBus.Workload.Handler
import ActorBus.Workload.Operations
