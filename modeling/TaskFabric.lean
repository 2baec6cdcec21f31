import TaskFabric.Card
import TaskFabric.Card.Wire
import TaskFabric.Case
import TaskFabric.Catchup
import TaskFabric.ClusterError
import TaskFabric.CommandLine
import TaskFabric.CommandLine.Options
import TaskFabric.Config
import TaskFabric.Decimal
import TaskFabric.Digest
import TaskFabric.Digest.Wire
import TaskFabric.Disk
import TaskFabric.Dispatch
import TaskFabric.Double
import TaskFabric.Double.Scaled
import TaskFabric.Double.Text
import TaskFabric.Duration
import TaskFabric.Handler
import TaskFabric.Handler.Builtin
import TaskFabric.Handler.Probe
import TaskFabric.Http.Client
import TaskFabric.Http.Head
import TaskFabric.Http.MediaType
import TaskFabric.Http.Pattern
import TaskFabric.Http.Reply
import TaskFabric.Http.Route
import TaskFabric.Http.Router
import TaskFabric.Http.Server
import TaskFabric.Http.StatusCode
import TaskFabric.Json
import TaskFabric.Json.Parser
import TaskFabric.Json.Record
import TaskFabric.Json.Text
import TaskFabric.Loopback
import TaskFabric.Main
import TaskFabric.Message
import TaskFabric.Message.Wire
import TaskFabric.Node
import TaskFabric.Numeral
import TaskFabric.Path
import TaskFabric.Pipeline
import TaskFabric.Pipeline.Wire
import TaskFabric.Placement
import TaskFabric.Program
import TaskFabric.Proofs.CardIdentities
import TaskFabric.Proofs.Deadlines
import TaskFabric.Proofs.Dispatch.Accounts
import TaskFabric.Proofs.Dispatch.Completeness
import TaskFabric.Proofs.Dispatch.Exchanges
import TaskFabric.Proofs.Dispatch.Histories
import TaskFabric.Proofs.Dispatch.Interleaving
import TaskFabric.Proofs.Dispatch.LocationTransparency
import TaskFabric.Proofs.Dispatch.Placements
import TaskFabric.Proofs.Dispatch.Sequential
import TaskFabric.Proofs.Dispatch.Termination
import TaskFabric.Proofs.Gossip.AdoptionReports
import TaskFabric.Proofs.Gossip.ArrivalOrder
import TaskFabric.Proofs.Gossip.BackgroundLoop
import TaskFabric.Proofs.Gossip.Contacts
import TaskFabric.Proofs.Gossip.Isolation
import TaskFabric.Proofs.Gossip.Keying
import TaskFabric.Proofs.Gossip.LocalChanges
import TaskFabric.Proofs.Gossip.MisplacedCards
import TaskFabric.Proofs.Gossip.OwnCard
import TaskFabric.Proofs.Gossip.PrefixMaxima
import TaskFabric.Proofs.Gossip.Provenance
import TaskFabric.Proofs.Gossip.Reaping
import TaskFabric.Proofs.Gossip.Refusals
import TaskFabric.Proofs.Gossip.Rotation
import TaskFabric.Proofs.Gossip.Rounds
import TaskFabric.Proofs.Gossip.Traffic
import TaskFabric.Proofs.Gossip.Unreached
import TaskFabric.Proofs.Gossip.ViewHistories
import TaskFabric.Proofs.IntegerSums
import TaskFabric.Proofs.Json.ViewDocuments
import TaskFabric.Proofs.Json.WireDocuments
import TaskFabric.Proofs.Json.WrittenText
import TaskFabric.Proofs.LoopbackRoutes
import TaskFabric.Proofs.Persistence.FailedChanges
import TaskFabric.Proofs.Persistence.Restart
import TaskFabric.Proofs.Persistence.SiblingPaths
import TaskFabric.Proofs.Scheduler.Changes
import TaskFabric.Proofs.Scheduler.Completion
import TaskFabric.Proofs.Scheduler.DeadlineArithmetic
import TaskFabric.Proofs.Scheduler.Expiries
import TaskFabric.Proofs.Scheduler.FutureProtocol
import TaskFabric.Proofs.Scheduler.LaneContents
import TaskFabric.Proofs.Scheduler.LaneOrder
import TaskFabric.Proofs.Scheduler.Operations
import TaskFabric.Proofs.Scheduler.PipelineRuns
import TaskFabric.Proofs.Scheduler.ServiceOrder
import TaskFabric.Proofs.Scheduler.Setting
import TaskFabric.Proofs.Scheduler.Settling
import TaskFabric.Proofs.Scheduler.Soundness
import TaskFabric.Proofs.Scheduler.TicketShifts
import TaskFabric.Proofs.Scheduler.Tickets
import TaskFabric.Proofs.Scheduler.Wakeups
import TaskFabric.Proofs.Scheduler.Watching
import TaskFabric.Proofs.Scheduler.Whereabouts
import TaskFabric.Proofs.Scheduler.WorkerBooks
import TaskFabric.Proofs.Scheduler.WorkerCalls
import TaskFabric.Proofs.Scheduler.WorkerLives
import TaskFabric.Proofs.SortedMapLookups
import TaskFabric.Proofs.StageNavigation
import TaskFabric.Replay
import TaskFabric.Scheduler
import TaskFabric.Scheduler.Batch
import TaskFabric.Scheduler.Error
import TaskFabric.Scheduler.Future
import TaskFabric.Scheduler.Lanes
import TaskFabric.Scheduler.Worker
import TaskFabric.Script
import TaskFabric.Shell.Files
import TaskFabric.Shell.Service
import TaskFabric.Shell.Sockets
import TaskFabric.SocketAddress
import TaskFabric.SortedMap
import TaskFabric.Task
import TaskFabric.Task.Wire
import TaskFabric.Text
import TaskFabric.Text.Utf8
import TaskFabric.Toml
import TaskFabric.Toml.Moment
import TaskFabric.Toml.Parser
import TaskFabric.Transport
import TaskFabric.Value
import TaskFabric.Word
import TaskFabric.Proofs.Persistence.Atomicity
