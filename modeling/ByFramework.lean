import ByFramework.Admission
import ByFramework.AdmissionCore
import ByFramework.AgentConfigCore
import ByFramework.AgentConfigs
import ByFramework.AskRounds
import ByFramework.Async.Accord
import ByFramework.Async.Alone
import ByFramework.Async.Custody
import ByFramework.Async.Embedding
import ByFramework.Async.Footprint
import ByFramework.Async.Logic
import ByFramework.Async.Noting
import ByFramework.Async.Pool
import ByFramework.Async.Program
import ByFramework.Async.Schedule
import ByFramework.Async.Watch
import ByFramework.Availability
import ByFramework.AvailabilityCore
import ByFramework.BarredWorkers
import ByFramework.Barring
import ByFramework.Cancel
import ByFramework.CancelCascade
import ByFramework.CancelCore
import ByFramework.ClientCore
import ByFramework.Collections.InsertionMap
import ByFramework.Collections.Ledger
import ByFramework.Collections.Rotation
import ByFramework.CommandCodec
import ByFramework.CommandCodecCore
import ByFramework.ConsumeLoop
import ByFramework.Context
import ByFramework.ContextCore
import ByFramework.CustodyIssues
import ByFramework.Delivery
import ByFramework.DeliveryCore
import ByFramework.Departures
import ByFramework.Directory
import ByFramework.DirectoryCore
import ByFramework.DiscoveryCore
import ByFramework.DispatchCore
import ByFramework.DispatchMetadata
import ByFramework.DispatchPlaces
import ByFramework.DispatchRounds
import ByFramework.Effects
import ByFramework.EmitterCore
import ByFramework.EntryCustody
import ByFramework.FailedDispatch
import ByFramework.Fleet
import ByFramework.FleetCore
import ByFramework.GateHistory
import ByFramework.GroupCollect
import ByFramework.GroupCollectCore
import ByFramework.GroupJoin
import ByFramework.GroupJoinCore
import ByFramework.Hash.Fnv1a
import ByFramework.Hash.Md5
import ByFramework.Hash.Sha1
import ByFramework.HealthEpisodes
import ByFramework.Heartbeat
import ByFramework.HeartbeatCore
import ByFramework.HttpClientCore
import ByFramework.HttpRetry
import ByFramework.KeySlots
import ByFramework.KeySpace
import ByFramework.KeySpaceCore
import ByFramework.LangfusePlugin
import ByFramework.LangfusePluginCore
import ByFramework.LeaseOwnership
import ByFramework.Lifecycle
import ByFramework.LifecycleCore
import ByFramework.LocalStorage
import ByFramework.LocalStorageCore
import ByFramework.LockPhases
import ByFramework.MemberCodec
import ByFramework.NodeSwitching
import ByFramework.OneTarget
import ByFramework.OrphanReclaim
import ByFramework.PathSegments
import ByFramework.PluginConfigs
import ByFramework.PluginCore
import ByFramework.PresenceLeases
import ByFramework.ProcessorCore
import ByFramework.ProcessorTurns
import ByFramework.Protocol
import ByFramework.RecordKeeping
import ByFramework.Records
import ByFramework.Redis.Groups
import ByFramework.Redis.HashTag
import ByFramework.Redis.Lease
import ByFramework.Redis.Lock
import ByFramework.Redis.Membership
import ByFramework.Redis.Ranked
import ByFramework.Redis.Store
import ByFramework.Redis.StoreCore
import ByFramework.RedisPassword
import ByFramework.RedisPasswordCore
import ByFramework.RegisteredFirst
import ByFramework.Registry
import ByFramework.RegistryCore
import ByFramework.RenewalCeiling
import ByFramework.ReplyExits
import ByFramework.ReplyLog
import ByFramework.ReplyObligation
import ByFramework.ResumeReattach
import ByFramework.RevealedWaits
import ByFramework.RoundRobin
import ByFramework.Runner
import ByFramework.RunnerCore
import ByFramework.RunnerFencing
import ByFramework.SandboxContainment
import ByFramework.SandboxCore
import ByFramework.ShardHash
import ByFramework.SoleHandler
import ByFramework.SpanBudget
import ByFramework.SpanPayload
import ByFramework.SpanRecorderCore
import ByFramework.StandIn
import ByFramework.StatusReaders
import ByFramework.StoredAnswer
import ByFramework.SweepEntry
import ByFramework.SweepLocks
import ByFramework.SweepProgress
import ByFramework.SweepTriage
import ByFramework.Text.Hex
import ByFramework.Text.Template
import ByFramework.Text.Utf8
import ByFramework.TraceEnvelope
import ByFramework.TurnReading
import ByFramework.Untending
import ByFramework.UserIdentity
import ByFramework.WaitAgreement
import ByFramework.WaitGate
import ByFramework.WaitGateCore
import ByFramework.WaitIndexCore
import ByFramework.WaitPruning
import ByFramework.WaitReply
import ByFramework.WaitReplyCore
import ByFramework.WaitSweeper
import ByFramework.WaitSweeperCore
import ByFramework.Worker
import ByFramework.WorkerCore
import ByFramework.WorkerTurns
import ByFramework.WorkspaceIsolation
