import IndustrialReliability.Lib.Results
import IndustrialReliability.Lib.Runs
import IndustrialReliability.Lib.Table
import IndustrialReliability.Alert.State
import IndustrialReliability.Alert.Simulation
import IndustrialReliability.Alert.Consumer
import IndustrialReliability.Alert.Service
import IndustrialReliability.Alert.CommitSafety
import IndustrialReliability.Alert.OutboxOrder
import IndustrialReliability.Alert.Stamps
import IndustrialReliability.Alert.Ledger
import IndustrialReliability.Alert.Redelivery
import IndustrialReliability.Lib.Grouping
import IndustrialReliability.Lib.Windows
import IndustrialReliability.Features.Causal
import IndustrialReliability.Features.Contract
import IndustrialReliability.Features.Online
import IndustrialReliability.Features.Offline
import IndustrialReliability.Features.Parity
import IndustrialReliability.Replay.Controller
import IndustrialReliability.Replay.Source
import IndustrialReliability.Replay.Service
import IndustrialReliability.Replay.Moves
import IndustrialReliability.Replay.Coherence
import IndustrialReliability.Replay.Uniqueness
import IndustrialReliability.Lib.Logs
import IndustrialReliability.Replay.StartRedelivery
import IndustrialReliability.Replay.Legality
import IndustrialReliability.Alert.EventLog
import IndustrialReliability.Alert.AlertsTable
import IndustrialReliability.Alert.Records
import IndustrialReliability.Alert.Reconstruction
import IndustrialReliability.Features.Segments
import IndustrialReliability.Features.WindowOrder
import IndustrialReliability.Alert.Absorption
import IndustrialReliability.Alert.ExactlyOnce
import IndustrialReliability.Worker.Worker
import IndustrialReliability.Worker.Service
import IndustrialReliability.Worker.Frames
import IndustrialReliability.Worker.SafeCommits
import IndustrialReliability.Worker.Records
import IndustrialReliability.Worker.Recall
import IndustrialReliability.Worker.OpenSessions
import IndustrialReliability.Console.Feed
import IndustrialReliability.Console.StatusLog
import IndustrialReliability.Console.Stream
import IndustrialReliability.Lib.Catchup
import IndustrialReliability.Console.Resume
import IndustrialReliability.Console.Operator
import IndustrialReliability.Console.OperatorView
import IndustrialReliability.Lab.Contracts
import IndustrialReliability.Lab.Network
import IndustrialReliability.Lab.Solver
import IndustrialReliability.Lab.Sensors
import IndustrialReliability.Lab.Exact
import IndustrialReliability.Lab.Compiles
import IndustrialReliability.Lab.Readings
import IndustrialReliability.Lab.Checkpoints
import IndustrialReliability.Lab.Pressures
import IndustrialReliability.Lab.Commands
import IndustrialReliability.Lab.Store
import IndustrialReliability.Lab.Changes
import IndustrialReliability.Lab.Invariants
import IndustrialReliability.Lab.Batches
import IndustrialReliability.Lab.Protocol
import IndustrialReliability.Lab.Verified
import IndustrialReliability.Lab.Engine
import IndustrialReliability.Lab.Served
import IndustrialReliability.Lab.Submissions
import IndustrialReliability.Lab.QualityAlerts
import IndustrialReliability.Lab.LimitAlerts
import IndustrialReliability.Console.EditorCascade
import IndustrialReliability.Benchmark.Sensitivity
import IndustrialReliability.Alert.Refusals
import IndustrialReliability.Features.Coverage
import IndustrialReliability.Lab.Controls
import IndustrialReliability.Lab.Valves
import IndustrialReliability.Lib.ActiveSet
import IndustrialReliability.Lab.Convergence
import IndustrialReliability.Lab.Faults
import IndustrialReliability.Lab.FaultOrder
import IndustrialReliability.Lab.Outbox
import IndustrialReliability.Lib.Deliveries
import IndustrialReliability.Lab.OutboxOrder
import IndustrialReliability.Console.EditorHistory
import IndustrialReliability.Lib.Losses
import IndustrialReliability.Console.SlowSubscriber
import IndustrialReliability.Data.Csv
import IndustrialReliability.Data.Batching
import IndustrialReliability.Lib.PrefixSums
import IndustrialReliability.Features.Training
import IndustrialReliability.Features.NaiveWindows
import IndustrialReliability.Replay.Pacing
import IndustrialReliability.Lib.Thinning
import IndustrialReliability.Console.Downsampling
import IndustrialReliability.Rca.Report
import IndustrialReliability.Rca.Evidence
import IndustrialReliability.Rca.Histories
import IndustrialReliability.Rca.Generator
import IndustrialReliability.Rca.Races
import IndustrialReliability.Lib.Renaming
import IndustrialReliability.Lab.Renaming
import IndustrialReliability.Lab.Clone
import IndustrialReliability.Lab.Revisions
import IndustrialReliability.Lab.Chain
import IndustrialReliability.Lib.Keyset
import IndustrialReliability.Lab.Listing
import IndustrialReliability.Alert.Selection
import IndustrialReliability.Lib.Resent
import IndustrialReliability.Replay.Progress
import IndustrialReliability.Features.Repeats
import IndustrialReliability.Features.Interruptions
import IndustrialReliability.Worker.Handshake
import IndustrialReliability.Worker.Restarts
import IndustrialReliability.Worker.Pipeline
import IndustrialReliability.Lib.JsonText
import IndustrialReliability.Lib.CanonicalJson
import IndustrialReliability.Lab.CanonicalTexts
import IndustrialReliability.Lab.Recognition
