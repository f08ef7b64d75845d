import Maze.Library.Transition
import Maze.Library.Fallible
import Maze.Python.Value
import Maze.Core.AttemptGate
import Maze.Scheduler.TaskRuntime
import Maze.Scheduler.TaskLifecycle
import Maze.Scheduler.AttemptAgreement
import Maze.Core.DynamicRun
import Maze.Scheduler.StoppedMarks
import Maze.Core.CompletedTasks
import Maze.Python.Json
import Maze.Python.Utf8
import Maze.Python.JsonReader
import Maze.Python.JsonNumber
import Maze.Python.JsonRoundTrip
import Maze.Core.EventLog
import Maze.Core.EventLogFiles
import Maze.Core.TornWrites
import Maze.Core.DynamicSnapshot
import Maze.Core.DynamicRunStore
import Maze.Core.DynamicReplay
import Maze.Core.DynamicPersistence
import Maze.Core.DynamicOperations
import Maze.Core.DynamicRecovery
import Maze.Core.RecoveryCrash
import Maze.Python.Number
import Maze.Core.Resources
import Maze.Core.ResourceAmounts
import Maze.Core.NormalResources
import Maze.Core.TaskSemantics
import Maze.Core.StoredSpec
import Maze.Core.StoredSpecKept
import Maze.Core.Recommendation
import Maze.Core.ResourceHistory
import Maze.Core.TaskPreparation
import Maze.Core.StaticRun
import Maze.Core.StaticCore
import Maze.Core.StaticTransactions
import Maze.Core.StaticReadiness
import Maze.Core.StaticDispatch
import Maze.Core.DynamicMonitor
import Maze.Core.DynamicDispatch
import Maze.Core.RunSafety
import Maze.Core.TaskLife
import Maze.Library.Dict
import Maze.Library.Table
import Maze.Library.Digraph
import Maze.Python.Text
import Maze.Core.DagSpec
import Maze.Core.OutputReferences
import Maze.Core.DagBindings
import Maze.Scheduler.ResourceManager
import Maze.Scheduler.ResourceAccounting
import Maze.Scheduler.CapacityGate
import Maze.Scheduler.Placement
import Maze.Scheduler.TaskLeases
import Maze.Scheduler.LeaseEffects
import Maze.Scheduler.LeaseOwnership
import Maze.Scheduler.VerifiedCleanup
import Maze.Core.StaticMarks
import Maze.Core.StaticStatus
import Maze.Python.JsonText
import Maze.Core.StaticSnapshot
import Maze.Core.StaticRecovery
import Maze.Core.DynamicReadiness
import Maze.Core.DynamicDepths
import Maze.Core.WorkflowGraph
import Maze.Core.WorkflowReadiness
import Maze.Core.DynamicAppend
import Maze.Core.Deadlines
import Maze.Scheduler.ModelInstances
import Maze.Scheduler.ModelIndexes
import Maze.Scheduler.ModelDemand
import Maze.Scheduler.ModelInflight
import Maze.Scheduler.DagAffinity
import Maze.Scheduler.ModelScaling
import Maze.Scheduler.TaskQueues
import Maze.Scheduler.QueueEntries
import Maze.Scheduler.MessageOrder
import Maze.Scheduler.StopRequest
import Maze.Scheduler.StopResumed
import Maze.Scheduler.StopAfterwards
import Maze.Python.DoubleExact
import Maze.Core.HistoryRecords
import Maze.Python.JsonIndent
import Maze.Core.HistoryAdmission
import Maze.Core.HistoryArchive
import Maze.Core.HistoryKept
import Maze.Library.Regex
import Maze.Python.AmountText
import Maze.Scheduler.MemoryFailure
import Maze.Files.ArtifactStore
import Maze.Files.ArtifactPrivacy
import Maze.Files.PrivateBlobs
import Maze.Files.PrivateArtifacts
import Maze.Python.Numeric
import Maze.Metrics.Collector
import Maze.Metrics.Totals
import Maze.Metrics.GlobalMetrics
import Maze.Metrics.GlobalReports
import Maze.Scheduler.RunnerEnvelope
import Maze.Core.RunInputs
import Maze.Scheduler.HeterogeneousQueues
import Maze.Scheduler.StandbyLeases
import Maze.Playground.CompilersAgree
import Maze.Scheduler.StrictProjection
import Maze.Core.WorkflowDispatch
import Maze.Core.DispatchInvariant
import Maze.Core.DispatchCalls
import Maze.Core.DispatchSafety
