import Sysboost.ByteCodec.BigEndian
import Sysboost.ByteCodec.Fields
import Sysboost.Interaction.Program
import Sysboost.Interaction.Safety
import Sysboost.Platform.Engine
import Sysboost.Core.Ids
import Sysboost.Core.Error
import Sysboost.Core.Capability
import Sysboost.Core.Mutation
import Sysboost.Core.Journal
import Sysboost.Interaction.Runs
import Sysboost.Platform.World
import Sysboost.Platform.Prepared
import Sysboost.Platform.Evolution
import Sysboost.Platform.Accounting
import Sysboost.Platform.Coherence
import Sysboost.Platform.RestoreConduct
import Sysboost.Platform.Conduct
import Sysboost.Platform.Requests
import Sysboost.Platform.Durability
import Sysboost.Interaction.Trace
import Sysboost.Platform.RestoreTrace
import Sysboost.Platform.ApplyTrace
import Sysboost.Interaction.Effects
import Sysboost.Interaction.Contracts
import Sysboost.Platform.Handoff
import Sysboost.Platform.Tenure
import Sysboost.Platform.Exclusion
import Sysboost.Platform.Idempotence
import Sysboost.Platform.Privilege
import Sysboost.Platform.HelperRun
import Sysboost.Platform.Authorization
import Sysboost.Platform.Binding
import Sysboost.Ordered.Map
import Sysboost.Ordered.Sorting
import Sysboost.Planner.Policy
import Sysboost.Planner.Candidate
import Sysboost.Planner.Digest
import Sysboost.Planner.Resolve
import Sysboost.Planner.Build
import Sysboost.Planner.Admission
import Sysboost.Planner.Outcome
import Sysboost.Planner.Selection
import Sysboost.Planner.Checklist
import Sysboost.Planner.Decision
import Sysboost.Planner.Required
import Sysboost.Planner.Grounding
import Sysboost.Results.Errors
import Sysboost.Planner.Dependencies
import Sysboost.Ordered.Folding
import Sysboost.Planner.Order
import Sysboost.ByteCodec.Text
import Sysboost.Storage.Disk
import Sysboost.Storage.Healthy
import Sysboost.Core.Hex
import Sysboost.State.FileName
import Sysboost.State.FileStateStore
import Sysboost.ByteCodec.Canonical
import Sysboost.Protocol.Wire
import Sysboost.Platform.Registry
import Sysboost.Interaction.Early
import Sysboost.Interaction.Marks
import Sysboost.Interaction.Reading
import Sysboost.Interaction.Raising
import Sysboost.Interaction.Static
import Sysboost.ByteCodec.Unicode
import Sysboost.Kernel.Files
import Sysboost.Kernel.Tree
import Sysboost.Linux.CpuSysfs
import Sysboost.Linux.CpuBackend
import Sysboost.Linux.CpuCalls
import Sysboost.Linux.CpuReading
import Sysboost.Linux.CpuHonesty
import Sysboost.Linux.WorkloadRestore
import Sysboost.Linux.WorkloadSysfs
import Sysboost.Linux.WorkloadBackend
import Sysboost.Linux.WorkloadCalls
import Sysboost.Linux.WorkloadHonesty
import Sysboost.Linux.WorkloadPlacement
import Sysboost.Platform.Process
import Sysboost.State.LockOwner
import Sysboost.State.FileSessionLock
import Sysboost.State.LockWorld
import Sysboost.State.LockCalls
import Sysboost.State.LockExclusion
import Sysboost.State.LockRecovery
import Sysboost.ByteCodec.Delimited
import Sysboost.Planner.Legible
import Sysboost.Planner.Schedule
import Sysboost.Planner.Rendering
import Sysboost.Planner.Grounds
import Sysboost.Planner.ItemBytes
import Sysboost.Planner.Coverage
import Sysboost.Results.Panics
import Sysboost.Platform.Filesystem
import Sysboost.Linux.Discovery.Probe
import Sysboost.Linux.Discovery.CpuFreq
import Sysboost.Linux.Discovery.Host
import Sysboost.Linux.Discovery.Report
import Sysboost.Planner.CurrentState
import Sysboost.Linux.Discovery.CurrentState
import Sysboost.Linux.Discovery.Paths
import Sysboost.Linux.Discovery.Safety
import Sysboost.Linux.RootedFilesystem
import Sysboost.Linux.Discovery.Agreement
import Sysboost.Ordered.Acyclic
import Sysboost.Core.PlanOrder
import Sysboost.Ordered.CycleSearch
import Sysboost.Core.CycleSearch
import Sysboost.Core.Transitions
import Sysboost.Linux.CpuPlanning
import Sysboost.Interaction.Holding
import Sysboost.Linux.CpuFrequency
import Sysboost.Linux.CpuAdmission
import Sysboost.Ordered.SmallestFirst
import Sysboost.Planner.Exactness
import Sysboost.Ordered.Grouping
import Sysboost.Linux.Topology.Model
import Sysboost.Linux.Topology.Rounds
import Sysboost.Linux.Topology.Selection
import Sysboost.Linux.Topology.Accepted
import Sysboost.Linux.Topology.Partition
import Sysboost.Linux.Topology.Siblings
import Sysboost.ByteCodec.Framing
import Sysboost.Linux.Topology.Revision
import Sysboost.Planner.Precedence
import Sysboost.Config.Hierarchy
import Sysboost.Json.Reader
import Sysboost.Platform.Logging
import Sysboost.Kernel.FileTree
import Sysboost.Linux.Containment
import Sysboost.Ordered.Runs
import Sysboost.Linux.Topology.CpuLists
import Sysboost.Linux.Topology.Performance
import Sysboost.Linux.WorkloadRemoval
import Sysboost.Linux.WorkloadHandles
import Sysboost.Linux.StartTime
import Sysboost.Platform.Capture
import Sysboost.Linux.UclampPair
import Sysboost.Linux.WorkloadHost
import Sysboost.State.StoreContents
import Sysboost.State.StoreWriting
import Sysboost.State.StoreReading
import Sysboost.Interaction.Refinement
import Sysboost.State.StoreRuns
import Sysboost.Platform.CheckedRecords
import Sysboost.Platform.FileStore
import Sysboost.Platform.CutOff
import Sysboost.Platform.Recovery
import Sysboost.Core.Encodable
import Sysboost.Platform.Encodable
import Sysboost.Platform.Stranded
import Sysboost.Interaction.Turns
import Sysboost.Platform.Comparison
import Sysboost.Platform.Originals
import Sysboost.Kernel.Contents
import Sysboost.Linux.CpuContents
import Sysboost.Linux.CpuStages
import Sysboost.Linux.CpuHost
