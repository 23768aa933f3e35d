import Sysboost.Core.Ids

/-!
# Capability evidence and backend-independent descriptors

The classifications of a capability, the evidence for it, and the inventory of
descriptors that backends register.
-/

namespace Sysboost.Core

/-! ## Stable semantic capability names -/

namespace CapabilityIds

def cpuPolicyFrequencyMin : CapabilityId := ⟨"cpu.policy.frequency.min", rfl⟩
def cpuPolicyFrequencyMax : CapabilityId := ⟨"cpu.policy.frequency.max", rfl⟩
def cpuPolicyGovernor : CapabilityId := ⟨"cpu.policy.governor", rfl⟩
def cpuPolicyEnergyPreference : CapabilityId := ⟨"cpu.policy.energy_preference", rfl⟩
def cgroupCpuWeight : CapabilityId := ⟨"cgroup.cpu.weight", rfl⟩
def cgroupCpuMax : CapabilityId := ⟨"cgroup.cpu.max", rfl⟩
def cgroupCpusetCpus : CapabilityId := ⟨"cgroup.cpuset.cpus", rfl⟩
def gpuPerformanceProfile : CapabilityId := ⟨"gpu.performance.profile", rfl⟩
def gpuPowerLimit : CapabilityId := ⟨"gpu.power.limit", rfl⟩
def irqAffinity : CapabilityId := ⟨"irq.affinity", rfl⟩
def kernelSysctlRuntime : CapabilityId := ⟨"kernel.sysctl.runtime", rfl⟩
def cpuBoost : CapabilityId := ⟨"cpu.policy.boost", rfl⟩
def platformProfile : CapabilityId := ⟨"platform.profile", rfl⟩
def memoryThp : CapabilityId := ⟨"memory.thp", rfl⟩
def scheduler : CapabilityId := ⟨"scheduler.facilities", rfl⟩
def cgroupUclamp : CapabilityId := ⟨"cgroup.uclamp", rfl⟩
def cgroupIoWeight : CapabilityId := ⟨"cgroup.io.weight", rfl⟩
def cgroupWorkload : CapabilityId := ⟨"cgroup.workload", rfl⟩
def cgroupBackground : CapabilityId := ⟨"cgroup.background", rfl⟩
def processPlacement : CapabilityId := ⟨"scheduler.process.placement", rfl⟩
def processNice : CapabilityId := ⟨"scheduler.nice", rfl⟩
def processIoprio : CapabilityId := ⟨"scheduler.ioprio", rfl⟩
def childSupervision : CapabilityId := ⟨"scheduler.child.supervision", rfl⟩
def cpuTopology : CapabilityId := ⟨"cpu.topology", rfl⟩
def cpuCapacity : CapabilityId := ⟨"cpu.capacity", rfl⟩

end CapabilityIds

/-! ## The operations that a backend carries out -/

namespace OperationIds

def cpuFrequency : OperationId := ⟨"cpu.frequency", rfl⟩
def cpuGovernor : OperationId := ⟨"cpu.governor", rfl⟩
def cpuEnergyPreference : OperationId := ⟨"cpu.energy_preference", rfl⟩
def cpuBoost : OperationId := ⟨"cpu.boost", rfl⟩
def platformProfile : OperationId := ⟨"platform.profile", rfl⟩
def cgroupCpuWeight : OperationId := ⟨"cgroup.cpu.weight", rfl⟩
def cgroupCpuMax : OperationId := ⟨"cgroup.cpu.max", rfl⟩
def cgroupCpusetCpus : OperationId := ⟨"cgroup.cpuset.cpus", rfl⟩
def cgroupIoWeight : OperationId := ⟨"cgroup.io.weight", rfl⟩
def cgroupUclampMin : OperationId := ⟨"cgroup.uclamp.min", rfl⟩
def cgroupUclampMax : OperationId := ⟨"cgroup.uclamp.max", rfl⟩
def cgroupWorkload : OperationId := ⟨"cgroup.workload", rfl⟩
def cgroupBackground : OperationId := ⟨"cgroup.background", rfl⟩
def processPlacement : OperationId := ⟨"scheduler.process.placement", rfl⟩
def processNice : OperationId := ⟨"scheduler.nice", rfl⟩
def processIoprio : OperationId := ⟨"scheduler.ioprio", rfl⟩

end OperationIds

/-! ## Classifications -/

/-- Product safety class for a feature family. -/
inductive FeatureClass where
  | runtimeMutable
  | conditional
  | experimental
  | bootOnlyReportOnly
deriving DecidableEq, Repr

/-- Equality semantics used for verification and restore. -/
inductive EqualityKind where
  | byteExact
  | scalarExact
  | setExact
deriving DecidableEq, Repr

/-- Coarse blast-radius class used by policy. -/
inductive RiskClass where
  | low
  | medium
  | high
  | critical
deriving DecidableEq, Repr

/-- The place of a class in the derived order. -/
def RiskClass.rank : RiskClass → Nat
  | low => 0
  | medium => 1
  | high => 2
  | critical => 3

/-- Source category for positive or negative capability evidence. -/
inductive EvidenceSource where
  | sysfs
  | procfs
  | cgroupV1
  | cgroupV2
  | device
  | permission
  | synthetic
deriving DecidableEq, Repr

/-- A bounded piece of evidence explaining a capability state. -/
structure CapabilityEvidence where
  source : EvidenceSource
  detail : String
deriving DecidableEq

/-- Runtime availability state of a capability. -/
inductive CapabilityState where
  | available
  | readOnly
  | unsupported
  | indeterminate
  | denied
deriving DecidableEq

/-- Privilege needed by a capability. -/
inductive PrivilegeRequirement where
  | none
  | readOnly
  | privilegedMutation
deriving DecidableEq

/-- Target category understood by a backend. -/
inductive TargetKind where
  | cpuPolicy
  | cpuSystem
  | cgroup
  | process
  | gpu
  | irq
  | sysctl
deriving DecidableEq

/-- One operation a backend advertises for a capability. -/
structure OperationDescriptor where
  id : OperationId
  privilege : PrivilegeRequirement
  equality : EqualityKind
  classification : FeatureClass
deriving DecidableEq

/-- Capability descriptor registered by a backend. -/
structure CapabilityDescriptor where
  id : CapabilityId
  backend : BackendId
  targetKind : TargetKind
  state : CapabilityState
  operations : List OperationDescriptor
  privilege : PrivilegeRequirement
  equality : EqualityKind
  risk : RiskClass
  classification : FeatureClass
  evidence : List CapabilityEvidence
deriving DecidableEq

/-- Host capability inventory bound to a detection timestamp. -/
structure CapabilityInventory where
  observedAt : Timestamp
  capabilities : List CapabilityDescriptor
deriving DecidableEq

end Sysboost.Core
