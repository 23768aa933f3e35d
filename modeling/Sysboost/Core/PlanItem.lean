import Sysboost.Core.Mutation

/-!
# Explainable plan decisions

A plan item carries the metadata of one decision and, for an executable one,
the typed mutation.  `PlanItem.validate` relates the two.
-/

namespace Sysboost.Core

/-- Profile a plan was resolved from. -/
inductive Profile where
  | balanced
  | performance
  | extreme
deriving DecidableEq

/-- Abstract preference used by a profile before capability resolution. -/
inductive PerformanceIntent where
  | balanced
  | performance
deriving DecidableEq

/-- Capability-independent preference of a profile; a profile prefers the same
for the governor and for the energy preference. -/
def Profile.intent : Profile → PerformanceIntent
  | balanced => .balanced
  | performance => .performance
  | extreme => .performance

/-- Feature family of a plan decision. -/
inductive Feature where
  | cpuGovernor
  | cpuFrequency
  | cpuEnergyPreference
  | cpuBoost
  | platformProfile
  | cgroupCpu
  | cpuPlacement
  | gpuTuning
  | irqTuning
  | schedulerTuning
  | memoryVm
  | transparentHugePages
  | custom (capability : CapabilityId)
deriving DecidableEq

namespace Feature

/-- Infer a feature family from a stable capability identifier. -/
def fromCapability (capability : CapabilityId) : Feature :=
  if capability = CapabilityIds.cpuPolicyGovernor then cpuGovernor
  else if capability ∈ [CapabilityIds.cpuPolicyFrequencyMin,
      CapabilityIds.cpuPolicyFrequencyMax] then cpuFrequency
  else if capability = CapabilityIds.cpuPolicyEnergyPreference then cpuEnergyPreference
  else if capability = CapabilityIds.cpuBoost then cpuBoost
  else if capability = CapabilityIds.platformProfile then platformProfile
  else if capability ∈ [CapabilityIds.cgroupCpuWeight, CapabilityIds.cgroupCpuMax,
      CapabilityIds.cgroupCpusetCpus, CapabilityIds.cgroupUclamp, CapabilityIds.cgroupIoWeight,
      CapabilityIds.cgroupWorkload, CapabilityIds.cgroupBackground] then cgroupCpu
  else if capability ∈ [CapabilityIds.gpuPerformanceProfile,
      CapabilityIds.gpuPowerLimit] then gpuTuning
  else if capability = CapabilityIds.irqAffinity then irqTuning
  else if capability ∈ [CapabilityIds.kernelSysctlRuntime, CapabilityIds.memoryThp] then memoryVm
  else if capability ∈ [CapabilityIds.scheduler, CapabilityIds.processPlacement,
      CapabilityIds.processNice, CapabilityIds.processIoprio,
      CapabilityIds.childSupervision] then schedulerTuning
  else if capability ∈ [CapabilityIds.cpuTopology, CapabilityIds.cpuCapacity] then cpuPlacement
  else custom capability

/-- Whether this family is experimental by default. -/
def isExperimental : Feature → Bool
  | gpuTuning | irqTuning | schedulerTuning => true
  | _ => false

end Feature

/-- Typed interface/control family used in plan explanations. -/
inductive ControlId where
  | cpuGovernor
  | cpuEnergyPreference
  | cpuFrequency
  | cpuBoost
  | platformProfile
  | cgroupCpuWeight
  | cgroupCpuMax
  | cgroupCpuset
  | cgroupIoWeight
  | cgroupWorkload
  | cgroupBackground
  | gpuPerformanceProfile
  | gpuPowerLimit
  | irqAffinity
  | schedulerWorkload
  | processPlacement
  | processNice
  | processIoPriority
  | cgroupUclamp
  | cgroupUclampMin
  | cgroupUclampMax
  | transparentHugePages
  | memoryVm
  | reportOnly
deriving DecidableEq

/-- The `Display` text of a control. -/
def ControlId.display : ControlId → String
  | cpuGovernor => "CPU governor"
  | cpuEnergyPreference => "CPU EPP"
  | cpuFrequency => "CPU frequency"
  | cpuBoost => "CPU boost/turbo"
  | platformProfile => "platform profile"
  | cgroupCpuWeight => "cgroup CPU weight"
  | cgroupCpuMax => "cgroup CPU quota"
  | cgroupCpuset => "cgroup CPU placement"
  | cgroupIoWeight => "cgroup I/O weight"
  | cgroupWorkload => "workload cgroup"
  | cgroupBackground => "conservative background cgroup"
  | gpuPerformanceProfile => "GPU performance profile"
  | gpuPowerLimit => "GPU power limit"
  | irqAffinity => "IRQ affinity"
  | schedulerWorkload => "scheduler/workload policy"
  | processPlacement => "process cgroup placement"
  | processNice => "process nice"
  | processIoPriority => "process I/O priority"
  | cgroupUclamp => "cgroup uclamp"
  | cgroupUclampMin => "cgroup uclamp minimum"
  | cgroupUclampMax => "cgroup uclamp maximum"
  | transparentHugePages => "THP"
  | memoryVm => "memory/VM policy"
  | reportOnly => "report-only control"

def ObservedText.accepts (value : String) : Bool :=
  !value.isEmpty && value.utf8ByteSize ≤ 1024 && !containsNul value

/-- Bounded current-state text of an interface without an approved type. -/
abbrev ObservedText := Bounded ObservedText.accepts

def ObservedText.new (value : String) : Except SysboostError ObservedText :=
  Bounded.new (.new .invalidInput "observed text is empty, oversized, or contains NUL") value

/-- A closed typed value or a bounded report-only observation. -/
inductive PlanValue where
  | typed (value : TypedValue)
  | text (value : ObservedText)
deriving DecidableEq

/-- Snapshot admission metadata for one operation family. -/
structure SnapshotContract where
  defined : Bool
  typedPreimage : Bool
  rawPreimage : Bool
  equality : EqualityKind
deriving DecidableEq

/-- Contract marker for an entry that is not executable. -/
def SnapshotContract.notApplicable : SnapshotContract :=
  ⟨false, false, false, .byteExact⟩

def SnapshotContract.isComplete (contract : SnapshotContract) : Bool :=
  contract.defined && contract.typedPreimage

/-- Restore admission metadata for one operation family. -/
structure RestoreContract where
  defined : Bool
  mode : Option RestoreMode
  equality : EqualityKind
deriving DecidableEq

/-- Contract marker for an entry that is not executable. -/
def RestoreContract.notApplicable : RestoreContract :=
  ⟨false, none, .byteExact⟩

def RestoreContract.isComplete (contract : RestoreContract) : Bool :=
  contract.defined && contract.mode.isSome

/-- Verification admission metadata for one operation family. -/
structure VerificationContract where
  defined : Bool
  readback : Bool
  equality : EqualityKind
deriving DecidableEq

/-- Contract marker for an entry that is not executable. -/
def VerificationContract.notApplicable : VerificationContract :=
  ⟨false, false, .byteExact⟩

def VerificationContract.isComplete (contract : VerificationContract) : Bool :=
  contract.defined && contract.readback

/-- Classification of one visible plan decision. -/
inductive PlanAction where
  | mutation
  | noOp
  | unsupported
  | preserved
  | explicitOptInRequired
  | experimentalDisabled
  | deniedByPolicy
  | capabilityDenied
  | indeterminate
deriving DecidableEq

/-- Whether this action belongs in the executable mutation set. -/
def PlanAction.isExecutable : PlanAction → Bool
  | mutation => true
  | _ => false

/-- Experimental gating state carried into plan rendering and audit output. -/
inductive ExperimentalStatus where
  | notExperimental
  | disabled
  | optInRequired
  | enabled
deriving DecidableEq

/-- One explainable policy decision, including optional executable mutation
data and all transaction admission metadata. -/
structure PlanItem where
  capability : CapabilityId
  operation : OperationId
  backend : Option BackendId
  target : Option TargetId
  control : ControlId
  current : Option PlanValue
  desired : Option PlanValue
  action : PlanAction
  feature : Feature
  featureClass : FeatureClass
  risk : RiskClass
  explicitOptInRequired : Bool
  experimental : ExperimentalStatus
  evidence : List CapabilityEvidence
  rationale : String
  reason : Option String
  targetIdentity : Option TargetIdentity
  snapshot : SnapshotContract
  restore : RestoreContract
  verification : VerificationContract
  dependencies : List MutationId
  mutation : Option PlannedMutation
deriving DecidableEq

/-- Validate the relationship between decision metadata and a mutation. -/
def PlanItem.validate (item : PlanItem) : Except SysboostError Unit :=
  if !item.action.isExecutable then
    if item.mutation.isSome then
      .error ((SysboostError.new .planningError
        "non-mutation plan item contains executable mutation data").withStage .plan)
    else .ok ()
  else
    match item.mutation with
    | none =>
        .error ((SysboostError.new .planningError
          "mutation plan item has no typed mutation payload").withStage .plan)
    | some mutation =>
        if item.backend.isNone || item.target.isNone || item.targetIdentity.isNone ||
            item.current.isNone || item.desired.isNone || item.evidence.isEmpty then
          .error (((SysboostError.new .planningError
            "mutation plan item is missing target, state, identity, or evidence metadata"
            ).withStage .plan).withMutation mutation.mutationId)
        else if !item.snapshot.isComplete || !item.restore.isComplete ||
            !item.verification.isComplete then
          .error (((SysboostError.new .planningError
            "mutation plan item lacks a complete snapshot/restore/verification contract"
            ).withStage .plan).withMutation mutation.mutationId)
        else if item.operation ≠ mutation.kind.operationId ||
            item.capability ≠ mutation.capability ||
            item.target ≠ some mutation.target ||
            item.desired ≠ some (.typed mutation.desired) ||
            item.dependencies ≠ mutation.dependencies ||
            item.snapshot.equality ≠ mutation.equality ||
            item.restore.equality ≠ mutation.equality ||
            item.verification.equality ≠ mutation.equality then
          .error (((SysboostError.new .planningError
            "plan item metadata disagrees with its typed mutation"
            ).withStage .plan).withMutation mutation.mutationId)
        else .ok ()

end Sysboost.Core
