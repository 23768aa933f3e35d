import Sysboost.Linux.Topology.Model
import Sysboost.Ordered.Grouping

/-!
# Placement on a topology

Online CPUs are grouped into physical cores, the groups are put in order of
preference, and a prefix of them is selected that leaves at least half of the
groups for housekeeping.
-/

namespace Sysboost.Linux.Topology

open Sysboost.Core ByteCodec Ordered

/-! ## Core groups -/

/-- A physical-core planning unit. -/
structure CpuCoreGroup where
  cpus : CpuSet
  performanceClass : CpuPerformanceClass
  numaNode : Option UInt32
deriving DecidableEq

inductive CoreKey where
  | packageCore (package core : UInt32)
  | siblingSet (siblings : CpuSet)

/-- Keys are compared by their kinds, and then by what they hold. -/
def CoreKey.code : CoreKey → ℕ ×ₗ List UInt32
  | .packageCore package core => toLex (0, [package, core])
  | .siblingSet siblings => toLex (1, siblings.asSlice)

theorem CpuSet.ext {first second : CpuSet} (same : first.asSlice = second.asSlice) :
    first = second := by
  cases first
  cases second
  cases same
  rfl

theorem CoreKey.code_injective : Function.Injective CoreKey.code := by
  intro first second same
  cases first with
  | packageCore package core =>
      cases second with
      | packageCore package' core' =>
          cases same
          rfl
      | siblingSet siblings => cases same
  | siblingSet siblings =>
      cases second with
      | packageCore package core => cases same
      | siblingSet siblings' => exact congrArg siblingSet (CpuSet.ext (congrArg (·.2) same))

instance : LinearOrder CoreKey :=
  LinearOrder.lift' CoreKey.code CoreKey.code_injective

/-- The core of a CPU, or the siblings it shares a core with. -/
def CpuTopologyCpu.coreKey (cpu : CpuTopologyCpu) : CoreKey :=
  match cpu.packageId, cpu.coreId with
  | some package, some core => .packageCore package core
  | _, _ => .siblingSet cpu.threadSiblings

/-- The value that all CPUs share with the first. -/
def agreed {α : Type} [DecidableEq α] (members : List CpuTopologyCpu)
    (value : CpuTopologyCpu → Option α) : Option α :=
  (members.head?.bind value).filter fun shared =>
    members.all fun cpu => value cpu = some shared

/-- The group of the CPUs under one key. -/
def coreGroup (members : List CpuTopologyCpu) : Option CpuCoreGroup :=
  let members := sortBy CpuTopologyCpu.id members
  (CpuSet.new (members.map CpuTopologyCpu.id)).toOption.map fun cpus =>
    { cpus
      performanceClass := (agreed members fun cpu => some cpu.performanceClass).getD .unknown
      numaNode := agreed members CpuTopologyCpu.numaNode }

/-- Group online logical CPUs into physical-core planning units. -/
def CpuTopology.coreGroups (topology : CpuTopology) : List CpuCoreGroup :=
  match topology.online with
  | none => []
  | some online =>
      let cpus := topology.cpus.filter fun cpu => CpuSet.contains online cpu.id
      sortBy (fun group => group.cpus.asSlice)
        ((OrderedMap.groupBy CpuTopologyCpu.coreKey cpus).values.filterMap coreGroup)

/-! ## Masks -/

/-- A software CPU affinity mask, its bits little-endian by CPU. -/
structure CpuAffinityMask where
  bytes : Bytes
deriving DecidableEq

/-- Set the bit of a CPU. -/
def setBit (bytes : Bytes) (cpu : UInt32) : Bytes :=
  bytes.modify (cpu.toNat / 8) fun byte => byte ||| 1 <<< UInt8.ofNat (cpu.toNat % 8)

/-- Generate a mask from a canonical CPU set. -/
def CpuAffinityMask.fromCpuSet (cpus : CpuSet) : Except SysboostError CpuAffinityMask :=
  match cpus.asSlice.getLast? with
  | none =>
      .error (.new .invalidInput "cannot generate an affinity mask for an empty CPU set")
  | some maxCpu =>
      let size := maxCpu.toNat / 8 + 1
      if cpusetCapacityLimit / 8 < size then
        .error (.new .invalidInput "CPU affinity mask exceeds the bounded planning size")
      else .ok ⟨cpus.asSlice.foldl setBit (List.replicate size 0)⟩

/-! ## Selection -/

/-- Explicit, conservative placement options. -/
structure CpuSelectionPolicy where
  preferPerformanceCores : Bool
  workloadCpuCount : Option UInt64
  preferredNumaNode : Option UInt32

/-- Why a placement plan fell back from a requested preference. -/
inductive CpuPlacementFallback where
  | homogeneousTopology
  | capacityMetadataUnavailable
  | numaPreferenceUnavailable
  | reducedToPreserveHousekeeping
deriving DecidableEq

/-- Reversible runtime soft-isolation decision. -/
structure CpuIsolationPlan where
  workloadCpus : CpuSet
  housekeepingCpus : CpuSet
  workloadMask : CpuAffinityMask
  housekeepingMask : CpuAffinityMask
  capacityMode : CpuCapacityMode
  fallbacks : List CpuPlacementFallback
  topologyRevision : TopologyRevision
  onlineAtPlan : CpuSet
  targetIdentity : Option TargetIdentity

def planningError (message : String) : SysboostError :=
  (SysboostError.new .planningError message).withStage .plan

/-- The number of CPUs of some groups. -/
def logicalCpus (groups : List CpuCoreGroup) : Nat :=
  (groups.map fun group => group.cpus.asSlice.length).sum

/-- Half of the groups, rounded up, stay for housekeeping. -/
def maxWorkloadGroups (groups : List CpuCoreGroup) : Nat :=
  groups.length - max ((groups.length + 1) / 2) 1

/-- The fallback of a capacity preference that cannot be met. -/
def capacityFallback (policy : CpuSelectionPolicy) : CpuCapacityMode → List CpuPlacementFallback
  | .heterogeneousProven => []
  | .homogeneous => if policy.preferPerformanceCores then [.homogeneousTopology] else []
  | .unknown => if policy.preferPerformanceCores then [.capacityMetadataUnavailable] else []

/-- The groups on the preferred node, before the others. -/
def numaCandidates (preferred : Option UInt32) (groups : List CpuCoreGroup) :
    List CpuCoreGroup × List CpuPlacementFallback :=
  match preferred with
  | none => (groups, [])
  | some node =>
      let own := groups.filter fun group => group.numaNode = some node
      if own.isEmpty then (groups, [.numaPreferenceUnavailable])
      else
        let ids := own.flatMap fun group => group.cpus.asSlice
        let remainder := groups.filter fun group =>
          !group.cpus.asSlice.any fun cpu => ids.contains cpu
        (own ++ remainder, [])

/-- The preferred node first, then the greater capacity, then the lower CPUs. -/
def preference (policy : CpuSelectionPolicy) (mode : CpuCapacityMode) (group : CpuCoreGroup) :
    ℕ ×ₗ ℕ ×ₗ List UInt32 :=
  toLex (if policy.preferredNumaNode.any fun node => group.numaNode = some node then 0 else 1,
    toLex (if policy.preferPerformanceCores && mode = .heterogeneousProven then
      capacityRank group.performanceClass else 0, group.cpus.asSlice))

/-- The groups in the order in which they are selected. -/
def candidates (policy : CpuSelectionPolicy) (mode : CpuCapacityMode)
    (groups : List CpuCoreGroup) : List CpuCoreGroup :=
  sortBy (preference policy mode) (numaCandidates policy.preferredNumaNode groups).1

/-- `usize::MAX` where no count is requested. -/
def requestedLogical (policy : CpuSelectionPolicy) : Nat :=
  (policy.workloadCpuCount.getD 0xffffffffffffffff).toNat

/-- Whether the request exceeds what can be selected. -/
def reduced (policy : CpuSelectionPolicy) (online : CpuSet) (bound : Nat)
    (candidates : List CpuCoreGroup) : Bool :=
  policy.workloadCpuCount.any fun requested =>
    online.asSlice.length - 1 < requested.toNat ||
      logicalCpus (candidates.take bound) < requested.toNat

/-- The loop over the candidates. -/
def selectGroups (bound requested : Nat) (selected : List CpuCoreGroup) (logical : Nat) :
    List CpuCoreGroup → List CpuCoreGroup
  | [] => selected
  | group :: rest =>
      if bound ≤ selected.length then selected
      else if requested ≤ logical ∧ selected ≠ [] then selected
      else selectGroups bound requested (selected ++ [group])
        (logical + group.cpus.asSlice.length) rest

/-- Select CPUs and bind the plan to a backend-discovered target identity. -/
def CpuTopology.selectForTarget (topology : CpuTopology) (policy : CpuSelectionPolicy)
    (targetIdentity : Option TargetIdentity) : Except SysboostError CpuIsolationPlan := do
  let online ←
    match topology.online with
    | some online => pure online
    | none => throw ((SysboostError.new .capabilityError
        "current online CPU set is unavailable; soft isolation is report-only").withStage .plan)
  let groups := topology.coreGroups
  if online.asSlice.length < 2 ∨ groups.length < 2 then
    throw (planningError
      "at least two online physical-core groups are required to preserve housekeeping")
  let bound := maxWorkloadGroups groups
  if bound = 0 then
    throw (planningError "no workload CPU group remains after the housekeeping reserve")
  let candidates := candidates policy topology.capacityMode groups
  let requested := requestedLogical policy
  if requested = 0 then
    throw ((SysboostError.new .invalidInput
      "requested workload CPU count must be positive").withStage .plan)
  let fallbacks := capacityFallback policy topology.capacityMode ++
    (numaCandidates policy.preferredNumaNode groups).2 ++
    if reduced policy online bound candidates then [.reducedToPreserveHousekeeping] else []
  let selected := selectGroups bound requested [] 0 candidates
  if selected.isEmpty then
    throw (planningError "the topology produced no eligible workload CPU group")
  let workloadCpus ← CpuSet.new (selected.flatMap fun group => group.cpus.asSlice)
  let housekeepingCpus ←
    CpuSet.new (online.asSlice.filter fun cpu => !CpuSet.contains workloadCpus cpu)
  if online.asSlice.length ≤ workloadCpus.asSlice.length ∨ housekeepingCpus.asSlice.isEmpty then
    throw (planningError "soft isolation would consume the entire online CPU set")
  return {
    workloadCpus
    housekeepingCpus
    workloadMask := ← CpuAffinityMask.fromCpuSet workloadCpus
    housekeepingMask := ← CpuAffinityMask.fromCpuSet housekeepingCpus
    capacityMode := topology.capacityMode
    fallbacks
    topologyRevision := topology.revision
    onlineAtPlan := online
    targetIdentity }

/-- Select workload and housekeeping CPUs using the conservative policy. -/
def CpuTopology.select (topology : CpuTopology) (policy : CpuSelectionPolicy) :
    Except SysboostError CpuIsolationPlan :=
  topology.selectForTarget policy none

/-- Validate a plan against a freshly discovered topology and target identity. -/
def CpuIsolationPlan.validateBeforeApply (plan : CpuIsolationPlan) (current : CpuTopology)
    (currentTargetIdentity : Option TargetIdentity) : Except SysboostError Unit := do
  let failed (message : String) := (SysboostError.new .targetError message).withStage .apply
  if current.revision ≠ plan.topologyRevision ∨ current.online ≠ some plan.onlineAtPlan then
    throw (failed "CPU topology or online CPU set changed after planning")
  match current.online with
  | none => throw (failed "current online CPU set disappeared after planning")
  | some online =>
      if plan.workloadCpus.asSlice.any (fun cpu => !CpuSet.contains online cpu) ∨
          plan.housekeepingCpus.asSlice.any (fun cpu => !CpuSet.contains online cpu) then
        throw (failed "planned CPU set contains a CPU that is no longer online")
      if plan.targetIdentity ≠ currentTargetIdentity then
        throw (failed "CPU placement target identity changed after planning")

end Sysboost.Linux.Topology
