import Sysboost.Core.Capability
import Sysboost.Core.MutationValue

/-!
# Planned mutations, preimages and receipts

`PlannedMutation.new` is the checked constructor.  The fields of
`PlannedMutation` are public in the source, so the type also admits mutations
that never passed it; `PlannedMutation.Checked` says that a mutation did.
-/

namespace Sysboost.Core

/-- Closed operation vocabulary. -/
inductive MutationKind where
  | cpuFrequency (policy : CpuPolicyId) (minKhz maxKhz : Option FrequencyKHz)
  | cpuGovernor (policy : CpuPolicyId) (governor : GovernorId)
  | cpuEnergyPreference (policy : CpuPolicyId) (value : EnergyPreference)
  | cpuBoost (state : CpuBoostState)
  | platformProfile (profile : PlatformProfileId)
  | cgroupCpuWeight (cgroup : CgroupId) (weight : CpuWeight)
  | cgroupCpuMax (cgroup : CgroupId) (quota : CpuQuota) (period : CpuPeriod)
  | cgroupCpuset (cgroup : CgroupId) (cpus : CpuSet)
  | cgroupIoWeight (cgroup : CgroupId) (weight : IoWeight)
  | cgroupUclampMin (cgroup : CgroupId) (value : UclampValue)
  | cgroupUclampMax (cgroup : CgroupId) (value : UclampValue)
  | cgroupWorkload (parent : CgroupId) (name : CgroupName)
  | cgroupBackground (parent : CgroupId) (name : CgroupName)
  | processPlacement (process : ProcessId) (cgroup : CgroupId)
  | processNice (process : ProcessId) (nice : NiceValue)
  | processIoPriority (process : ProcessId) (priority : IoPriority)
  | gpuPerformanceProfile (device : GpuId) (profile : GpuProfile)
  | gpuPowerLimit (device : GpuId) (milliwatts : PowerMilliwatts)
  | irqAffinity (irq : IrqId) (cpus : CpuSet)
  | runtimeSysctl (key : ApprovedSysctlKey) (value : ApprovedSysctlValue)
deriving DecidableEq

/-- Typed payload corresponding to a `MutationKind`. -/
inductive TypedValue where
  | cpuFrequency (minKhz maxKhz : Option FrequencyKHz)
  | governor (governor : GovernorId)
  | energyPreference (value : EnergyPreference)
  | cpuBoost (state : CpuBoostState)
  | platformProfile (profile : PlatformProfileId)
  | cgroupCpuWeight (weight : CpuWeight)
  | cgroupCpuMax (quota : CpuQuota) (period : CpuPeriod)
  | cgroupCpuset (cpus : CpuSet)
  | cgroupIoWeight (weight : IoWeight)
  | cgroupUclamp (value : UclampValue)
  | cgroupLifecycle (kind : CgroupGroupKind) (name : CgroupName) (present : Bool)
  | processPlacement (cgroup : CgroupId)
  | nice (value : NiceValue)
  | ioPriority (value : IoPriority)
  | gpuPerformanceProfile (profile : GpuProfile)
  | gpuPowerLimit (limit : PowerMilliwatts)
  | irqAffinity (cpus : CpuSet)
  | runtimeSysctl (key : ApprovedSysctlKey) (value : ApprovedSysctlValue)
deriving DecidableEq

namespace MutationKind

/-- The text of the stable operation ID. -/
def operationText : MutationKind → String
  | cpuFrequency .. => "cpu.frequency"
  | cpuGovernor .. => "cpu.governor"
  | cpuEnergyPreference .. => "cpu.energy_preference"
  | cpuBoost .. => "cpu.boost"
  | platformProfile .. => "platform.profile"
  | cgroupCpuWeight .. => "cgroup.cpu.weight"
  | cgroupCpuMax .. => "cgroup.cpu.max"
  | cgroupCpuset .. => "cgroup.cpuset.cpus"
  | cgroupIoWeight .. => "cgroup.io.weight"
  | cgroupUclampMin .. => "cgroup.uclamp.min"
  | cgroupUclampMax .. => "cgroup.uclamp.max"
  | cgroupWorkload .. => "cgroup.workload"
  | cgroupBackground .. => "cgroup.background"
  | processPlacement .. => "scheduler.process.placement"
  | processNice .. => "scheduler.nice"
  | processIoPriority .. => "scheduler.ioprio"
  | gpuPerformanceProfile .. => "gpu.performance.profile"
  | gpuPowerLimit .. => "gpu.power.limit"
  | irqAffinity .. => "irq.affinity"
  | runtimeSysctl .. => "kernel.sysctl.runtime"

/-- Static operation IDs are valid, so the source's `expect` never fails. -/
theorem operationText_valid (kind : MutationKind) :
    validateText "OperationId" kind.operationText = .ok () := by
  cases kind <;> rfl

/-- Return the stable operation ID for registry and audit use. -/
def operationId (kind : MutationKind) : OperationId :=
  ⟨kind.operationText, kind.operationText_valid⟩

/-- Derive the typed desired value represented by this operation. -/
def typedValue : MutationKind → TypedValue
  | cpuFrequency _ minKhz maxKhz => .cpuFrequency minKhz maxKhz
  | cpuGovernor _ governor => .governor governor
  | cpuEnergyPreference _ value => .energyPreference value
  | cpuBoost state => .cpuBoost state
  | platformProfile profile => .platformProfile profile
  | cgroupCpuWeight _ weight => .cgroupCpuWeight weight
  | cgroupCpuMax _ quota period => .cgroupCpuMax quota period
  | cgroupCpuset _ cpus => .cgroupCpuset cpus
  | cgroupIoWeight _ weight => .cgroupIoWeight weight
  | cgroupUclampMin _ value => .cgroupUclamp value
  | cgroupUclampMax _ value => .cgroupUclamp value
  | cgroupWorkload _ name => .cgroupLifecycle .workload name true
  | cgroupBackground _ name => .cgroupLifecycle .conservativeBackground name true
  | processPlacement _ cgroup => .processPlacement cgroup
  | processNice _ nice => .nice nice
  | processIoPriority _ priority => .ioPriority priority
  | gpuPerformanceProfile _ profile => .gpuPerformanceProfile profile
  | gpuPowerLimit _ milliwatts => .gpuPowerLimit milliwatts
  | irqAffinity _ cpus => .irqAffinity cpus
  | runtimeSysctl key value => .runtimeSysctl key value

def validate : MutationKind → Except SysboostError Unit
  | cpuFrequency _ none none =>
      .error ((SysboostError.new .planningError
        "CPU frequency mutation must select a minimum or maximum").withStage .plan)
  | cpuFrequency _ (some min) (some max) =>
      if min.get > max.get then
        .error ((SysboostError.new .planningError
          "CPU frequency minimum exceeds maximum").withStage .plan)
      else .ok ()
  | cgroupUclampMin _ .max =>
      .error ((SysboostError.new .planningError
        "cgroup uclamp.min cannot use the max sentinel").withStage .plan)
  | _ => .ok ()

/-- Every value inside was made by its checked constructor. -/
def checked : MutationKind → Bool
  | cgroupCpuMax _ quota _ => quota.checked
  | cgroupUclampMin _ value => value.checked
  | cgroupUclampMax _ value => value.checked
  | _ => true

end MutationKind

/-- Every value inside was made by its checked constructor. -/
def TypedValue.checked : TypedValue → Bool
  | cgroupCpuMax quota _ => quota.checked
  | cgroupUclamp value => value.checked
  | _ => true

theorem MutationKind.typedValue_checked (kind : MutationKind) :
    kind.typedValue.checked = kind.checked := by
  cases kind <;> rfl

/-- Automatic restore mode. -/
inductive RestoreMode where
  | compareAndRestore
deriving DecidableEq

/-- Restore policy carried by every planned mutation. -/
structure RollbackContract where
  equality : EqualityKind
  mode : RestoreMode
deriving DecidableEq

/-- One planned, target-scoped mutation unit. -/
structure PlannedMutation where
  mutationId : MutationId
  capability : CapabilityId
  target : TargetId
  kind : MutationKind
  desired : TypedValue
  precondition : StateFingerprint
  equality : EqualityKind
  dependencies : List MutationId
  rollback : RollbackContract
deriving DecidableEq

namespace PlannedMutation

/-- Construct a validated planned mutation. -/
def new (mutationId : MutationId) (capability : CapabilityId) (target : TargetId)
    (kind : MutationKind) (desired : TypedValue) (precondition : StateFingerprint)
    (equality : EqualityKind) (dependencies : List MutationId) :
    Except SysboostError PlannedMutation := do
  kind.validate
  if kind.typedValue ≠ desired then
    throw (((SysboostError.new .planningError
      "mutation kind and typed desired value disagree").withStage .plan).withMutation mutationId)
  if mutationId ∈ dependencies then
    throw (((SysboostError.new .planningError
      "mutation cannot depend on itself").withStage .plan).withMutation mutationId)
  return {
    mutationId, capability, target, kind, desired, precondition, equality, dependencies
    rollback := ⟨equality, .compareAndRestore⟩ }

/-- The mutation passes its own constructor, and so do the values inside. -/
structure Checked (mutation : PlannedMutation) : Prop where
  kind : mutation.kind.checked = true
  new_eq : new mutation.mutationId mutation.capability mutation.target mutation.kind
    mutation.desired mutation.precondition mutation.equality mutation.dependencies = .ok mutation

instance (mutation : PlannedMutation) : Decidable mutation.Checked :=
  decidable_of_iff (_ ∧ _) ⟨fun both => ⟨both.1, both.2⟩, fun both => ⟨both.kind, both.new_eq⟩⟩

/-- What the constructor returns keeps the arguments, and the desired value is
the one derived from the kind. -/
theorem eq_of_new {mutationId : MutationId} {capability : CapabilityId} {target : TargetId}
    {kind : MutationKind} {desired : TypedValue} {precondition : StateFingerprint}
    {equality : EqualityKind} {dependencies : List MutationId} {mutation : PlannedMutation}
    (ok : new mutationId capability target kind desired precondition equality dependencies =
      .ok mutation) :
    mutation = ⟨mutationId, capability, target, kind, desired, precondition, equality,
      dependencies, ⟨equality, .compareAndRestore⟩⟩ ∧ kind.typedValue = desired := by
  unfold new at ok
  cases valid : kind.validate with
  | error error =>
      rw [valid] at ok
      cases ok
  | ok _ =>
      rw [valid] at ok
      by_cases agree : kind.typedValue = desired
      · by_cases own : mutationId ∈ dependencies
        · simp [agree, own, bind, Except.bind, throw, throwThe, MonadExceptOf.throw] at ok
        · simp only [bind, Except.bind, agree, ne_eq, not_true_eq_false, if_false, own, pure,
            Except.pure, Except.ok.injEq] at ok
          exact ⟨ok.symm, agree⟩
      · simp [agree, bind, Except.bind, throw, throwThe, MonadExceptOf.throw] at ok

theorem Checked.desired {mutation : PlannedMutation} (checked : mutation.Checked) :
    mutation.desired.checked = true := by
  rw [← (eq_of_new checked.new_eq).2, MutationKind.typedValue_checked]
  exact checked.kind

/-- The constructor yields checked mutations when the kind's values are. -/
theorem checked_of_new {mutationId : MutationId} {capability : CapabilityId} {target : TargetId}
    {kind : MutationKind} {desired : TypedValue} {precondition : StateFingerprint}
    {equality : EqualityKind} {dependencies : List MutationId} {mutation : PlannedMutation}
    (values : kind.checked = true)
    (ok : new mutationId capability target kind desired precondition equality dependencies =
      .ok mutation) : mutation.Checked := by
  rcases eq_of_new ok with ⟨rfl, -⟩
  exact ⟨values, ok⟩

end PlannedMutation

/-- Exact state captured before any apply. -/
structure Snapshot where
  mutationId : MutationId
  target : TargetId
  originalRaw : BoundedBytes
  originalTyped : TypedValue
  originalFingerprint : StateFingerprint
  equality : EqualityKind
  targetIdentity : TargetIdentity
  capturedAt : Timestamp
deriving DecidableEq

/-- Readback receipt after an apply. -/
structure ApplyReceipt where
  mutationId : MutationId
  observedPrecondition : StateFingerprint
  observedPostcondition : StateFingerprint
  ownershipFingerprint : StateFingerprint
deriving DecidableEq

/-- Readback receipt after a restore. -/
structure RestoreReceipt where
  mutationId : MutationId
  restoredFingerprint : StateFingerprint
  verified : Bool
deriving DecidableEq

end Sysboost.Core
