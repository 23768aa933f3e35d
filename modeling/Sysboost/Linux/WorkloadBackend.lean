import Sysboost.Linux.WorkloadSysfs

/-!
# The workload backend

The stages of a cgroup or process mutation over the production adapter.
-/

namespace Sysboost.Linux.Workload

open Sysboost.Core Sysboost.Planner ByteCodec Interaction

/-! ## Ownership -/

/-- The operations of `workload_descriptor`. -/
def workloadOperations : List OperationId :=
  [OperationIds.cgroupCpuWeight, OperationIds.cgroupCpuMax, OperationIds.cgroupCpusetCpus,
    OperationIds.cgroupIoWeight, OperationIds.cgroupUclampMin, OperationIds.cgroupUclampMax,
    OperationIds.cgroupWorkload, OperationIds.cgroupBackground, OperationIds.processPlacement,
    OperationIds.processNice, OperationIds.processIoprio]

/-- The capabilities of `workload_descriptor`. -/
def workloadCapabilities : List CapabilityId :=
  [CapabilityIds.cgroupCpuWeight, CapabilityIds.cgroupCpuMax, CapabilityIds.cgroupCpusetCpus,
    CapabilityIds.cgroupIoWeight, CapabilityIds.cgroupUclamp, CapabilityIds.cgroupWorkload,
    CapabilityIds.cgroupBackground, CapabilityIds.processPlacement, CapabilityIds.processNice,
    CapabilityIds.processIoprio]

/-- Whether the capability of a mutation belongs to its operation. -/
def capabilityOwned (mutation : PlannedMutation) : Bool :=
  match mutation.kind with
  | .cgroupCpuWeight .. => mutation.capability.asStr = "cgroup.cpu.weight"
  | .cgroupCpuMax .. => mutation.capability.asStr = "cgroup.cpu.max"
  | .cgroupCpuset .. => mutation.capability.asStr = "cgroup.cpuset.cpus"
  | .cgroupIoWeight .. => mutation.capability.asStr = "cgroup.io.weight"
  | .cgroupUclampMin .. | .cgroupUclampMax .. => mutation.capability.asStr = "cgroup.uclamp"
  | .cgroupWorkload .. => mutation.capability.asStr = "cgroup.workload"
  | .cgroupBackground .. => mutation.capability.asStr = "cgroup.background"
  | .processPlacement .. => mutation.capability.asStr = "scheduler.process.placement"
  | .processNice .. => mutation.capability.asStr = "scheduler.nice"
  | .processIoPriority .. => mutation.capability.asStr = "scheduler.ioprio"
  | _ => false

/-! ## Targets -/

/-- The text of `ProcessId::target_id`. -/
def processTargetText (process : ProcessId) : String :=
  "process." ++ toString process.pid ++ "." ++ toString process.startTimeTicks

theorem processTargetText_valid (process : ProcessId) :
    validateText "TargetId" (processTargetText process) = .ok () := by
  have bytes : utf8 (processTargetText process) = utf8 "process." ++ decimal process.pid.toNat ++
      utf8 "." ++ decimal process.startTimeTicks.toNat := by
    have pid : utf8 (toString process.pid) = decimal process.pid.toNat := toUtf8_toString _
    have ticks : utf8 (toString process.startTimeTicks) = decimal process.startTimeTicks.toNat :=
      toUtf8_toString _
    rw [← pid, ← ticks]
    change toUtf8 (_ ++ _ ++ _ ++ _) = _
    rw [toUtf8_append, toUtf8_append, toUtf8_append]
    rfl
  have pid : (decimal process.pid.toNat).length ≤ 10 :=
    decimal_length (by decide) (process.pid.toNat_lt.trans (by decide))
  have ticks : (decimal process.startTimeTicks.toNat).length ≤ 20 :=
    decimal_length (by decide) (process.startTimeTicks.toNat_lt.trans (by decide))
  apply validateText_of_all
  · simp [processTargetText]
  · rw [← utf8_length, bytes]
    simp only [List.length_append]
    have front : (utf8 "process.").length = 8 := rfl
    have dot : (utf8 ".").length = 1 := rfl
    omega
  · have number {value : Nat} {byte : UInt8} (member : byte ∈ decimal value) :
        isAsciiAlphanumeric byte = true := by
      have digit := isAsciiDigit_of_mem_decimal member
      simp only [isAsciiDigit, Bool.and_eq_true, decide_eq_true_eq] at digit
      simp [isAsciiAlphanumeric, digit]
    intro byte member
    rw [bytes] at member
    rcases List.mem_append.mp member with member | member
    · rcases List.mem_append.mp member with member | member
      · rcases List.mem_append.mp member with member | member
        · have front : ∀ byte ∈ utf8 "process.",
              isAsciiAlphanumeric byte = true ∨ byte ∈ utf8 "._:-" :=
            forall_mem_of_all (by decide)
          exact front byte member
        · exact .inl (number member)
      · have dot : ∀ byte ∈ utf8 ".",
            isAsciiAlphanumeric byte = true ∨ byte ∈ utf8 "._:-" :=
          forall_mem_of_all (by decide)
        exact dot byte member
    · exact .inl (number member)

/-- `ProcessId::target_id`, whose `expect` never fails. -/
def processTarget (process : ProcessId) : TargetId :=
  ⟨processTargetText process, processTargetText_valid process⟩

def expectedTarget (mutation : PlannedMutation) : Except SysboostError TargetId :=
  match mutation.kind with
  | .cgroupCpuWeight cgroup _ => .ok cgroup.handle
  | .cgroupCpuMax cgroup _ _ => .ok cgroup.handle
  | .cgroupCpuset cgroup _ => .ok cgroup.handle
  | .cgroupIoWeight cgroup _ => .ok cgroup.handle
  | .cgroupUclampMin cgroup _ => .ok cgroup.handle
  | .cgroupUclampMax cgroup _ => .ok cgroup.handle
  | .cgroupWorkload parent _ => .ok parent.handle
  | .cgroupBackground parent _ => .ok parent.handle
  | .processPlacement process _ => .ok (processTarget process)
  | .processNice process _ => .ok (processTarget process)
  | .processIoPriority process _ => .ok (processTarget process)
  | _ => .error (unsupported "workload backend does not own this operation")

/-! ## Observations -/

/-- The kind of a mutation has values of this shape. -/
def typedShapeMatches : MutationKind → TypedValue → Bool
  | .cgroupCpuWeight .., .cgroupCpuWeight _ => true
  | .cgroupCpuMax .., .cgroupCpuMax .. => true
  | .cgroupCpuset .., .cgroupCpuset _ => true
  | .cgroupIoWeight .., .cgroupIoWeight _ => true
  | .cgroupUclampMin .., .cgroupUclamp _ => true
  | .cgroupUclampMax .., .cgroupUclamp _ => true
  | .cgroupWorkload .., .cgroupLifecycle .. => true
  | .cgroupBackground .., .cgroupLifecycle .. => true
  | .processNice .., .nice _ => true
  | .processIoPriority .., .ioPriority _ => true
  | .processPlacement .., .processPlacement _ => true
  | _, _ => false

def validateObservation (mutation : PlannedMutation) (observation : WorkloadObservation)
    (expected : TargetIdentity) : Except SysboostError Unit :=
  if observation.targetIdentity ≠ expected then
    .error (targetError "workload target identity changed")
  else if observation.fingerprint ≠ fingerprintForValue (.typed observation.typed) then
    .error (targetError "workload adapter returned an invalid fingerprint")
  else if typedShapeMatches mutation.kind observation.typed = true ∧
      observation.fingerprint = mutation.precondition then .ok ()
  else .error (targetError "workload target value or typed shape changed since planning")

/-! ## Stages -/

namespace WorkloadSysfs

variable (sysfs : WorkloadSysfs)

/-- `WorkloadBackend::read`. -/
def read (mutation : PlannedMutation) : Io WorkloadObservation :=
  match mutation.kind with
  | .processNice .. => sysfs.readProcess mutation.kind
  | .processIoPriority .. => sysfs.readProcess mutation.kind
  | .processPlacement .. => sysfs.readProcess mutation.kind
  | _ => readMutation mutation.kind

def validateCanonicalTarget (mutation : PlannedMutation) (expected : TargetIdentity) :
    Io WorkloadObservation := do
  let expectedTarget ← Early.check (expectedTarget mutation)
  Early.refuseIf (mutation.target ≠ expectedTarget)
    (targetError "workload target is not the canonical discovered target")
  let observation ← sysfs.read mutation
  Early.refuseIf (observation.targetIdentity ≠ expected)
    (targetError "workload target identity does not match the plan")
  sysfs.validateDesired mutation.kind mutation.desired
  return observation

def validateAdmission (mutation : PlannedMutation) (expected : TargetIdentity) : Io Unit := do
  Early.refuseIf (!workloadOperations.contains mutation.kind.operationId ||
      !capabilityOwned mutation || !workloadCapabilities.contains mutation.capability)
    (unsupported "workload backend does not own operation/capability")
  let observation ← sysfs.validateCanonicalTarget mutation expected
  Early.refuseIf (observation.fingerprint ≠ mutation.precondition)
    (targetError "workload target value changed since planning")

def snapshotInternal (mutation : PlannedMutation) (now : Timestamp) : Io Snapshot := do
  let observation ← sysfs.read mutation
  Early.check (validateObservation mutation observation observation.targetIdentity)
  Early.refuseIf (observation.typed = mutation.desired)
    (workloadError .invariantViolation "workload mutation already equals its current value")
  return {
    mutationId := mutation.mutationId
    target := mutation.target
    originalRaw := observation.raw
    originalTyped := observation.typed
    originalFingerprint := observation.fingerprint
    equality := mutation.equality
    targetIdentity := observation.targetIdentity
    capturedAt := now }

def applyInternal (mutation : PlannedMutation) (snapshot : Snapshot) : Io ApplyReceipt := do
  let current ← sysfs.read mutation
  Early.refuseIf (current.targetIdentity ≠ snapshot.targetIdentity ||
      current.fingerprint ≠ mutation.precondition)
    (targetError "workload target changed before apply")
  sysfs.validateDesired mutation.kind mutation.desired
  sysfs.writeMutation mutation.kind mutation.desired
  let after ← sysfs.read mutation
  Early.refuseIf (after.targetIdentity ≠ snapshot.targetIdentity ||
      after.fingerprint ≠ fingerprintForValue (.typed mutation.desired))
    (workloadError .verificationError "workload apply readback did not prove the desired value")
  return {
    mutationId := mutation.mutationId
    observedPrecondition := current.fingerprint
    observedPostcondition := after.fingerprint
    ownershipFingerprint := after.fingerprint }

def verifyInternal (mutation : PlannedMutation) (expected : TargetIdentity) :
    Io StateFingerprint := do
  let observation ← sysfs.read mutation
  Early.refuseIf (observation.targetIdentity ≠ expected)
    (targetError "workload target identity changed during verification")
  return observation.fingerprint

def restoreInternal (mutation : PlannedMutation) (snapshot : Snapshot)
    (expectedOwnership : StateFingerprint) : Io RestoreReceipt := do
  let current ← sysfs.read mutation
  Early.refuseIf (current.targetIdentity ≠ snapshot.targetIdentity)
    (targetError "workload target identity changed before restore")
  Early.refuseIf (current.fingerprint ≠ expectedOwnership)
    (workloadError .restoreConflict
      "workload target changed outside this session; restore refused")
  sysfs.writeMutation mutation.kind snapshot.originalTyped
  let restored ← sysfs.read mutation
  Early.refuseIf (restored.targetIdentity ≠ snapshot.targetIdentity ||
      restored.fingerprint ≠ snapshot.originalFingerprint)
    (workloadError .restoreError "workload restore readback did not prove the captured original")
  return ⟨mutation.mutationId, restored.fingerprint, true⟩

end WorkloadSysfs

end Sysboost.Linux.Workload
