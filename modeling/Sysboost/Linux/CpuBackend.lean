import Sysboost.Linux.CpuSysfs

/-!
# The CPU power-policy backend

The stages of a CPU mutation over a typed node port.  An apply that fails after
its first write restores the captured original itself, and reports an unknown
outcome unless the restored value has been read back.
-/

namespace Sysboost.Linux.Cpu

open Sysboost.Core Sysboost.Planner Interaction Kernel

/-- Narrow typed port used only inside the CPU backend. -/
structure CpuControlIo where
  read : CpuNode → Io CpuNodeState
  validateDesired : CpuNode → TypedValue → Io Unit
  write : CpuNode → TypedValue → Io Unit

/-- The production port. -/
def CpuSysfs.port (sysfs : CpuSysfs) : CpuControlIo :=
  ⟨sysfs.read, sysfs.validateDesired, sysfs.write⟩

/-- CPU backend over a typed CPU I/O adapter. -/
structure CpuBackend where
  io : CpuControlIo

namespace CpuBackend

/-! ## Checks -/

def nodeForMutation (mutation : PlannedMutation) : Except SysboostError CpuNode :=
  match mutation.kind with
  | .cpuFrequency policy _ _ => .ok (.frequency policy)
  | .cpuGovernor policy _ => .ok (.governor policy)
  | .cpuEnergyPreference policy _ => .ok (.energyPreference policy)
  | .cpuBoost _ => .ok (.boost none)
  | .platformProfile _ => .ok .platformProfile
  | _ => .error (unsupported "CPU backend does not own this typed operation")

/-- The target of a policy. -/
def policyTarget (policy : CpuPolicyId) : Except SysboostError TargetId :=
  (TextId.new ("cpu.policy." ++ toString policy.get)).mapError fun _ =>
    targetError "CPU policy target is invalid"

def expectedTarget (mutation : PlannedMutation) : Except SysboostError TargetId :=
  match mutation.kind with
  | .cpuFrequency policy _ _ => policyTarget policy
  | .cpuGovernor policy _ => policyTarget policy
  | .cpuEnergyPreference policy _ => policyTarget policy
  | .cpuBoost _ =>
      (TextId.new "system.cpu.boost").mapError fun _ => targetError "CPU boost target is invalid"
  | .platformProfile _ =>
      (TextId.new "system.platform.profile").mapError fun _ =>
        targetError "platform profile target is invalid"
  | _ => .error (unsupported "CPU backend does not own this typed operation")

/-- The kind of a mutation has values of this shape. -/
def matchingShape : MutationKind → TypedValue → Bool
  | .cpuFrequency .., .cpuFrequency .. => true
  | .cpuGovernor .., .governor _ => true
  | .cpuEnergyPreference .., .energyPreference _ => true
  | .cpuBoost .., .cpuBoost _ => true
  | .platformProfile .., .platformProfile _ => true
  | _, _ => false

/-- Both ends of a frequency range are known and in order. -/
def completeRange : TypedValue → Bool
  | .cpuFrequency (some min) (some max) => min.get ≤ max.get
  | _ => false

def isFrequency : MutationKind → Bool
  | .cpuFrequency .. => true
  | _ => false

/-- The desired value, its preserved ends taken from the current one. -/
def effectiveDesired (mutation : PlannedMutation) (current : TypedValue) :
    Except SysboostError TypedValue :=
  match mutation.kind, mutation.desired, current with
  | .cpuFrequency .., .cpuFrequency desiredMin desiredMax, .cpuFrequency currentMin currentMax =>
      let minKhz := desiredMin.or currentMin
      let maxKhz := desiredMax.or currentMax
      if minKhz.isNone || maxKhz.isNone then
        .error (targetError "CPU frequency state is incomplete for a reversible mutation")
      else .ok (.cpuFrequency minKhz maxKhz)
  | _, desired, _ => .ok desired

theorem effectiveDesired_frequency {mutation : PlannedMutation} {cpuPolicy : CpuPolicyId}
    {kindMin kindMax minKhz maxKhz : Option FrequencyKHz} {currentMin currentMax : FrequencyKHz}
    (kind : mutation.kind = .cpuFrequency cpuPolicy kindMin kindMax)
    (desired : mutation.desired = .cpuFrequency minKhz maxKhz) :
    effectiveDesired mutation (.cpuFrequency (some currentMin) (some currentMax)) =
      .ok (.cpuFrequency (some (minKhz.getD currentMin)) (some (maxKhz.getD currentMax))) := by
  unfold effectiveDesired
  simp only [kind, desired]
  cases minKhz <;> cases maxKhz <;> rfl

/-- An error of the snapshot stage. -/
def snapshotError (mutation : PlannedMutation) (message : String) : SysboostError :=
  ((SysboostError.new .targetError message).withStage .snapshot).withMutation mutation.mutationId

def validateState (mutation : PlannedMutation) (state : CpuNodeState) :
    Except SysboostError Unit := do
  if state.targetIdentity.bytes = .fill 16 0 ∨
      state.fingerprint ≠ fingerprintForValue (.typed state.typed) then
    throw (snapshotError mutation
      "CPU adapter returned invalid target identity or value fingerprint")
  if !matchingShape mutation.kind state.typed ∨ state.fingerprint ≠ mutation.precondition then
    throw (snapshotError mutation
      "CPU target changed or its typed state does not match the plan precondition")
  if isFrequency mutation.kind && !completeRange state.typed then
    throw (snapshotError mutation "CPU frequency snapshot does not contain a complete valid range")
  let desired ← effectiveDesired mutation state.typed
  if desired = state.typed then
    throw (((SysboostError.new .invariantViolation
      "CPU mutation is already equal to its current typed state").withStage .plan).withMutation
        mutation.mutationId)

/-- The operations of `backend_descriptor`. -/
def operations : List OperationId :=
  [OperationIds.cpuFrequency, OperationIds.cpuGovernor, OperationIds.cpuEnergyPreference,
    OperationIds.cpuBoost, OperationIds.platformProfile]

/-- Whether the capability of a mutation belongs to its operation. -/
def capabilityOwned (mutation : PlannedMutation) : Except SysboostError Bool :=
  match mutation.kind with
  | .cpuFrequency .. =>
      .ok (mutation.capability = CapabilityIds.cpuPolicyFrequencyMin ||
        mutation.capability = CapabilityIds.cpuPolicyFrequencyMax)
  | .cpuGovernor .. => .ok (mutation.capability = CapabilityIds.cpuPolicyGovernor)
  | .cpuEnergyPreference .. => .ok (mutation.capability = CapabilityIds.cpuPolicyEnergyPreference)
  | .cpuBoost .. => .ok (mutation.capability = CapabilityIds.cpuBoost)
  | .platformProfile .. => .ok (mutation.capability = CapabilityIds.platformProfile)
  | _ =>
      .error ((unsupported "CPU backend does not own this typed operation").withMutation
        mutation.mutationId)

/-- A write goes to the interface that the read has observed. -/
def resolvedNode (node : CpuNode) (state : CpuNodeState) : CpuNode :=
  match node with
  | .boost none => .boost state.boostInterface
  | other => other

/-! ## Stages -/

variable (backend : CpuBackend)

def validateTargetState (mutation : PlannedMutation) (expected : TargetIdentity) :
    Io (CpuNode × CpuNodeState) := do
  let expectedTarget ← Early.check (expectedTarget mutation)
  Early.refuseIf (mutation.target ≠ expectedTarget)
    ((targetError "CPU mutation target is not the canonical backend target").withMutation
      mutation.mutationId)
  let node ← Early.check (nodeForMutation mutation)
  let state ← backend.io.read node
  Early.refuseIf (state.targetIdentity ≠ expected)
    (((targetError "CPU target identity changed since planning").withMutation
      mutation.mutationId).withTarget mutation.target)
  Early.attempt (fun error : SysboostError => error.withMutation mutation.mutationId)
    (backend.io.validateDesired node mutation.desired).run
  return (node, state)

def validateTarget (mutation : PlannedMutation) (expected : TargetIdentity) : Io Unit := do
  let (_, state) ← backend.validateTargetState mutation expected
  Early.refuseIf (state.fingerprint ≠ mutation.precondition)
    (targetError "CPU target value changed since planning")

def validateAdmission (mutation : PlannedMutation) (expected : TargetIdentity) : Io Unit := do
  let capabilityOwned ← Early.check (capabilityOwned mutation)
  Early.refuseIf (!operations.contains mutation.kind.operationId || !capabilityOwned)
    (((unsupported "CPU operation and capability ownership do not match").withCapability
      mutation.capability).withMutation mutation.mutationId)
  backend.validateTarget mutation expected

def snapshotInternal (mutation : PlannedMutation) (now : Timestamp) : Io Snapshot := do
  let node ← Early.check (nodeForMutation mutation)
  let state ← backend.io.read node
  Early.check (validateState mutation state)
  return {
    mutationId := mutation.mutationId
    target := mutation.target
    originalRaw := state.raw
    originalTyped := state.typed
    originalFingerprint := state.fingerprint
    equality := .scalarExact
    targetIdentity := state.targetIdentity
    capturedAt := now }

/-- The original is in place again, on the original target. -/
def provesOriginal (snapshot : Snapshot) (state : CpuNodeState) : Bool :=
  state.targetIdentity = snapshot.targetIdentity ∧
    state.fingerprint = snapshot.originalFingerprint

def restoreAfterFailedApply (node : CpuNode) (snapshot : Snapshot) : Io Unit := do
  let current ← backend.io.read node
  Early.refuseIf (current.targetIdentity ≠ snapshot.targetIdentity)
    (targetError "CPU target identity changed during failed apply")
  let resolved := resolvedNode node current
  backend.io.write resolved snapshot.originalTyped
  let restored ← backend.io.read resolved
  Early.refuseIf (!provesOriginal snapshot restored)
    (.new .restoreError "CPU backend could not prove its internal failed-apply restore")

/-- How an apply that may have had an effect returns its error. -/
def failApply (node : CpuNode) (snapshot : Snapshot) (error : SysboostError) : Io ApplyReceipt :=
  Early.inspect (backend.restoreAfterFailedApply node snapshot) fun recovery =>
    throw (error.retryable (match recovery with
      | .ok () => .retry
      | .error _ => .unknown))

def applyInternal (mutation : PlannedMutation) (snapshot : Snapshot) : Io ApplyReceipt := do
  let node ← Early.check (nodeForMutation mutation)
  let current ← backend.io.read node
  Early.refuseIf (current.targetIdentity ≠ snapshot.targetIdentity ||
      current.fingerprint ≠ mutation.precondition)
    (targetError "CPU target changed before apply")
  backend.io.validateDesired node mutation.desired
  let effectiveDesired ← Early.check (effectiveDesired mutation current.typed)
  let resolved := resolvedNode node current
  Early.inspect (backend.io.write resolved mutation.desired) fun
    | .error error => backend.failApply node snapshot error
    | .ok () =>
      Early.inspect (backend.io.read resolved) fun
        | .error error => backend.failApply node snapshot error
        | .ok after =>
          if after.targetIdentity ≠ snapshot.targetIdentity ∨
              after.fingerprint ≠ fingerprintForValue (.typed effectiveDesired) then
            backend.failApply node snapshot (.new .verificationError
              "CPU apply readback did not prove the desired typed value")
          else return {
            mutationId := mutation.mutationId
            observedPrecondition := current.fingerprint
            observedPostcondition := after.fingerprint
            ownershipFingerprint := after.fingerprint }

def verifyInternal (mutation : PlannedMutation) (expected : TargetIdentity) :
    Io StateFingerprint := do
  let node ← Early.check (nodeForMutation mutation)
  let state ← backend.io.read node
  Early.refuseIf (state.targetIdentity ≠ expected)
    (targetError "CPU target identity changed during verification")
  return state.fingerprint

def restoreInternal (mutation : PlannedMutation) (snapshot : Snapshot)
    (expectedOwnership : StateFingerprint) : Io RestoreReceipt := do
  let node ← Early.check (nodeForMutation mutation)
  let current ← backend.io.read node
  Early.refuseIf (current.targetIdentity ≠ snapshot.targetIdentity)
    (targetError "CPU target identity changed before restore")
  Early.refuseIf (current.fingerprint ≠ expectedOwnership)
    (.new .restoreConflict "CPU target changed outside this session; restore refused")
  let resolved := resolvedNode node current
  backend.io.write resolved snapshot.originalTyped
  let restored ← backend.io.read resolved
  Early.refuseIf (!provesOriginal snapshot restored)
    (.new .restoreError "CPU restore readback did not prove the captured original")
  return ⟨mutation.mutationId, restored.fingerprint, true⟩

end CpuBackend

end Sysboost.Linux.Cpu
