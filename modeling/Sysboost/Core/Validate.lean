import Sysboost.Core.Record
import Sysboost.Results.Loops

/-!
# Validation of durable records

`SessionRecord.validateForSerialization` runs before a record is written and
after one is read.  The checks stand in the order of the source; the first
that fails decides the message.
-/

namespace Sysboost.Core

open ByteCodec Results

def corrupt (message : String) : SysboostError :=
  (SysboostError.new .journalCorrupt message).withStage .recovery

/-- Fail with a corruption error when `bad` holds. -/
def rejectIf (bad : Bool) (message : String) : Except SysboostError Unit :=
  if bad then .error (corrupt message) else .ok ()

@[simp]
theorem rejectIf_eq_ok_iff {bad : Bool} {message : String} :
    rejectIf bad message = .ok () ↔ bad = false := by
  cases bad <;> simp [rejectIf]

theorem rejectIf_bind_eq_ok_iff {α : Type} {bad : Bool} {message : String}
    {next : Unit → Except SysboostError α} {result : α} :
    (rejectIf bad message >>= next) = .ok result ↔ bad = false ∧ next () = .ok result := by
  cases bad <;> simp [rejectIf, bind, Except.bind]

/-- The receipts of one operation refer to its own mutation. -/
def validateReceiptOwners (operation : OperationRecord) : Except SysboostError Unit := do
  rejectIf (operation.snapshot.any fun snapshot =>
      snapshot.mutationId != operation.mutation.mutationId ||
        snapshot.target != operation.mutation.target ||
        snapshot.equality != operation.mutation.equality)
    "snapshot does not match its operation"
  rejectIf (operation.applyReceipt.any fun receipt =>
      receipt.mutationId != operation.mutation.mutationId)
    "apply receipt does not match its operation"
  rejectIf (operation.verification.any fun verification =>
      verification.mutationId != operation.mutation.mutationId)
    "verification does not match its operation"
  rejectIf (operation.restoreReceipt.any fun receipt =>
      receipt.mutationId != operation.mutation.mutationId)
    "restore receipt does not match its operation"

/-- The parts of an operation that its lifecycle state requires or excludes. -/
def validateShape (operation : OperationRecord) : Except SysboostError Unit :=
  let snapshot := operation.snapshot
  let apply := operation.applyReceipt
  let verification := operation.verification
  let restore := operation.restoreReceipt
  match operation.state with
  | .planned =>
      rejectIf (snapshot.isSome || apply.isSome || verification.isSome || restore.isSome)
        "planned operation contains post-plan state"
  | .snapshotted | .intentRecorded =>
      rejectIf (snapshot.isNone || apply.isSome || verification.isSome || restore.isSome)
        "snapshotted operation does not have the expected durable shape"
  | .applying =>
      rejectIf (snapshot.isNone || apply.isSome || verification.isSome || restore.isSome)
        "ambiguous applying operation has invalid receipts"
  | .applied =>
      rejectIf (snapshot.isNone || apply.isNone || verification.isSome || restore.isSome)
        "applied operation does not have the expected receipt shape"
  | .verified =>
      rejectIf (snapshot.isNone || apply.isNone || verification.isNone ||
          !(verification.any fun value => value.matched) || restore.isSome)
        "verified operation is not fully read back"
  | .restoring =>
      rejectIf (snapshot.isNone || apply.isNone || restore.isSome)
        "restoring operation lacks its apply ownership"
  | .restored =>
      rejectIf (snapshot.isNone || apply.isNone || restore.isNone)
        "restored operation lacks a proven original"
  | .failed =>
      rejectIf (snapshot.isNone || restore.isSome ||
          verification.any fun value => value.matched)
        "failed operation has an invalid preimage/restore shape"
  | .restoreFailed =>
      rejectIf (snapshot.isNone || apply.isNone || restore.isSome)
        "restore-failed operation lacks retry ownership"

/-- A verification is bound to the apply receipt it was made for. -/
def validateVerification (receipt : Option ApplyReceipt)
    (verification : Option VerificationResult) : Except SysboostError Unit :=
  match verification with
  | none => .ok ()
  | some verification =>
      match receipt with
      | none => .error (corrupt "verification exists without an apply receipt")
      | some receipt =>
          rejectIf (verification.expected != receipt.ownershipFingerprint ||
              (verification.matched && verification.observed != some verification.expected) ||
              (!verification.matched && verification.observed == some verification.expected))
            "verification result is not bound to its apply receipt"

/-- A restore receipt proves the captured original. -/
def validateRestore (operation : OperationRecord) : Except SysboostError Unit :=
  match operation.restoreReceipt with
  | none => .ok ()
  | some restore =>
      match operation.snapshot with
      | none => .error (corrupt "restore receipt exists without a snapshot")
      | some snapshot =>
          rejectIf (operation.applyReceipt.isNone || !restore.verified ||
              restore.restoredFingerprint != snapshot.originalFingerprint)
            "restore receipt does not prove the captured original"

def validateOperationRecord (operation : OperationRecord) : Except SysboostError Unit := do
  rejectIf (operation.snapshot.any fun snapshot =>
      snapshot.originalFingerprint != operation.mutation.precondition ||
        snapshot.targetIdentity.bytes == .fill 16 0)
    "operation snapshot does not preserve its planned precondition or identity"
  rejectIf (operation.applyReceipt.any fun receipt =>
      operation.snapshot.isNone ||
        receipt.observedPrecondition != operation.mutation.precondition ||
        receipt.observedPostcondition != receipt.ownershipFingerprint)
    "apply receipt is not bound to the operation preimage"
  validateVerification operation.applyReceipt operation.verification
  validateRestore operation
  validateShape operation

/-- The checks of each operation, in order; `ids` were seen before. -/
def validateOperations : List MutationId → List OperationRecord → Except SysboostError Unit
  | _, [] => .ok ()
  | ids, operation :: rest => do
      rejectIf (decide (operation.mutation.mutationId ∈ ids))
        "session record contains duplicate mutation IDs"
      validateReceiptOwners operation
      validateOperationRecord operation
      validateOperations (operation.mutation.mutationId :: ids) rest

/-- The target leases are those of the operations, pairwise. -/
def validateTargets : List TargetId → List OperationRecord → Except SysboostError Unit
  | target :: targets, operation :: operations => do
      rejectIf (target != operation.mutation.target)
        "session target lease does not match its operation"
      validateTargets targets operations
  | _, _ => .ok ()

/-- The durable transition chain from `state` and `sequence` on; returns the
state it ends in. -/
def validateChain : SessionState → UInt64 → List TransitionRecord →
    Except SysboostError SessionState
  | state, _, [] => .ok state
  | state, sequence, transition :: rest =>
      if transition.sequence != sequence || transition.fromState != state ||
          !state.canTransition transition.toState then
        .error (corrupt "session transition sequence or state is invalid")
      else if sequence.toNat + 1 < 2 ^ 64 then
        validateChain transition.toState (sequence + 1) rest
      else .error (corrupt "session transition sequence overflows")

def SessionRecord.validateForSerialization (record : SessionRecord) :
    Except SysboostError Unit := do
  rejectIf (record.operations.isEmpty || record.operations.length > maxOperations)
    "session record has an invalid operation count"
  rejectIf (record.transitions.length > maxTransitions || record.failures.length > maxFailures)
    "session record has too many journal records"
  rejectIf (record.session.header.targets.length > maxTargets)
    "session record has too many target leases"
  validateOperations [] record.operations
  rejectIf (record.session.header.targets.length != record.operations.length)
    "session target leases do not match the operation count"
  validateTargets record.session.header.targets record.operations
  rejectIf (record.transitions.any fun transition => transition.sessionId != record.sessionId)
    "transition belongs to another session"
  let state ← validateChain .new 1 record.transitions
  rejectIf (state != record.session.state)
    "session state does not match the durable transition chain"

end Sysboost.Core
