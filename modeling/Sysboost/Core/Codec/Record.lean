import Sysboost.Core.Codec.Mutation

/-!
# Session records in the journal format

Fields are written in the order of the record types.  Reading back needs the
values inside to be checked ones, because a decoder goes through the checked
constructors; `SessionRecord.Checked` collects that condition.
-/

namespace Sysboost.Core

open ByteCodec

/-! ## Identifiers and fingerprints -/

def Encoder.mutationId (id : MutationId) : Encoder := Encoder.u32 id.get

def Decoder.mutationId : Decoder MutationId := do
  let id ← Decoder.u32
  pure ⟨id⟩

def Encoder.fingerprint (fingerprint : StateFingerprint) : Encoder :=
  Encoder.fixed fingerprint.bytes

def Decoder.fingerprint : Decoder StateFingerprint := do
  let bytes ← Decoder.fixed
  pure ⟨bytes⟩

def Encoder.sessionId (id : SessionId) : Encoder := Encoder.fixed id.bytes

def Decoder.sessionId : Decoder SessionId := do
  let bytes ← Decoder.fixed
  pure ⟨bytes⟩

def Encoder.timestamp (timestamp : Timestamp) : Encoder := Encoder.u128 timestamp.asUnixMillis

def Decoder.timestamp : Decoder Timestamp := do
  let millis ← Decoder.u128
  pure ⟨millis⟩

section Wrapped

variable {α β : Type} {reader : Decoder α} {write : α → Encoder}

/-- A newtype around a field is read and written like the field. -/
theorem reads_wrapped (wrap : α → β) {value : α} (known : Reads reader (write value) value) :
    Reads (do let value ← reader; pure (wrap value)) (write value) (wrap value) :=
  Reads.bind_last known (Reads.pure _)

theorem rewrites_wrapped (wrap : α → β) (unwrap : β → α)
    (inverse : ∀ value, unwrap (wrap value) = value)
    (known : Rewrites reader fun value bytes => write value = .ok bytes) :
    Rewrites (do let value ← reader; pure (wrap value)) fun value bytes =>
      write (unwrap value) = .ok bytes := by
  apply Rewrites.bind known
  intro value front written
  apply Rewrites.pure
  rw [inverse, List.append_nil]
  exact written

end Wrapped

theorem reads_mutationId (id : MutationId) :
    Reads Decoder.mutationId (Encoder.mutationId id) id :=
  reads_wrapped MutationId.mk (reads_u32 id.get)

theorem rewrites_mutationId :
    Rewrites Decoder.mutationId fun id bytes => Encoder.mutationId id = .ok bytes :=
  rewrites_wrapped MutationId.mk MutationId.get (fun _ => rfl) rewrites_u32

theorem reads_fingerprint (fingerprint : StateFingerprint) :
    Reads Decoder.fingerprint (Encoder.fingerprint fingerprint) fingerprint :=
  reads_wrapped StateFingerprint.mk (reads_fixed fingerprint.bytes)

theorem rewrites_fingerprint : Rewrites Decoder.fingerprint fun fingerprint bytes =>
    Encoder.fingerprint fingerprint = .ok bytes :=
  rewrites_wrapped StateFingerprint.mk StateFingerprint.bytes (fun _ => rfl) rewrites_fixed

theorem reads_sessionId (id : SessionId) : Reads Decoder.sessionId (Encoder.sessionId id) id :=
  reads_wrapped SessionId.mk (reads_fixed id.bytes)

theorem rewrites_sessionId :
    Rewrites Decoder.sessionId fun id bytes => Encoder.sessionId id = .ok bytes :=
  rewrites_wrapped SessionId.mk SessionId.bytes (fun _ => rfl) rewrites_fixed

theorem reads_timestamp (timestamp : Timestamp) :
    Reads Decoder.timestamp (Encoder.timestamp timestamp) timestamp :=
  reads_wrapped Timestamp.mk (reads_u128 timestamp.asUnixMillis)

theorem rewrites_timestamp :
    Rewrites Decoder.timestamp fun timestamp bytes => Encoder.timestamp timestamp = .ok bytes :=
  rewrites_wrapped Timestamp.mk Timestamp.asUnixMillis (fun _ => rfl) rewrites_u128

/-- Collections of unconditional elements. -/
theorem rewrites_plainList {α : Type} {max : Nat} {write : α → Encoder} {reader : Decoder α}
    (fits : max ≤ 4294967295)
    (known : Rewrites reader fun value bytes => write value = .ok bytes) :
    Rewrites (Decoder.list max reader) fun values bytes =>
      Encoder.list max write values = .ok bytes := by
  have unconditional : Rewrites reader fun value bytes => write value = .ok bytes ∧ True :=
    known.mono fun _ _ written => ⟨written, trivial⟩
  exact (rewrites_list fits unconditional).mono fun _ _ both => both.1

/-! ## Mutations, snapshots and receipts -/

def encodeMutation (mutation : PlannedMutation) : Encoder :=
  Put.seq [
    Encoder.mutationId mutation.mutationId,
    Encoder.text mutation.capability.asStr,
    Encoder.text mutation.target.asStr,
    encodeMutationKind mutation.kind,
    encodeTypedValue mutation.desired,
    Encoder.fingerprint mutation.precondition,
    Encoder.u8 (equalityTag mutation.equality),
    Encoder.list maxDependencies Encoder.mutationId mutation.dependencies]

def decodeMutation : Decoder PlannedMutation := do
  let mutationId ← Decoder.mutationId
  let capability ← Decoder.text "state capability identifier is invalid" TextId.new
  let target ← Decoder.text "state target identifier is invalid" TextId.new
  let kind ← decodeMutationKind
  let desired ← decodeTypedValue
  let precondition ← Decoder.fingerprint
  let equality ← Decoder.tag decodeEquality
  let dependencies ← Decoder.list maxDependencies Decoder.mutationId
  Decoder.checked "state mutation is not a valid typed mutation"
    (PlannedMutation.new mutationId capability target kind desired precondition equality)
    dependencies

theorem reads_mutation {mutation : PlannedMutation} (ok : mutation.Checked) :
    Reads decodeMutation (encodeMutation mutation) mutation := by
  apply Reads.bind (reads_mutationId _)
  apply Reads.bind (reads_text (TextId.new_asStr _))
  apply Reads.bind (reads_text (TextId.new_asStr _))
  apply Reads.bind (reads_mutationKind ok.kind)
  apply Reads.bind (reads_typedValue ok.desired)
  apply Reads.bind (reads_fingerprint _)
  apply Reads.bind (reads_tag decodeEquality_tag _)
  apply Reads.bind (reads_list (by decide) fun dependency _ => reads_mutationId dependency)
  exact reads_checked ok.new_eq

theorem rewrites_mutation : Rewrites decodeMutation fun mutation bytes =>
    encodeMutation mutation = .ok bytes ∧ mutation.Checked := by
  apply Rewrites.bind rewrites_mutationId
  intro mutationId idBytes idOk
  apply Rewrites.bind rewrites_textId
  intro capability capabilityBytes capabilityOk
  apply Rewrites.bind rewrites_textId
  intro target targetBytes targetOk
  apply Rewrites.bind rewrites_mutationKind
  rintro kind kindBytes ⟨kindOk, kindChecked⟩
  apply Rewrites.bind rewrites_typedValue
  rintro desired desiredBytes ⟨desiredOk, -⟩
  apply Rewrites.bind rewrites_fingerprint
  intro precondition preconditionBytes preconditionOk
  apply Rewrites.bind (rewrites_tag equalityTag)
  rintro equality equalityBytes rfl
  apply Rewrites.bind (rewrites_plainList (by decide) rewrites_mutationId)
  intro dependencies dependenciesBytes dependenciesOk
  apply rewrites_checked
  intro mutation made
  have checked := PlannedMutation.checked_of_new kindChecked made
  rcases PlannedMutation.eq_of_new made with ⟨rfl, -⟩
  refine ⟨?_, checked⟩
  simp [encodeMutation, Put.seq, idOk, capabilityOk, targetOk, kindOk, desiredOk,
    preconditionOk, Encoder.u8, dependenciesOk]

def encodeSnapshot (snapshot : Snapshot) : Encoder :=
  Put.seq [
    Encoder.mutationId snapshot.mutationId,
    Encoder.text snapshot.target.asStr,
    Encoder.bytes snapshot.originalRaw.get,
    encodeTypedValue snapshot.originalTyped,
    Encoder.fingerprint snapshot.originalFingerprint,
    Encoder.u8 (equalityTag snapshot.equality),
    Encoder.fixed snapshot.targetIdentity.bytes,
    Encoder.timestamp snapshot.capturedAt]

def decodeSnapshot : Decoder Snapshot := do
  let mutationId ← Decoder.mutationId
  let target ← Decoder.text "state snapshot target is invalid" TextId.new
  let originalRaw ← Decoder.validated (Decoder.bytes maxPreimageBytes)
    "state snapshot raw preimage is oversized" BoundedBytes.new
  let originalTyped ← decodeTypedValue
  let originalFingerprint ← Decoder.fingerprint
  let equality ← Decoder.tag decodeEquality
  let targetIdentity ← Decoder.fixed
  let capturedAt ← Decoder.timestamp
  pure ⟨mutationId, target, originalRaw, originalTyped, originalFingerprint, equality,
    ⟨targetIdentity⟩, capturedAt⟩

theorem BoundedBytes.length_le (bytes : BoundedBytes) : bytes.get.length ≤ maxPreimageBytes :=
  of_decide_eq_true bytes.valid

theorem reads_snapshot {snapshot : Snapshot} (ok : snapshot.originalTyped.checked = true) :
    Reads decodeSnapshot (encodeSnapshot snapshot) snapshot := by
  apply Reads.bind (reads_mutationId _)
  apply Reads.bind (reads_text (TextId.new_asStr _))
  apply Reads.bind (reads_validated
    (reads_bytes snapshot.originalRaw.length_le (by decide)) (Bounded.new_get _ _))
  apply Reads.bind (reads_typedValue ok)
  apply Reads.bind (reads_fingerprint _)
  apply Reads.bind (reads_tag decodeEquality_tag _)
  apply Reads.bind (reads_fixed _)
  apply Reads.bind (reads_timestamp _)
  exact Reads.pure _

theorem rewrites_snapshot : Rewrites decodeSnapshot fun snapshot bytes =>
    encodeSnapshot snapshot = .ok bytes ∧ snapshot.originalTyped.checked = true := by
  have rewrites_raw : Rewrites (Decoder.bytes maxPreimageBytes) fun value bytes =>
      Encoder.bytes value = .ok bytes :=
    (rewrites_bytes (by decide)).mono fun _ _ both => both.1
  apply Rewrites.bind rewrites_mutationId
  intro mutationId idBytes idOk
  apply Rewrites.bind rewrites_textId
  intro target targetBytes targetOk
  apply Rewrites.bind (rewrites_bounded rewrites_raw)
  intro originalRaw rawBytes rawOk
  apply Rewrites.bind rewrites_typedValue
  rintro originalTyped typedBytes ⟨typedOk, checked⟩
  apply Rewrites.bind rewrites_fingerprint
  intro fingerprint fingerprintBytes fingerprintOk
  apply Rewrites.bind (rewrites_tag equalityTag)
  rintro equality equalityBytes rfl
  apply Rewrites.bind rewrites_fixed
  intro identity identityBytes identityOk
  apply Rewrites.bind rewrites_timestamp
  intro capturedAt capturedBytes capturedOk
  apply Rewrites.pure
  refine ⟨?_, checked⟩
  simp [encodeSnapshot, Put.seq, idOk, targetOk, rawOk, typedOk, fingerprintOk, Encoder.u8,
    identityOk, capturedOk]

def encodeApplyReceipt (receipt : ApplyReceipt) : Encoder :=
  Put.seq [
    Encoder.mutationId receipt.mutationId,
    Encoder.fingerprint receipt.observedPrecondition,
    Encoder.fingerprint receipt.observedPostcondition,
    Encoder.fingerprint receipt.ownershipFingerprint]

def decodeApplyReceipt : Decoder ApplyReceipt := do
  let mutationId ← Decoder.mutationId
  let observedPrecondition ← Decoder.fingerprint
  let observedPostcondition ← Decoder.fingerprint
  let ownershipFingerprint ← Decoder.fingerprint
  pure ⟨mutationId, observedPrecondition, observedPostcondition, ownershipFingerprint⟩

theorem reads_applyReceipt (receipt : ApplyReceipt) :
    Reads decodeApplyReceipt (encodeApplyReceipt receipt) receipt := by
  apply Reads.bind (reads_mutationId _)
  apply Reads.bind (reads_fingerprint _)
  apply Reads.bind (reads_fingerprint _)
  apply Reads.bind (reads_fingerprint _)
  exact Reads.pure _

theorem rewrites_applyReceipt : Rewrites decodeApplyReceipt fun receipt bytes =>
    encodeApplyReceipt receipt = .ok bytes := by
  apply Rewrites.bind rewrites_mutationId
  intro mutationId idBytes idOk
  apply Rewrites.bind rewrites_fingerprint
  intro precondition preconditionBytes preconditionOk
  apply Rewrites.bind rewrites_fingerprint
  intro postcondition postconditionBytes postconditionOk
  apply Rewrites.bind rewrites_fingerprint
  intro ownership ownershipBytes ownershipOk
  apply Rewrites.pure
  simp [encodeApplyReceipt, Put.seq, idOk, preconditionOk, postconditionOk, ownershipOk]

def encodeVerification (verification : VerificationResult) : Encoder :=
  Put.seq [
    Encoder.mutationId verification.mutationId,
    Encoder.fingerprint verification.expected,
    Put.optional Encoder.fingerprint verification.observed,
    Encoder.bool verification.matched]

def decodeVerification : Decoder VerificationResult := do
  let mutationId ← Decoder.mutationId
  let expected ← Decoder.fingerprint
  let observed ← Get.optional Decoder.u8 Decoder.fingerprint
  let matched ← Decoder.bool
  pure ⟨mutationId, expected, observed, matched⟩

theorem reads_verification (verification : VerificationResult) :
    Reads decodeVerification (encodeVerification verification) verification := by
  apply Reads.bind (reads_mutationId _)
  apply Reads.bind (reads_fingerprint _)
  apply Reads.bind (Reads.optional reads_u8 fun inner _ => reads_fingerprint inner)
  apply Reads.bind (reads_bool _)
  exact Reads.pure _

theorem rewrites_verification : Rewrites decodeVerification fun verification bytes =>
    encodeVerification verification = .ok bytes := by
  apply Rewrites.bind rewrites_mutationId
  intro mutationId idBytes idOk
  apply Rewrites.bind rewrites_fingerprint
  intro expected expectedBytes expectedOk
  apply Rewrites.bind (rewrites_option rewrites_fingerprint)
  intro observed observedBytes observedOk
  apply Rewrites.bind rewrites_bool
  intro matched matchedBytes matchedOk
  apply Rewrites.pure
  simp [encodeVerification, Put.seq, idOk, expectedOk, observedOk, matchedOk]

def encodeRestoreReceipt (receipt : RestoreReceipt) : Encoder :=
  Put.seq [
    Encoder.mutationId receipt.mutationId,
    Encoder.fingerprint receipt.restoredFingerprint,
    Encoder.bool receipt.verified]

def decodeRestoreReceipt : Decoder RestoreReceipt := do
  let mutationId ← Decoder.mutationId
  let restoredFingerprint ← Decoder.fingerprint
  let verified ← Decoder.bool
  pure ⟨mutationId, restoredFingerprint, verified⟩

theorem reads_restoreReceipt (receipt : RestoreReceipt) :
    Reads decodeRestoreReceipt (encodeRestoreReceipt receipt) receipt := by
  apply Reads.bind (reads_mutationId _)
  apply Reads.bind (reads_fingerprint _)
  apply Reads.bind (reads_bool _)
  exact Reads.pure _

theorem rewrites_restoreReceipt : Rewrites decodeRestoreReceipt fun receipt bytes =>
    encodeRestoreReceipt receipt = .ok bytes := by
  apply Rewrites.bind rewrites_mutationId
  intro mutationId idBytes idOk
  apply Rewrites.bind rewrites_fingerprint
  intro restored restoredBytes restoredOk
  apply Rewrites.bind rewrites_bool
  intro verified verifiedBytes verifiedOk
  apply Rewrites.pure
  simp [encodeRestoreReceipt, Put.seq, idOk, restoredOk, verifiedOk]

/-! ## Journal entries -/

def encodeTransition (transition : TransitionRecord) : Encoder :=
  Put.seq [
    Encoder.u64 transition.sequence,
    Encoder.sessionId transition.sessionId,
    Encoder.u8 (sessionStateTag transition.fromState),
    Encoder.u8 (sessionStateTag transition.toState),
    Encoder.timestamp transition.at_,
    Encoder.string transition.reason maxReasonBytes]

def decodeTransition : Decoder TransitionRecord := do
  let sequence ← Decoder.u64
  let sessionId ← Decoder.sessionId
  let fromState ← Decoder.tag decodeSessionState
  let toState ← Decoder.tag decodeSessionState
  let at_ ← Decoder.timestamp
  let reason ← Decoder.string maxReasonBytes
  pure ⟨sequence, sessionId, fromState, toState, at_, reason⟩

theorem reads_transition (transition : TransitionRecord) :
    Reads decodeTransition (encodeTransition transition) transition := by
  apply Reads.bind (reads_u64 _)
  apply Reads.bind (reads_sessionId _)
  apply Reads.bind (reads_tag decodeSessionState_tag _)
  apply Reads.bind (reads_tag decodeSessionState_tag _)
  apply Reads.bind (reads_timestamp _)
  apply Reads.bind (reads_string (by decide))
  exact Reads.pure _

theorem rewrites_transition : Rewrites decodeTransition fun transition bytes =>
    encodeTransition transition = .ok bytes := by
  apply Rewrites.bind rewrites_u64
  intro sequence sequenceBytes sequenceOk
  apply Rewrites.bind rewrites_sessionId
  intro sessionId sessionBytes sessionOk
  apply Rewrites.bind (rewrites_tag sessionStateTag)
  rintro fromState fromBytes rfl
  apply Rewrites.bind (rewrites_tag sessionStateTag)
  rintro toState toBytes rfl
  apply Rewrites.bind rewrites_timestamp
  intro at_ atBytes atOk
  apply Rewrites.bind (rewrites_string (by decide))
  rintro reason reasonBytes ⟨reasonOk, -⟩
  apply Rewrites.pure
  simp [encodeTransition, Put.seq, sequenceOk, sessionOk, Encoder.u8, atOk, reasonOk]

def encodeFailure (failure : FailureRecord) : Encoder :=
  Put.seq [
    Encoder.u16 (errorCodeTag failure.code),
    Encoder.u8 (stageTag failure.stage),
    Put.optional Encoder.mutationId failure.mutationId,
    Encoder.string failure.message maxReasonBytes]

def decodeFailure : Decoder FailureRecord := do
  let tag ← Decoder.u16
  let code ← Get.lift (decodeErrorCode tag)
  let stage ← Decoder.tag decodeStage
  let mutationId ← Get.optional Decoder.u8 Decoder.mutationId
  let message ← Decoder.string maxReasonBytes
  pure ⟨code, stage, mutationId, message⟩

theorem reads_failure (failure : FailureRecord) :
    Reads decodeFailure (encodeFailure failure) failure := by
  apply Reads.bind (reads_u16 _)
  apply Reads.lift_bind (decodeErrorCode_tag failure.code)
  apply Reads.bind (reads_tag decodeStage_tag _)
  apply Reads.bind (Reads.optional reads_u8 fun inner _ => reads_mutationId inner)
  apply Reads.bind (reads_string (by decide))
  exact Reads.pure _

theorem errorCodeTag_of_decode {tag : UInt16} {code : ErrorCode}
    (ok : decodeErrorCode tag = .ok code) : errorCodeTag code = tag := by
  unfold decodeErrorCode at ok
  split at ok <;> cases ok <;> rfl

theorem rewrites_failure : Rewrites decodeFailure fun failure bytes =>
    encodeFailure failure = .ok bytes := by
  apply Rewrites.bind rewrites_u16
  intro tag tagBytes tagOk
  apply Rewrites.lift_bind
  intro code decoded
  apply Rewrites.bind (rewrites_tag stageTag)
  rintro stage stageBytes rfl
  apply Rewrites.bind (rewrites_option rewrites_mutationId)
  intro mutationId idBytes idOk
  apply Rewrites.bind (rewrites_string (by decide))
  rintro message messageBytes ⟨messageOk, -⟩
  apply Rewrites.pure
  simp [encodeFailure, Put.seq, errorCodeTag_of_decode decoded, tagOk, Encoder.u8, idOk,
    messageOk]

/-! ## Operations, sessions and records -/

def encodeOperation (operation : OperationRecord) : Encoder :=
  Put.seq [
    encodeMutation operation.mutation,
    Encoder.u8 (operationStateTag operation.state),
    Put.optional encodeSnapshot operation.snapshot,
    Put.optional encodeApplyReceipt operation.applyReceipt,
    Put.optional encodeVerification operation.verification,
    Put.optional encodeRestoreReceipt operation.restoreReceipt,
    Put.optional encodeFailure operation.failure]

def decodeOperation : Decoder OperationRecord := do
  let mutation ← decodeMutation
  let state ← Decoder.tag decodeOperationState
  let snapshot ← Get.optional Decoder.u8 decodeSnapshot
  let applyReceipt ← Get.optional Decoder.u8 decodeApplyReceipt
  let verification ← Get.optional Decoder.u8 decodeVerification
  let restoreReceipt ← Get.optional Decoder.u8 decodeRestoreReceipt
  let failure ← Get.optional Decoder.u8 decodeFailure
  pure ⟨mutation, state, snapshot, applyReceipt, verification, restoreReceipt, failure⟩

/-- The values inside an operation were made by checked constructors. -/
structure OperationRecord.Checked (operation : OperationRecord) : Prop where
  mutation : operation.mutation.Checked
  snapshot : ∀ snapshot ∈ operation.snapshot, snapshot.originalTyped.checked = true

theorem reads_operation {operation : OperationRecord} (ok : operation.Checked) :
    Reads decodeOperation (encodeOperation operation) operation := by
  apply Reads.bind (reads_mutation ok.mutation)
  apply Reads.bind (reads_tag decodeOperationState_tag _)
  apply Reads.bind (Reads.optional reads_u8 fun inner same => reads_snapshot (ok.snapshot inner same))
  apply Reads.bind (Reads.optional reads_u8 fun inner _ => reads_applyReceipt inner)
  apply Reads.bind (Reads.optional reads_u8 fun inner _ => reads_verification inner)
  apply Reads.bind (Reads.optional reads_u8 fun inner _ => reads_restoreReceipt inner)
  apply Reads.bind (Reads.optional reads_u8 fun inner _ => reads_failure inner)
  exact Reads.pure _

theorem rewrites_operation : Rewrites decodeOperation fun operation bytes =>
    encodeOperation operation = .ok bytes ∧ operation.Checked := by
  apply Rewrites.bind rewrites_mutation
  rintro mutation mutationBytes ⟨mutationOk, mutationChecked⟩
  apply Rewrites.bind (rewrites_tag operationStateTag)
  rintro state stateBytes rfl
  apply Rewrites.bind (Rewrites.optional rewrites_u8 rewrites_snapshot)
  rintro snapshot snapshotBytes ⟨snapshotOk, snapshotChecked⟩
  apply Rewrites.bind (rewrites_option rewrites_applyReceipt)
  intro applyReceipt applyBytes applyOk
  apply Rewrites.bind (rewrites_option rewrites_verification)
  intro verification verificationBytes verificationOk
  apply Rewrites.bind (rewrites_option rewrites_restoreReceipt)
  intro restoreReceipt restoreBytes restoreOk
  apply Rewrites.bind (rewrites_option rewrites_failure)
  intro failure failureBytes failureOk
  apply Rewrites.pure
  refine ⟨?_, mutationChecked, snapshotChecked⟩
  simp [encodeOperation, Put.seq, mutationOk, Encoder.u8, snapshotOk, applyOk, verificationOk,
    restoreOk, failureOk]

def encodeSession (session : Session) : Encoder :=
  Put.seq [
    Encoder.sessionId session.header.sessionId,
    Encoder.fixed session.header.planId.bytes,
    Encoder.fixed session.header.planDigest,
    Encoder.timestamp session.header.createdAt,
    Encoder.u8 (sessionStateTag session.state),
    Encoder.list maxTargets (fun target => Encoder.text target.asStr) session.header.targets]

def decodeSession : Decoder Session := do
  let sessionId ← Decoder.sessionId
  let planId ← Decoder.fixed
  let planDigest ← Decoder.fixed
  let createdAt ← Decoder.timestamp
  let state ← Decoder.tag decodeSessionState
  let targets ← Decoder.list maxTargets
    (Decoder.text "state target identifier is invalid" TextId.new)
  pure ⟨⟨sessionId, ⟨planId⟩, planDigest, createdAt, targets⟩, state⟩

theorem reads_session (session : Session) :
    Reads decodeSession (encodeSession session) session := by
  apply Reads.bind (reads_sessionId _)
  apply Reads.bind (reads_fixed _)
  apply Reads.bind (reads_fixed _)
  apply Reads.bind (reads_timestamp _)
  apply Reads.bind (reads_tag decodeSessionState_tag _)
  apply Reads.bind (reads_list (by decide) fun target _ => reads_text (TextId.new_asStr target))
  exact Reads.pure _

theorem rewrites_session : Rewrites decodeSession fun session bytes =>
    encodeSession session = .ok bytes := by
  apply Rewrites.bind rewrites_sessionId
  intro sessionId sessionBytes sessionOk
  apply Rewrites.bind rewrites_fixed
  intro planId planBytes planOk
  apply Rewrites.bind rewrites_fixed
  intro planDigest digestBytes digestOk
  apply Rewrites.bind rewrites_timestamp
  intro createdAt createdBytes createdOk
  apply Rewrites.bind (rewrites_tag sessionStateTag)
  rintro state stateBytes rfl
  apply Rewrites.bind (rewrites_plainList (by decide) rewrites_textId)
  intro targets targetsBytes targetsOk
  apply Rewrites.pure
  simp [encodeSession, Put.seq, sessionOk, planOk, digestOk, createdOk, Encoder.u8, targetsOk]

/-- The payload of a state record. -/
def encodePayload (record : SessionRecord) : Encoder :=
  Put.seq [
    encodeSession record.session,
    Encoder.list maxOperations encodeOperation record.operations,
    Encoder.list maxTransitions encodeTransition record.transitions,
    Encoder.list maxFailures encodeFailure record.failures]

def decodePayload : Decoder SessionRecord := do
  let session ← decodeSession
  let operations ← Decoder.list maxOperations decodeOperation
  let transitions ← Decoder.list maxTransitions decodeTransition
  let failures ← Decoder.list maxFailures decodeFailure
  pure ⟨session, operations, transitions, failures⟩

/-- The values inside a record were made by checked constructors. -/
def SessionRecord.Checked (record : SessionRecord) : Prop :=
  ∀ operation ∈ record.operations, operation.Checked

theorem reads_payload {record : SessionRecord} (ok : record.Checked) :
    Reads decodePayload (encodePayload record) record := by
  apply Reads.bind (reads_session _)
  apply Reads.bind (reads_list (by decide) fun operation member =>
    reads_operation (ok operation member))
  apply Reads.bind (reads_list (by decide) fun transition _ => reads_transition transition)
  apply Reads.bind (reads_list (by decide) fun failure _ => reads_failure failure)
  exact Reads.pure _

theorem rewrites_payload : Rewrites decodePayload fun record bytes =>
    encodePayload record = .ok bytes ∧ record.Checked := by
  apply Rewrites.bind rewrites_session
  intro session sessionBytes sessionOk
  apply Rewrites.bind (rewrites_list (by decide) rewrites_operation)
  rintro operations operationsBytes ⟨operationsOk, checked⟩
  apply Rewrites.bind (rewrites_plainList (by decide) rewrites_transition)
  intro transitions transitionsBytes transitionsOk
  apply Rewrites.bind (rewrites_plainList (by decide) rewrites_failure)
  intro failures failuresBytes failuresOk
  apply Rewrites.pure
  refine ⟨?_, checked⟩
  simp [encodePayload, Put.seq, sessionOk, operationsOk, transitionsOk, failuresOk]

end Sysboost.Core
