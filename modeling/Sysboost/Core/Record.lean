import Sysboost.Core.Session

/-!
# Durable transaction records and operation-level state

A method on `&mut self` may change the record before it fails, and some callers
go on after ignoring the failure.  Such a method is modelled by a function to
the pair of its result and the record it leaves behind.
-/

namespace Sysboost.Core

open ByteCodec

/-- Maximum encoded session record accepted by the decoder. -/
def maxSessionRecordBytes : Nat := 1048576

def maxOperations : Nat := 4096

def maxTransitions : Nat := 16384

def maxTargets : Nat := 4096

def maxDependencies : Nat := 4096

def maxFailures : Nat := 4096

def maxStringBytes : Nat := 4096

def maxReasonBytes : Nat := 1024

/-- Explicit lifecycle of one typed operation inside a session. -/
inductive OperationState where
  | planned
  | snapshotted
  | intentRecorded
  | applying
  | applied
  | verified
  | restoring
  | restored
  | failed
  | restoreFailed
deriving DecidableEq, Repr

/-- The legal operation-level lifecycle transitions. -/
def OperationState.canTransition : OperationState → OperationState → Bool
  | planned, snapshotted => true
  | snapshotted, intentRecorded => true
  | intentRecorded, applying => true
  | applying, applied => true
  | applying, failed => true
  | applied, verified => true
  | applied, failed => true
  | verified, restoring => true
  | applied, restoring => true
  | applying, restoring => true
  | failed, restoring => true
  | restoring, restored => true
  | restoring, restoreFailed => true
  | restoreFailed, restoring => true
  | _, _ => false

/-- Result of a separate postcondition or ownership readback. -/
structure VerificationResult where
  mutationId : MutationId
  expected : StateFingerprint
  observed : Option StateFingerprint
  matched : Bool
deriving DecidableEq

/-- A bounded, serializable failure attached to a session or operation. -/
structure FailureRecord where
  code : ErrorCode
  stage : Stage
  mutationId : Option MutationId
  message : String
deriving DecidableEq

/-- The characters of `text` that fit into `maxBytes` bytes, up to the last
character boundary. -/
def takeBytes (maxBytes : Nat) : List Char → List Char
  | [] => []
  | char :: rest =>
      if char.utf8Size ≤ maxBytes then char :: takeBytes (maxBytes - char.utf8Size) rest else []

def truncateText (value : String) (maxBytes : Nat) : String :=
  if value.utf8ByteSize ≤ maxBytes then value
  else String.ofList (takeBytes maxBytes value.toList)

/-- Create a bounded failure record from a structured domain error. -/
def FailureRecord.fromError (error : SysboostError) : FailureRecord where
  code := error.code
  stage := error.context.stage.getD .recovery
  mutationId := error.context.mutationId
  message := truncateText error.message maxReasonBytes

def invariantError (message : String) (mutationId : MutationId) : SysboostError :=
  ((SysboostError.new .invariantViolation message).withStage .recovery).withMutation mutationId

/-- Persisted state for one planned operation. -/
structure OperationRecord where
  mutation : PlannedMutation
  state : OperationState
  snapshot : Option Snapshot
  applyReceipt : Option ApplyReceipt
  verification : Option VerificationResult
  restoreReceipt : Option RestoreReceipt
  failure : Option FailureRecord
deriving DecidableEq

namespace OperationRecord

/-- Construct a planned operation record. -/
def planned (mutation : PlannedMutation) : OperationRecord :=
  ⟨mutation, .planned, none, none, none, none, none⟩

/-- Apply a legal operation-state transition. -/
def transition (operation : OperationRecord) (next : OperationState) :
    Except SysboostError Unit × OperationRecord :=
  if !operation.state.canTransition next then
    (.error (invariantError "illegal operation state transition" operation.mutation.mutationId),
      operation)
  else (.ok (), { operation with state := next })

/-- Whether this operation may need restoration after a crash or failure. -/
def needsRestore (operation : OperationRecord) : Bool :=
  operation.applyReceipt.isSome && operation.state != .restored

theorem transition_of_legal {operation : OperationRecord} {next : OperationState}
    (legal : operation.state.canTransition next = true) :
    operation.transition next = (.ok (), { operation with state := next }) := by
  simp [transition, legal]

theorem eq_of_transition {operation operation' : OperationRecord} {next : OperationState}
    (ok : operation.transition next = (.ok (), operation')) :
    operation.state.canTransition next = true ∧ operation' = { operation with state := next } := by
  by_cases legal : operation.state.canTransition next = true
  · rw [transition_of_legal legal, Prod.mk.injEq] at ok
    exact ⟨legal, ok.2.symm⟩
  · simp [transition, legal] at ok

end OperationRecord

/-- Complete durable state for one boost session. -/
structure SessionRecord where
  session : Session
  operations : List OperationRecord
  transitions : List TransitionRecord
  failures : List FailureRecord
deriving DecidableEq

/-- `operation_mut` followed by a method of the operation found: the first
operation with the given mutation ID is updated. -/
def updateOperation (mutationId : MutationId)
    (update : OperationRecord → Except SysboostError Unit × OperationRecord) :
    List OperationRecord → Except SysboostError Unit × List OperationRecord
  | [] =>
      (.error (invariantError "operation ID is absent from the session record" mutationId), [])
  | operation :: rest =>
      if operation.mutation.mutationId = mutationId then
        ((update operation).1, (update operation).2 :: rest)
      else
        ((updateOperation mutationId update rest).1,
          operation :: (updateOperation mutationId update rest).2)

theorem updateOperation_append {mutationId : MutationId}
    {update : OperationRecord → Except SysboostError Unit × OperationRecord}
    {front back : List OperationRecord} {operation : OperationRecord}
    (own : operation.mutation.mutationId = mutationId)
    (others : ∀ other ∈ front, other.mutation.mutationId ≠ mutationId) :
    updateOperation mutationId update (front ++ operation :: back) =
      ((update operation).1, front ++ (update operation).2 :: back) := by
  induction front with
  | nil => simp [updateOperation, own]
  | cons other front ih =>
      have different := others other (by simp)
      have rest := ih fun later member => others later (by simp [member])
      simp [updateOperation, different, rest]

/-- A successful update changes exactly one operation. -/
theorem updateOperation_eq_ok {mutationId : MutationId}
    {update : OperationRecord → Except SysboostError Unit × OperationRecord}
    {operations after : List OperationRecord}
    (ok : updateOperation mutationId update operations = (.ok (), after)) :
    ∃ front operation back operation', operations = front ++ operation :: back ∧
      after = front ++ operation' :: back ∧ operation.mutation.mutationId = mutationId ∧
      update operation = (.ok (), operation') := by
  induction operations generalizing after with
  | nil => simp [updateOperation] at ok
  | cons operation rest ih =>
      by_cases own : operation.mutation.mutationId = mutationId
      · simp only [updateOperation, own, if_true, Prod.mk.injEq] at ok
        exact ⟨[], operation, rest, (update operation).2, rfl, ok.2.symm, own,
          Prod.ext ok.1 rfl⟩
      · simp only [updateOperation, own, if_false, Prod.mk.injEq] at ok
        obtain ⟨result, rfl⟩ := ok
        obtain ⟨front, found, back, found', split, split', ownId, updated⟩ :=
          ih (Prod.ext result rfl)
        exact ⟨operation :: front, found, back, found', by rw [split, List.cons_append],
          congrArg (operation :: ·) split', ownId, updated⟩

theorem split_of_getElem? {operations : List OperationRecord} {index : Nat}
    {operation : OperationRecord} (found : operations[index]? = some operation) :
    ∃ front back, operations = front ++ operation :: back ∧ front.length = index := by
  obtain ⟨inside, rfl⟩ := List.getElem?_eq_some_iff.mp found
  exact ⟨operations.take index, operations.drop (index + 1),
    by rw [← List.drop_eq_getElem_cons inside, List.take_append_drop],
    List.length_take_of_le (Nat.le_of_lt inside)⟩

namespace SessionRecord

/-- The identity of the session a record belongs to. -/
abbrev sessionId (record : SessionRecord) : SessionId :=
  record.session.header.sessionId

/-- Run a method of one operation inside the record. -/
def onOperation (record : SessionRecord) (mutationId : MutationId)
    (update : OperationRecord → Except SysboostError Unit × OperationRecord) :
    Except SysboostError Unit × SessionRecord :=
  ((updateOperation mutationId update record.operations).1,
    { record with operations := (updateOperation mutationId update record.operations).2 })

@[simp] theorem onOperation_session (record : SessionRecord) (mutationId : MutationId)
    (update : OperationRecord → Except SysboostError Unit × OperationRecord) :
    (record.onOperation mutationId update).2.session = record.session :=
  rfl

/-- A successful method changes exactly one operation. -/
theorem onOperation_eq_ok {record after : SessionRecord} {mutationId : MutationId}
    {update : OperationRecord → Except SysboostError Unit × OperationRecord}
    (ok : record.onOperation mutationId update = (.ok (), after)) :
    ∃ front operation back operation', record.operations = front ++ operation :: back ∧
      after = { record with operations := front ++ operation' :: back } ∧
      operation.mutation.mutationId = mutationId ∧
      update operation = (.ok (), operation') := by
  rcases result : updateOperation mutationId update record.operations with ⟨outcome, operations⟩
  simp only [onOperation, result, Prod.mk.injEq] at ok
  obtain ⟨rfl, rfl⟩ := ok
  obtain ⟨front, operation, back, operation', split, rfl, own, updated⟩ :=
    updateOperation_eq_ok result
  exact ⟨front, operation, back, operation', split, rfl, own, updated⟩

theorem onOperation_append {record : SessionRecord} {mutationId : MutationId}
    {update : OperationRecord → Except SysboostError Unit × OperationRecord}
    {front back : List OperationRecord} {operation : OperationRecord}
    (split : record.operations = front ++ operation :: back)
    (own : operation.mutation.mutationId = mutationId)
    (others : ∀ other ∈ front, other.mutation.mutationId ≠ mutationId) :
    record.onOperation mutationId update =
      ((update operation).1, { record with operations := front ++ (update operation).2 :: back }) := by
  simp only [onOperation, split, updateOperation_append own others]

/-- The operation records of a mutation list; a repeated ID is refused. -/
def planOperations : List MutationId → List PlannedMutation →
    Except SysboostError (List OperationRecord)
  | _, [] => .ok []
  | seen, mutation :: rest =>
      if mutation.mutationId ∈ seen then
        .error (invariantError "durable transaction contains duplicate mutation IDs"
          mutation.mutationId)
      else do
        let operations ← planOperations (mutation.mutationId :: seen) rest
        return .planned mutation :: operations

/-- Construct a record from a planned mutation list. -/
def new (session : Session) (mutations : List PlannedMutation) :
    Except SysboostError SessionRecord :=
  if mutations.isEmpty then
    .error ((SysboostError.new .planningError
      "a durable transaction must contain at least one mutation").withStage .plan)
  else if mutations.length > maxOperations then
    .error ((SysboostError.new .planningError
      "transaction contains too many mutations").withStage .plan)
  else do
    let operations ← planOperations [] mutations
    return ⟨session, operations, [], []⟩

/-- The sequence number of the next transition, saturating. -/
def nextSequence (record : SessionRecord) : UInt64 :=
  match record.transitions.getLast? with
  | none => 1
  | some last => if last.sequence.toNat + 1 < 2 ^ 64 then last.sequence + 1 else last.sequence

/-- Append one overall session transition and retain its sequence. -/
def transition (record : SessionRecord) (next : SessionState) (at_ : Timestamp)
    (reason : String) : Except SysboostError Unit × SessionRecord :=
  if reason.isEmpty || reason.utf8ByteSize > maxReasonBytes || containsNul reason then
    (.error (((SysboostError.new .invalidInput
      "session transition reason is empty or oversized").withStage .recovery).withSession
      record.sessionId), record)
  else
    match record.session.transition next with
    | .error error => (.error error, record)
    | .ok session =>
        (.ok (), { record with
          session
          transitions := record.transitions ++
            [⟨record.nextSequence, record.sessionId, record.session.state, next, at_, reason⟩] })

@[simp] theorem transition_header (record : SessionRecord) (next : SessionState)
    (at_ : Timestamp) (reason : String) :
    (record.transition next at_ reason).2.session.header = record.session.header := by
  unfold transition
  split
  · rfl
  · unfold Session.transition
    split
    · rfl
    next session ok =>
      split at ok
      · cases ok
      · cases ok
        rfl

/-- A reason the journal accepts. -/
def GoodReason (reason : String) : Prop :=
  reason.isEmpty = false ∧ reason.utf8ByteSize ≤ maxReasonBytes ∧ containsNul reason = false

instance (reason : String) : Decidable (GoodReason reason) :=
  inferInstanceAs (Decidable (_ ∧ _ ∧ _))

/-- The record after a transition. -/
def moved (record : SessionRecord) (next : SessionState) (at_ : Timestamp) (reason : String) :
    SessionRecord :=
  { record with
    session := { record.session with state := next }
    transitions := record.transitions ++
      [⟨record.nextSequence, record.sessionId, record.session.state, next, at_, reason⟩] }

section Projections

variable (record : SessionRecord) (next : SessionState) (at_ : Timestamp) (reason : String)

@[simp] theorem moved_header :
    (record.moved next at_ reason).session.header = record.session.header :=
  rfl

@[simp] theorem moved_state : (record.moved next at_ reason).session.state = next := rfl

@[simp] theorem moved_operations :
    (record.moved next at_ reason).operations = record.operations :=
  rfl

@[simp] theorem moved_failures : (record.moved next at_ reason).failures = record.failures := rfl

end Projections

theorem transition_of_legal {record : SessionRecord} {next : SessionState} {at_ : Timestamp}
    {reason : String} (good : GoodReason reason)
    (legal : record.session.state.canTransition next = true) :
    record.transition next at_ reason = (.ok (), record.moved next at_ reason) := by
  have small : ¬ maxReasonBytes < reason.utf8ByteSize := Nat.not_lt.mpr good.2.1
  simp [transition, Session.transition, good.1, good.2.2, small, legal, moved]

theorem moved_of_transition {record after : SessionRecord} {next : SessionState} {at_ : Timestamp}
    {reason : String} (ok : record.transition next at_ reason = (.ok (), after)) :
    record.session.state.canTransition next = true ∧ after = record.moved next at_ reason := by
  by_cases bad :
      (reason.isEmpty || reason.utf8ByteSize > maxReasonBytes || containsNul reason) = true
  · simp only [transition, bad, if_true, Prod.mk.injEq, reduceCtorEq, false_and] at ok
  · by_cases legal : record.session.state.canTransition next = true
    · simp only [transition, bad, Session.transition, legal, Bool.not_true, Bool.false_eq_true,
        if_false, Prod.mk.injEq, true_and] at ok
      exact ⟨legal, ok.symm⟩
    · simp [transition, bad, Session.transition, legal] at ok

/-- Capture one complete original state. -/
def captureSnapshot (record : SessionRecord) (snapshot : Snapshot) :
    Except SysboostError Unit × SessionRecord :=
  record.onOperation snapshot.mutationId fun operation =>
    if snapshot.target ≠ operation.mutation.target ||
        snapshot.equality ≠ operation.mutation.equality ||
        snapshot.originalFingerprint ≠ operation.mutation.precondition ||
        snapshot.targetIdentity.bytes = .fill 16 0 then
      (.error ((((SysboostError.new .snapshotError
        "snapshot identity, equality, precondition, or target token is invalid").withStage
        .snapshot).withMutation snapshot.mutationId).withTarget operation.mutation.target),
        operation)
    else if operation.snapshot.isSome || operation.state ≠ .planned then
      (.error (invariantError
        "operation snapshot was captured more than once or at the wrong stage"
        snapshot.mutationId), operation)
    else { operation with snapshot := some snapshot }.transition .snapshotted

/-- The transitions of `record_intent`, in order; the first illegal one stops. -/
def intendAll : List OperationRecord → Except SysboostError Unit × List OperationRecord
  | [] => (.ok (), [])
  | operation :: rest =>
      match operation.transition .intentRecorded with
      | (.error error, left) => (.error error, left :: rest)
      | (.ok (), intended) => ((intendAll rest).1, intended :: (intendAll rest).2)

/-- Mark all captured operations as part of durable intent. -/
def recordIntent (record : SessionRecord) : Except SysboostError Unit × SessionRecord :=
  if record.operations.any fun operation => operation.state != .snapshotted then
    (.error (((SysboostError.new .invariantViolation
      "durable intent requires a complete snapshot for every operation").withStage
      .durableIntent).withSession record.sessionId), record)
  else
    ((intendAll record.operations).1,
      { record with operations := (intendAll record.operations).2 })

/-- Attach an apply receipt to an operation. -/
def recordApply (record : SessionRecord) (mutationId : MutationId) (receipt : ApplyReceipt) :
    Except SysboostError Unit × SessionRecord :=
  record.onOperation mutationId fun operation =>
    if receipt.mutationId ≠ mutationId then
      (.error (invariantError "apply receipt mutation ID does not match the operation"
        mutationId), operation)
    else { operation with applyReceipt := some receipt }.transition .applied

/-- Attach a postcondition readback result and advance to verified state. -/
def recordVerification (record : SessionRecord) (mutationId : MutationId)
    (verification : VerificationResult) : Except SysboostError Unit × SessionRecord :=
  record.onOperation mutationId fun operation =>
    if verification.mutationId ≠ mutationId then
      (.error (invariantError "verification mutation ID does not match the operation"
        mutationId), operation)
    else
      { operation with verification := some verification }.transition
        (if verification.matched then .verified else .failed)

/-- Retain a session-level failure. -/
def recordFailure (record : SessionRecord) (error : SysboostError) : SessionRecord :=
  { record with failures := record.failures ++ [.fromError error] }

section Projections

variable (record : SessionRecord) (error : SysboostError)

@[simp] theorem recordFailure_session : (record.recordFailure error).session = record.session :=
  rfl

@[simp] theorem recordFailure_operations :
    (record.recordFailure error).operations = record.operations :=
  rfl

@[simp] theorem recordFailure_transitions :
    (record.recordFailure error).transitions = record.transitions :=
  rfl

@[simp] theorem recordFailure_failures :
    (record.recordFailure error).failures = record.failures ++ [.fromError error] :=
  rfl

end Projections

theorem foldl_recordFailure (failures : List SysboostError) (record : SessionRecord) :
    failures.foldl recordFailure record =
      { record with failures := record.failures ++ failures.map .fromError } := by
  induction failures generalizing record with
  | nil => simp
  | cons error rest ih => simp [ih, recordFailure]

/-- Attach a failure to one operation, move it to `next` unless it is there,
and retain the failure once the operation has moved. -/
def failTo (next : OperationState) (record : SessionRecord) (mutationId : MutationId)
    (error : SysboostError) : Except SysboostError Unit × SessionRecord :=
  match record.onOperation mutationId fun operation =>
    if operation.state ≠ next then
      { operation with failure := some (.fromError error) }.transition next
    else (.ok (), { operation with failure := some (.fromError error) }) with
  | (.error error, left) => (.error error, left)
  | (.ok (), left) => (.ok (), left.recordFailure error)

@[simp] theorem failTo_session (next : OperationState) (record : SessionRecord)
    (mutationId : MutationId) (error : SysboostError) :
    (failTo next record mutationId error).2.session = record.session := by
  unfold failTo
  split
  next same => exact congrArg (fun result => result.2.session) same.symm
  next same => exact congrArg (fun result => result.2.session) same.symm

/-- Mark one operation as failed and retain the structured reason. -/
def failOperation : SessionRecord → MutationId → SysboostError →
    Except SysboostError Unit × SessionRecord :=
  failTo .failed

/-- Mark a restore failure while retaining the apply receipt for retry. -/
def failRestore : SessionRecord → MutationId → SysboostError →
    Except SysboostError Unit × SessionRecord :=
  failTo .restoreFailed

/-- Move one applied operation into restoration. -/
def beginRestoreOperation (record : SessionRecord) (mutationId : MutationId) :
    Except SysboostError Unit × SessionRecord :=
  record.onOperation mutationId fun operation =>
    if operation.state = .restored then (.ok (), operation)
    else operation.transition .restoring

/-- Record a successful original-state verification. -/
def recordRestore (record : SessionRecord) (mutationId : MutationId)
    (receipt : RestoreReceipt) : Except SysboostError Unit × SessionRecord :=
  record.onOperation mutationId fun operation =>
    if receipt.mutationId ≠ mutationId || !receipt.verified then
      (.error (invariantError "restore receipt is not a verified receipt for the operation"
        mutationId), operation)
    else { operation with restoreReceipt := some receipt }.transition .restored

/-! ### The methods at the operation they find -/

section Found

variable {record : SessionRecord} {front back : List OperationRecord}
  {operation : OperationRecord} {error : SysboostError}

/-- The operation is the first of the record with its mutation ID. -/
structure Finds (record : SessionRecord) (front : List OperationRecord)
    (operation : OperationRecord) (back : List OperationRecord) : Prop where
  split : record.operations = front ++ operation :: back
  others : ∀ other ∈ front, other.mutation.mutationId ≠ operation.mutation.mutationId

/-- The record with another operation in the place of the one found. -/
def place (record : SessionRecord) (front : List OperationRecord) (operation : OperationRecord)
    (back : List OperationRecord) : SessionRecord :=
  { record with operations := front ++ operation :: back }

section Projections

variable (record front operation back)

@[simp] theorem place_session : (record.place front operation back).session = record.session := rfl

@[simp] theorem place_operations :
    (record.place front operation back).operations = front ++ operation :: back :=
  rfl

@[simp] theorem place_transitions :
    (record.place front operation back).transitions = record.transitions :=
  rfl

@[simp] theorem place_failures :
    (record.place front operation back).failures = record.failures :=
  rfl

end Projections

theorem Finds.onOperation (finds : Finds record front operation back)
    (update : OperationRecord → Except SysboostError Unit × OperationRecord) :
    record.onOperation operation.mutation.mutationId update =
      ((update operation).1, record.place front (update operation).2 back) :=
  onOperation_append finds.split rfl finds.others

theorem Finds.place {operation' : OperationRecord} (finds : Finds record front operation back)
    (same : operation'.mutation = operation.mutation) :
    Finds (record.place front operation' back) front operation' back :=
  ⟨rfl, same ▸ finds.others⟩

/-- Indexing the operation found is replacing it in its place. -/
theorem Finds.set (finds : Finds record front operation back) (operation' : OperationRecord) :
    { record with operations := record.operations.set front.length operation' } =
      record.place front operation' back := by
  simp [SessionRecord.place, finds.split]

theorem Finds.recordApply (finds : Finds record front operation back) {receipt : ApplyReceipt}
    (own : receipt.mutationId = operation.mutation.mutationId)
    (applying : operation.state = .applying) :
    record.recordApply operation.mutation.mutationId receipt = (.ok (), record.place front
      { operation with applyReceipt := some receipt, state := .applied } back) := by
  simp [SessionRecord.recordApply, finds.onOperation, own, OperationRecord.transition, applying,
    OperationState.canTransition]

/-- A receipt of another mutation is refused. -/
theorem Finds.recordApply_foreign (finds : Finds record front operation back)
    {receipt : ApplyReceipt} (foreign : receipt.mutationId ≠ operation.mutation.mutationId) :
    ∃ left, record.recordApply operation.mutation.mutationId receipt =
      (.error (invariantError "apply receipt mutation ID does not match the operation"
        operation.mutation.mutationId), left) := by
  simp [SessionRecord.recordApply, finds.onOperation, foreign]

theorem Finds.recordVerification (finds : Finds record front operation back)
    {verification : VerificationResult}
    (own : verification.mutationId = operation.mutation.mutationId)
    (applied : operation.state = .applied) :
    record.recordVerification operation.mutation.mutationId verification =
      (.ok (), record.place front
        { operation with
          verification := some verification
          state := if verification.matched then .verified else .failed } back) := by
  cases matched : verification.matched <;>
    simp [SessionRecord.recordVerification, finds.onOperation, own, OperationRecord.transition,
      applied, matched, OperationState.canTransition]

theorem Finds.beginRestoreOperation (finds : Finds record front operation back)
    (legal : operation.state.canTransition .restoring = true) :
    record.beginRestoreOperation operation.mutation.mutationId =
      (.ok (), record.place front { operation with state := .restoring } back) := by
  have unrestored : operation.state ≠ .restored := by
    rintro restored
    simp [restored, OperationState.canTransition] at legal
  simp [SessionRecord.beginRestoreOperation, finds.onOperation, unrestored,
    OperationRecord.transition, legal]

theorem Finds.beginRestoreOperation_illegal (finds : Finds record front operation back)
    (unrestored : operation.state ≠ .restored)
    (illegal : operation.state.canTransition .restoring = false) :
    record.beginRestoreOperation operation.mutation.mutationId =
      (.error (invariantError "illegal operation state transition"
        operation.mutation.mutationId), record) := by
  simp [SessionRecord.beginRestoreOperation, finds.onOperation, unrestored,
    OperationRecord.transition, illegal, SessionRecord.place, ← finds.split]

theorem Finds.recordRestore (finds : Finds record front operation back)
    {receipt : RestoreReceipt} (own : receipt.mutationId = operation.mutation.mutationId)
    (verified : receipt.verified = true) (restoring : operation.state = .restoring) :
    record.recordRestore operation.mutation.mutationId receipt = (.ok (), record.place front
      { operation with restoreReceipt := some receipt, state := .restored } back) := by
  simp [SessionRecord.recordRestore, finds.onOperation, own, verified,
    OperationRecord.transition, restoring, OperationState.canTransition]

theorem Finds.failTo (finds : Finds record front operation back) {next : OperationState}
    (legal : operation.state.canTransition next = true) (other : operation.state ≠ next) :
    SessionRecord.failTo next record operation.mutation.mutationId error =
      (.ok (), (record.place front { operation with
        failure := some (.fromError error), state := next } back).recordFailure error) := by
  simp [SessionRecord.failTo, finds.onOperation, other, OperationRecord.transition, legal]

theorem Finds.failTo_again (finds : Finds record front operation back)
    {next : OperationState} (already : operation.state = next) :
    SessionRecord.failTo next record operation.mutation.mutationId error =
      (.ok (), (record.place front
        { operation with failure := some (.fromError error) } back).recordFailure error) := by
  simp [SessionRecord.failTo, finds.onOperation, already]

end Found

/-- Every operation with a receipt is proven restored and no operation is left
in the crash-ambiguous `applying` state. -/
def restorationProven (record : SessionRecord) : Bool :=
  record.operations.all fun operation =>
    !operation.needsRestore && operation.state != .applying && operation.state != .restoreFailed

end SessionRecord

end Sysboost.Core
