import Sysboost.Platform.Prepared

/-!
# What can happen to a durable record

`OperationStep` and `Edit` list every change the engine makes to a record of a
prepared session, each with what the log says at that moment.  `Possible log
record` closes the prepared records under these edits and under the growth of
the log.  Every invariant of durable records is an induction over `Possible`.
-/

namespace Sysboost.Platform

open Sysboost.Core Interaction ByteCodec

/-! ## What the log says -/

/-- The entry is a call of `backend.apply` for this mutation of the session. -/
def Entry.IsApply (entry : Entry) (sessionId : SessionId) (mutation : PlannedMutation)
    (snapshot : Snapshot) : Prop :=
  ∃ engine answer changed, entry = .port engine ⟨.apply sessionId mutation snapshot, answer, changed⟩

/-- What an apply entry is about. -/
def Entry.applied : Entry → Option (SessionId × PlannedMutation × Snapshot)
  | .port _ ⟨.apply sessionId mutation snapshot, _, _⟩ => some (sessionId, mutation, snapshot)
  | _ => none

theorem Entry.isApply_iff {entry : Entry} {sessionId : SessionId} {mutation : PlannedMutation}
    {snapshot : Snapshot} :
    entry.IsApply sessionId mutation snapshot ↔
      entry.applied = some (sessionId, mutation, snapshot) := by
  constructor
  · rintro ⟨engine, answer, changed, rfl⟩
    rfl
  · intro same
    rcases entry with ⟨engine, call, answer, changed⟩ | _ | _
    · cases call <;> cases same
      exact ⟨engine, answer, changed, rfl⟩
    · cases same
    · cases same

instance (entry : Entry) (sessionId : SessionId) (mutation : PlannedMutation)
    (snapshot : Snapshot) : Decidable (entry.IsApply sessionId mutation snapshot) :=
  decidable_of_iff _ Entry.isApply_iff.symm

/-- A failure of known retryability that left the target unchanged. -/
def Entry.ReportedFailure : Entry → Prop
  | .port _ ⟨.apply _ _ _, .error error, changed⟩ => error.retryability ≠ .unknown ∧ changed = false
  | _ => False

/-- A readback or a verified restore receipt equal to the captured original. -/
def Entry.Proves (sessionId : SessionId) (mutation : PlannedMutation) (snapshot : Snapshot) :
    Entry → Prop
  | .port _ ⟨.verify session _ read _ _, .ok observed, _⟩ =>
      session = sessionId ∧ read = mutation ∧ observed = snapshot.originalFingerprint
  | .port _ ⟨.restore session restored _ _, .ok receipt, _⟩ =>
      session = sessionId ∧ restored = mutation ∧ receipt.mutationId = mutation.mutationId ∧
        receipt.verified = true ∧ receipt.restoredFingerprint = snapshot.originalFingerprint
  | _ => False

/-- No apply of this mutation of the session has been called. -/
def Unapplied (log : List Entry) (sessionId : SessionId) (mutation : PlannedMutation) : Prop :=
  ∀ entry ∈ log, ∀ snapshot, ¬ entry.IsApply sessionId mutation snapshot

/-- The backend answered an apply of this mutation with this receipt. -/
def Received (log : List Entry) (sessionId : SessionId) (mutation : PlannedMutation)
    (receipt : ApplyReceipt) : Prop :=
  ∃ engine snapshot changed,
    .port engine ⟨.apply sessionId mutation snapshot, .ok receipt, changed⟩ ∈ log

/-- The store or the backend answered with an error of this message. -/
def Entry.Says (message : String) : Entry → Prop
  | .port _ ⟨.replace _, .error error, _⟩ => error.message = message
  | .port _ ⟨.apply _ _ _, .error error, _⟩ => error.message = message
  | .port _ ⟨.verify _ _ _ _ _, .error error, _⟩ => error.message = message
  | .port _ ⟨.restore _ _ _ _, .error error, _⟩ => error.message = message
  | _ => False

/-- A text the journal accepts once it is cut to length. -/
def CleanText (text : String) : Prop :=
  text.isEmpty = false ∧ containsNul text = false

instance (text : String) : Decidable (CleanText text) :=
  inferInstanceAs (Decidable (_ ∧ _))

/-- The message of an error is a text of the engine, or was answered by a port. -/
def Reported (log : List Entry) (error : SysboostError) : Prop :=
  CleanText error.message ∨ ∃ entry ∈ log, entry.Says error.message

/-! ## Steps of one operation -/

/-- The changes of one operation of a session. -/
inductive OperationStep (log : List Entry) (sessionId : SessionId) :
    OperationRecord → OperationRecord → Prop
  | begin {operation : OperationRecord} (intended : operation.state = .intentRecorded) :
      OperationStep log sessionId operation { operation with state := .applying }
  | receive {operation : OperationRecord} {receipt : ApplyReceipt}
      (applying : operation.state = .applying)
      (own : receipt.mutationId = operation.mutation.mutationId)
      (received : Received log sessionId operation.mutation receipt) :
      OperationStep log sessionId operation
        { operation with applyReceipt := some receipt, state := .applied }
  | reject {operation : OperationRecord} {error : SysboostError}
      (applying : operation.state = .applying)
      (failed : ∀ entry ∈ log, ∀ snapshot,
        entry.IsApply sessionId operation.mutation snapshot → entry.ReportedFailure)
      (reported : Reported log error) :
      OperationStep log sessionId operation
        { operation with failure := some (.fromError error), state := .failed }
  | refuse {operation : OperationRecord} {error : SysboostError}
      (applied : operation.state = .applied) (reported : Reported log error) :
      OperationStep log sessionId operation
        { operation with failure := some (.fromError error), state := .failed }
  | verify {operation : OperationRecord} {receipt : ApplyReceipt}
      {verification : VerificationResult}
      (applied : operation.state = .applied) (has : operation.applyReceipt = some receipt)
      (own : verification.mutationId = operation.mutation.mutationId)
      (expected : verification.expected = receipt.ownershipFingerprint)
      (matched : verification.matched =
        decide (verification.observed = some verification.expected)) :
      OperationStep log sessionId operation
        { operation with
          verification := some verification
          state := if verification.matched then .verified else .failed }
  | annotate {operation : OperationRecord} {error : SysboostError}
      (failed : operation.state = .failed) (reported : Reported log error) :
      OperationStep log sessionId operation
        { operation with failure := some (.fromError error) }
  | beginRestore {operation : OperationRecord} (has : operation.applyReceipt.isSome)
      (legal : operation.state.canTransition .restoring = true) :
      OperationStep log sessionId operation { operation with state := .restoring }
  | prove {operation : OperationRecord} {receipt : RestoreReceipt} {snapshot : Snapshot}
      {entry : Entry} {older : List Entry}
      (restoring : operation.state = .restoring) (has : operation.snapshot = some snapshot)
      (own : receipt.mutationId = operation.mutation.mutationId)
      (verified : receipt.verified = true)
      (original : receipt.restoredFingerprint = snapshot.originalFingerprint)
      (latest : log = entry :: older)
      (proves : entry.Proves sessionId operation.mutation snapshot) :
      OperationStep log sessionId operation
        { operation with restoreReceipt := some receipt, state := .restored }
  | failRestore {operation : OperationRecord} {error : SysboostError}
      (restoring : operation.state = .restoring) (reported : Reported log error) :
      OperationStep log sessionId operation
        { operation with failure := some (.fromError error), state := .restoreFailed }

/-! ## Edits of a record -/

/-- A session whose operations may change. -/
def Busy (state : SessionState) : Prop :=
  state = .applying ∨ state = .restoring ∨ state = .rollingBack

/-- The changes of a record. -/
inductive Edit (log : List Entry) : SessionRecord → SessionRecord → Prop
  | operation {record : SessionRecord} {front back : List OperationRecord}
      {before after : OperationRecord} (busy : Busy record.session.state)
      (split : record.operations = front ++ before :: back)
      (step : OperationStep log record.sessionId before after) :
      Edit log record (record.place front after back)
  | failure {record : SessionRecord} {error : SysboostError} (reported : Reported log error) :
      Edit log record (record.recordFailure error)
  | move {record : SessionRecord} {next : SessionState} {at_ : Timestamp} {reason : String}
      (good : SessionRecord.GoodReason reason)
      (legal : record.session.state.canTransition next = true)
      (proven : next = .restored → record.restorationProven = true) :
      Edit log record (record.moved next at_ reason)

/-! ## Possible records -/

/-- A record that `prepare` has built for a requested plan. -/
def Prepared (log : List Entry) (record : SessionRecord) : Prop :=
  ∃ engine plan now, .requested engine (.prepare plan) ∈ log ∧
    PreparedFor plan now record.sessionId record

/-- An apply call finds its operation in state `applying`, for the first time. -/
def Admits (log : List Entry) (record : SessionRecord) (entry : Entry) : Prop :=
  ∀ mutation snapshot, entry.IsApply record.sessionId mutation snapshot →
    Unapplied log record.sessionId mutation ∧
      ∃ operation ∈ record.operations, operation.mutation = mutation ∧
        operation.snapshot = some snapshot ∧ operation.state = .applying

/-- The records a session can have after what the log says. -/
inductive Possible : List Entry → SessionRecord → Prop
  | prepared {log : List Entry} {record : SessionRecord} (prepared : Prepared log record)
      (unapplied : ∀ mutation, Unapplied log record.sessionId mutation) : Possible log record
  | edit {log : List Entry} {record after : SessionRecord} (possible : Possible log record)
      (edit : Edit log record after) : Possible log after
  | grow {log : List Entry} {record : SessionRecord} {entry : Entry}
      (possible : Possible log record) (admits : Admits log record entry) :
      Possible (entry :: log) record

theorem Possible.move {log : List Entry} {record : SessionRecord} {next : SessionState}
    (possible : Possible log record) (at_ : Timestamp) (reason : String)
    (good : SessionRecord.GoodReason reason)
    (legal : record.session.state.canTransition next = true)
    (proven : next = .restored → record.restorationProven = true) :
    Possible log (record.moved next at_ reason) :=
  possible.edit (.move good legal proven)

end Sysboost.Platform
