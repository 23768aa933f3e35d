import Sysboost.Platform.Ports

/-!
# The transaction engine

The engine prepares a plan, applies its operations in order, and restores them
in reverse.  Every function is translated statement by statement; a `return`
inside a loop ends the function and is modelled by a `Step.done`.
-/

namespace Sysboost.Platform

open Sysboost.Core Interaction

/-- Attach a stage, and a session and a mutation where they are known. -/
def contextual (error : SysboostError) (stage : Stage) (sessionId : Option SessionId)
    (mutationId : Option MutationId) : SysboostError :=
  let error := error.withStage stage
  let error := sessionId.elim error error.withSession
  mutationId.elim error error.withMutation

/-- `error.with_stage(stage).with_session(..).with_mutation(..)` of a new error. -/
def operationError (code : ErrorCode) (message : String) (stage : Stage)
    (sessionId : SessionId) (mutationId : MutationId) : SysboostError :=
  (((SysboostError.new code message).withStage stage).withSession sessionId).withMutation
    mutationId

/-! ## Small helpers -/

def now (stage : Stage) : Fallible Timestamp :=
  Fallible.mapErr (·.withStage stage) (Fallible.port (Prog.perform Call.now))

def persist (record : SessionRecord) (stage : Stage) : Fallible Unit :=
  Fallible.mapErr (contextual · stage (some record.sessionId) none)
    (Fallible.port (Prog.perform (Call.replace record)))

def loadActiveRecord (sessionId : SessionId) : Fallible SessionRecord :=
  Fallible.mapErr (contextual · .recovery (some sessionId) none)
    (Fallible.port (Prog.perform (Call.load sessionId)))

def requireActive (sessionId : SessionId) : Fallible Unit := do
  match ← ExceptT.lift (Prog.perform Call.active) with
  | some active =>
      if active = sessionId then pure ()
      else throw (((SysboostError.new .authorizationError
        "requested session is not owned by this coordinator").withStage .transport).withSession
        active)
  | none =>
      throw ((SysboostError.new .authorizationError
        "no mutating-session lease is held by this coordinator").withStage .transport)

def releaseIfRestored (sessionId : SessionId) : Engine Unit := do
  match ← Prog.perform Call.active with
  | some active => if active = sessionId then Prog.perform Call.release else pure ()
  | none => pure ()

/-- The snapshot belongs to the mutation it was taken for. -/
def validateSnapshot (mutation : PlannedMutation) (snapshot : Snapshot) :
    Except SysboostError Unit :=
  if snapshot.mutationId ≠ mutation.mutationId || snapshot.target ≠ mutation.target ||
      snapshot.equality ≠ mutation.equality then
    .error ((((SysboostError.new .snapshotError
      "backend snapshot does not satisfy the typed mutation contract").withStage
      .snapshot).withMutation mutation.mutationId).withTarget mutation.target)
  else .ok ()

/-- The error of a failed apply whose rollback failed as well. -/
def combineFailure (trigger rollback : SysboostError) (sessionId : SessionId) : SysboostError :=
  let code := match rollback.code with
    | .journalCorrupt => .journalCorrupt
    | .restoreConflict => .restoreConflict
    | _ => .restoreError
  let message := "transaction failed with " ++ trigger.code.display ++
    "; rollback also failed with " ++ rollback.code.display
  (((SysboostError.new code message).withStage .recovery).withSession sessionId).retryable
    .afterRecovery

/-! ## Restoring -/

/-- What the loop of `restore_record` carries along. -/
structure RestorePass where
  record : SessionRecord
  failures : List SysboostError
  uncertain : Bool

namespace RestorePass

/-- `failures.push(error)`. -/
def push (pass : RestorePass) (error : SysboostError) : RestorePass :=
  { pass with failures := pass.failures ++ [error] }

/-- `failures.push(error); uncertain = true`. -/
def pushUncertain (pass : RestorePass) (error : SysboostError) : RestorePass :=
  { pass with failures := pass.failures ++ [error], uncertain := true }

/-- `record.record_failure(&error); failures.push(error); uncertain = true`. -/
def recordUncertain (pass : RestorePass) (error : SysboostError) : RestorePass :=
  { pass with record := pass.record.recordFailure error }.pushUncertain error

end RestorePass

/-- `if let Err(error) = self.persist(record, Stage::Restore)` with its body. -/
def persistPass (pass : RestorePass) : Engine RestorePass := do
  match ← (persist pass.record .restore).run with
  | .ok () => return pass
  | .error error => return pass.recordUncertain error

/-- Record the proven original and persist it. -/
def settleOperation (pass : RestorePass) (mutationId : MutationId) (receipt : RestoreReceipt) :
    Engine RestorePass :=
  match pass.record.recordRestore mutationId receipt with
  | (.error error, record) => return { pass with record }.pushUncertain error
  | (.ok (), record) => persistPass { pass with record }

/-- Mark a failed restore, persist it whatever the result, and keep the error. -/
def failOperationRestore (pass : RestorePass) (mutationId : MutationId) (error : SysboostError) :
    Engine RestorePass := do
  let record := (pass.record.failRestore mutationId error).2
  let _ ← (persist record .restore).run
  return { pass with record }.push error

/-- The part of the loop body after `begin_restore_operation`: read the target
back and restore it only when it still has the session-owned value. -/
def compareAndRestore (sessionId : SessionId) (pass : RestorePass) (mutation : PlannedMutation)
    (snapshot : Snapshot) (ownership : StateFingerprint) : Engine RestorePass := do
  let mutationId := mutation.mutationId
  match ← Prog.perform (Call.verify sessionId .restore mutation snapshot.originalFingerprint
      snapshot.targetIdentity) with
  | .error error =>
      failOperationRestore pass mutationId
        (contextual error .restore (some sessionId) (some mutationId))
  | .ok observed =>
      if observed = snapshot.originalFingerprint then
        settleOperation pass mutationId ⟨mutationId, observed, true⟩
      else if observed ≠ ownership then
        failOperationRestore pass mutationId (operationError .restoreConflict
          "target changed outside the session; compare-and-restore refused to overwrite it"
          .restore sessionId mutationId)
      else
        match ← Prog.perform (Call.restore sessionId mutation snapshot ownership) with
        | .ok receipt =>
            if receipt.mutationId = mutationId ∧ receipt.verified = true ∧
                receipt.restoredFingerprint = snapshot.originalFingerprint then
              settleOperation pass mutationId receipt
            else
              failOperationRestore pass mutationId (operationError .restoreError
                "backend restore did not prove the original fingerprint"
                .restore sessionId mutationId)
        | .error error =>
            failOperationRestore pass mutationId
              (contextual error .restore (some sessionId) (some mutationId))

/-- The body of the loop of `restore_record`. -/
def restoreOperation (sessionId : SessionId) (pass : RestorePass) (index : Nat) :
    Engine RestorePass :=
  match pass.record.operations[index]? with
  -- The number of operations never changes, so every index is in range.
  | none => return pass
  | some operation =>
      let mutationId := operation.mutation.mutationId
      if operation.state = .restored then return pass
      else
        match operation.applyReceipt, operation.snapshot with
        | none, _ =>
            if operation.state = .applying then
              return pass.recordUncertain (operationError .journalCorrupt
                "operation may have applied before its receipt became durable"
                .recovery sessionId mutationId)
            else return pass
        | some _, none =>
            return pass.recordUncertain (operationError .invariantViolation
              "applied operation is missing its original snapshot"
              .restore sessionId mutationId)
        | some receipt, some snapshot =>
            match pass.record.beginRestoreOperation mutationId with
            | (.error error, record) => return { pass with record }.pushUncertain error
            | (.ok (), record) => do
                let pass ← persistPass { pass with record }
                compareAndRestore sessionId pass operation.mutation snapshot
                  receipt.ownershipFingerprint

/-- The loop of `restore_record`, in reverse plan order. -/
def restoreOperations (sessionId : SessionId) (pass : RestorePass) (indices : List Nat) :
    Engine RestorePass :=
  indices.foldlM (restoreOperation sessionId) pass

/-- The session transitions of a pass that could not prove every original. -/
def degrade (pass : RestorePass) (at_ : Timestamp) :
    Except SysboostError Unit × SessionRecord :=
  let record := pass.failures.foldl SessionRecord.recordFailure pass.record
  let degraded :=
    if record.session.state = .restoring ∨ record.session.state = .rollingBack then
      record.transition .degraded at_ "one or more originals remain unproven"
    else (.ok (), record)
  match degraded with
  | (.error error, left) => (.error error, left)
  | (.ok (), left) =>
      if pass.uncertain then
        left.transition .recoveryPending at_
          "crash or durability boundary left recovery uncertain"
      else (.ok (), left)

/-- The part of `restore_record` after its loop. -/
def finishRestore (sessionId : SessionId) (pass : RestorePass) (at_ : Timestamp) :
    Engine (Except SysboostError SessionState × SessionRecord) :=
  if pass.failures.isEmpty && pass.record.restorationProven && !pass.uncertain then
    let proven :=
      if pass.record.session.state ≠ .restored then
        pass.record.transition .restored at_ "all captured originals verified"
      else (.ok (), pass.record)
    match proven with
    | (.error error, record) => return (.error error, record)
    | (.ok (), record) => do
        match ← (persist record .restore).run with
        | .error error => return (.error error, record)
        | .ok () =>
            releaseIfRestored sessionId
            return (.ok .restored, record)
  else
    match degrade pass at_ with
    | (.error error, record) => return (.error error, record)
    | (.ok (), record) => do
        let persisted ← (persist record .recovery).run
        let failures := match persisted with
          | .ok () => pass.failures
          | .error error => pass.failures ++ [error]
        return (.error (failures.headD (((SysboostError.new .restoreError
          "original state could not be proven restored").withStage .restore).withSession
          sessionId)), record)

/-- Compare-and-restore every operation with an apply receipt. -/
def restoreRecord (record : SessionRecord) :
    Engine (Except SysboostError SessionState × SessionRecord) := do
  let sessionId := record.sessionId
  let at_ := (← (now .restore).run).toOption.getD (.fromUnixMillis 0)
  let pass ← restoreOperations sessionId ⟨record, [], false⟩
    (List.range record.operations.length).reverse
  finishRestore sessionId pass at_

/-- The session transitions of `prepare_restore_state`. -/
def enterRestore (record : SessionRecord) (now : Timestamp) :
    Except SysboostError Unit × SessionRecord :=
  match record.session.state with
  | .active => record.transition .restoring now "normal restore started"
  | .degraded =>
      match record.transition .recoveryPending now "retrying degraded restore" with
      | (.error error, left) => (.error error, left)
      | (.ok (), left) => left.transition .restoring now "recovery restore started"
  | .recoveryPending => record.transition .restoring now "recovery restore resumed"
  | .intentDurable | .applying => record.transition .rollingBack now "rollback/recovery started"
  | .rollingBack | .restoring | .restored => (.ok (), record)
  | state =>
      (.error (((SysboostError.new .invariantViolation
        ("restore is not legal from durable state " ++ state.debug)).withStage
        .restore).withSession record.sessionId), record)

/-- Bring a record into a state from which its operations may be restored. -/
def prepareRestoreState (record : SessionRecord) :
    Engine (Except SysboostError Unit × SessionRecord) := do
  match ← (now .restore).run with
  | .error error => return (.error error, record)
  | .ok now =>
      match enterRestore record now with
      | (.error error, left) => return (.error error, left)
      | (.ok (), left) =>
          if record.session.state = .restored then return (.ok (), left)
          else return (← (persist left .restore).run, left)

/-! ## Applying -/

/-- The session transition of `rollback_after_failure`; an illegal one is
recorded as a failure. -/
def enterRollback (record : SessionRecord) (now : Timestamp) : SessionRecord :=
  let next := match record.session.state with
    | .applying | .intentDurable =>
        some (SessionState.rollingBack, "apply failure triggered reverse rollback")
    | .active =>
        some (SessionState.restoring, "apply durability failure triggered normal restore")
    | _ => none
  match next with
  | none => record
  | some (next, reason) =>
      match record.transition next now reason with
      | (.error error, left) => left.recordFailure error
      | (.ok (), left) => left

/-- The part of `rollback_after_failure` guarded by `from_apply`. -/
def startRollback (record : SessionRecord) (fromApply : Bool) : Engine SessionRecord :=
  if fromApply then do
    let now := (← (now .recovery).run).toOption.getD (.fromUnixMillis 0)
    return enterRollback record now
  else return record

/-- `if let Err(error) = self.persist(&record, Stage::Recovery)` with its body. -/
def persistRollback (record : SessionRecord) : Engine SessionRecord := do
  match ← (persist record .recovery).run with
  | .ok () => return record
  | .error error => return record.recordFailure error

/-- What a rollback returns for the result of its restore. -/
def rollbackResult (trigger : SysboostError) (sessionId : SessionId) :
    Except SysboostError SessionState → Except SysboostError SessionState
  | .ok .restored => .error trigger
  | .ok state =>
      .error (((SysboostError.new .restoreError
        ("transaction failed and ended in " ++ state.debug)).withStage .recovery).withSession
        sessionId)
  | .error rollbackError => .error (combineFailure trigger rollbackError sessionId)

def rollbackAfterFailure (record : SessionRecord) (trigger : SysboostError)
    (fromApply : Bool) : Engine (Except SysboostError SessionState) := do
  let entered ← startRollback record fromApply
  let left ← persistRollback entered
  let (result, _) ← restoreRecord left
  return rollbackResult trigger record.sessionId result

/-- How one iteration of the apply loop ends: with the record for the next
iteration, or with the result the whole function returns. -/
inductive Step where
  | next (record : SessionRecord)
  | done (result : Except SysboostError SessionState)

/-- Leave the loop through `return self.rollback_after_failure(record, error, true)`. -/
def Step.rollback (record : SessionRecord) (error : SysboostError) : Engine Step :=
  return .done (← rollbackAfterFailure record error true)

/-- `record.record_failure(&error)` and roll back. -/
def Step.fail (record : SessionRecord) (error : SysboostError) : Engine Step :=
  Step.rollback (record.recordFailure error) error

/-- `if let Err(error) = self.persist(..)` with its body, else go on. -/
def persistOrRollback (record : SessionRecord) (stage : Stage) (next : Engine Step) :
    Engine Step := do
  match ← (persist record stage).run with
  | .error error => Step.fail record error
  | .ok () => next

/-- `let _ = self.persist(&record, stage)` and roll back. -/
def persistAndRollback (record : SessionRecord) (stage : Stage) (error : SysboostError) :
    Engine Step := do
  let _ ← (persist record stage).run
  Step.rollback record error

/-- `record.record_verification(..)?` of a readback that does not match; the
operation fails and everything is rolled back. -/
def refuseVerification (record : SessionRecord) (mutationId : MutationId)
    (verification : VerificationResult) (error : SysboostError) : Engine Step :=
  match record.recordVerification mutationId verification with
  | (.error early, _) => return .done (.error early)
  | (.ok (), record) => persistAndRollback (record.failOperation mutationId error).2 .verify error

/-- Verify the postcondition of an operation with a durable receipt. -/
def verifyApplied (sessionId : SessionId) (record : SessionRecord) (mutation : PlannedMutation)
    (snapshot : Snapshot) (receipt : ApplyReceipt) : Engine Step := do
  let mutationId := mutation.mutationId
  match ← Prog.perform (Call.verify sessionId .verify mutation receipt.ownershipFingerprint
      snapshot.targetIdentity) with
  | .error error =>
      refuseVerification record mutationId ⟨mutationId, receipt.ownershipFingerprint, none, false⟩
        (contextual error .verify (some sessionId) (some mutationId))
  | .ok observed =>
      let matched := decide (observed = receipt.ownershipFingerprint)
      let verification : VerificationResult :=
        ⟨mutationId, receipt.ownershipFingerprint, some observed, matched⟩
      if !matched then
        refuseVerification record mutationId verification (operationError .verificationError
          "apply readback did not match the session-owned value" .verify sessionId mutationId)
      else
        match record.recordVerification mutationId verification with
        | (.error early, _) => return .done (.error early)
        | (.ok (), record) => persistOrRollback record .verify (return .next record)

/-- Call `backend.apply` for an operation that is durably `applying`. -/
def applyIntended (sessionId : SessionId) (record : SessionRecord) (mutation : PlannedMutation)
    (snapshot : Snapshot) : Engine Step := do
  let mutationId := mutation.mutationId
  match ← Prog.perform (Call.apply sessionId mutation snapshot) with
  | .error error =>
      let error := contextual error .apply (some sessionId) (some mutationId)
      if error.retryability ≠ .unknown then
        persistAndRollback (record.failOperation mutationId error).2 .apply error
      else
        -- An unknown result stays `applying`: recovery must not guess.
        persistAndRollback (record.recordFailure error) .apply error
  | .ok receipt =>
      if receipt.mutationId ≠ mutationId ∨
          receipt.observedPrecondition ≠ mutation.precondition ∨
          receipt.observedPostcondition ≠ receipt.ownershipFingerprint then
        let error := operationError .applyError
          "backend apply receipt failed its typed identity or precondition checks"
          .apply sessionId mutationId
        match record.recordApply mutationId receipt with
        | (.error early, _) => return .done (.error early)
        | (.ok (), record) =>
            persistAndRollback (record.failOperation mutationId error).2 .apply error
      else
        match record.recordApply mutationId receipt with
        | (.error early, _) => return .done (.error early)
        | (.ok (), record) =>
            persistOrRollback record .apply
              (verifyApplied sessionId record mutation snapshot receipt)

/-- The body of the loop of `apply`. -/
def applyOperation (sessionId : SessionId) (record : SessionRecord) (index : Nat) :
    Engine Step :=
  match record.operations[index]? with
  -- The number of operations never changes, so every index is in range.
  | none => return .next record
  | some operation =>
      let mutationId := operation.mutation.mutationId
      if operation.state = .verified ∨ operation.state = .restored then return .next record
      else if operation.state = .applying then
        Step.fail record (operationError .journalCorrupt
          "crash-state shows an apply with no durable completion" .recovery sessionId mutationId)
      else if operation.state ≠ .intentRecorded then
        Step.fail record (operationError .invariantViolation
          "operation is not at durable intent before apply" .apply sessionId mutationId)
      else
        match operation.transition .applying with
        | (.error early, _) => return .done (.error early)
        | (.ok (), applying) =>
            let record := { record with operations := record.operations.set index applying }
            persistOrRollback record .apply
              (match operation.snapshot with
                | none =>
                    return .done (.error (operationError .invariantViolation
                      "durable intent operation is missing its snapshot" .apply sessionId
                      mutationId))
                | some snapshot => applyIntended sessionId record operation.mutation snapshot)

/-- The loop of `apply` over the remaining indices and the code after it. -/
def applyOperations (sessionId : SessionId) (record : SessionRecord) :
    List Nat → Engine (Except SysboostError SessionState)
  | [] => do
      match ← (now .verify).run with
      | .error error => return .error error
      | .ok now =>
          match record.transition .active now "all ordered applies and readbacks verified" with
          | (.error error, _) => return .error error
          | (.ok (), record) =>
              match ← (persist record .verify).run with
              | .error error => rollbackAfterFailure (record.recordFailure error) error true
              | .ok () => return .ok .active
  | index :: rest => do
      match ← applyOperation sessionId record index with
      | .done result => return result
      | .next record => applyOperations sessionId record rest

/-- Apply the prepared operations in their plan/dependency order. -/
def apply (sessionId : SessionId) : Fallible SessionState := do
  requireActive sessionId
  let record ← loadActiveRecord sessionId
  match record.session.state with
  | .intentDurable =>
      let now ← now .apply
      match record.transition .applying now "ordered mutation application started" with
      | (.error error, _) => throw error
      | (.ok (), record) =>
          match ← Fallible.attempt (persist record .apply) with
          | .error error =>
              Fallible.port (rollbackAfterFailure (record.recordFailure error) error true)
          | .ok () =>
              Fallible.port (applyOperations sessionId record
                (List.range record.operations.length))
  | .active => return .active
  | .restored =>
      ExceptT.lift (releaseIfRestored sessionId)
      return .restored
  | state =>
      throw (((SysboostError.new .invariantViolation
        ("apply is not legal from durable state " ++ state.debug)).withStage .apply).withSession
        sessionId)

/-! ## Preparing -/

/-- Capture and check one preimage. -/
def captureOne (now : Timestamp) (mutation : PlannedMutation) : Fallible Snapshot := do
  let snapshot ← Fallible.mapErr (contextual · .snapshot none (some mutation.mutationId))
    (Fallible.port (Prog.perform (Call.snapshot mutation now)))
  Fallible.check (validateSnapshot mutation snapshot)
  Fallible.refuseIf (snapshot.originalFingerprint ≠ mutation.precondition)
    ((((SysboostError.new .targetError "target changed between planning and snapshot").withStage
      .snapshot).withMutation mutation.mutationId).withTarget mutation.target)
  return snapshot

/-- Go on with a changed record, or stop with the error of the change. -/
def advance (outcome : Except SysboostError Unit × SessionRecord) :
    Except SysboostError SessionRecord :=
  outcome.1.map fun _ => outcome.2

/-- The record `prepare` builds for one candidate session ID. -/
def preparedRecord (plan : Plan) (now : Timestamp) (snapshots : List Snapshot)
    (sessionId : SessionId) : Except SysboostError SessionRecord := do
  let record ← SessionRecord.new (.new sessionId plan now) plan.mutations
  let record ← advance (record.transition .detected now "capability evidence accepted")
  let record ← advance (record.transition .planned now "complete typed plan accepted")
  let record ← snapshots.foldlM (fun record snapshot => advance (record.captureSnapshot snapshot))
    record
  let record ← advance (record.transition .snapshotted now "all original states captured")
  let record ← advance record.recordIntent
  advance (record.transition .intentDurable now "snapshots and mutation intent are durable")

/-- The loop over candidate IDs; `attempts` iterations remain. -/
def createSession (plan : Plan) (now : Timestamp) (snapshots : List Snapshot) :
    Nat → Fallible SessionId
  | 0 =>
      throw ((SysboostError.new .invariantViolation
        "unable to allocate a unique boost session ID").withStage .durableIntent)
  | attempts + 1 => do
      let sessionId ← Fallible.mapErr (·.withStage .durableIntent)
        (Fallible.port (Prog.perform Call.nextId))
      let record ← Fallible.check (preparedRecord plan now snapshots sessionId)
      match ← Fallible.attempt (Fallible.port (Prog.perform (Call.create record))) with
      | .ok () =>
          ExceptT.lift (Prog.perform (Call.hold sessionId))
          return sessionId
      | .error error =>
          if error.code = .invariantViolation then createSession plan now snapshots attempts
          else throw (contextual error .durableIntent (some sessionId) none)

/-- The part of `prepare` that runs under the lock guard. -/
def prepareLocked (plan : Plan) : Fallible SessionId := do
  let unfinished ← Fallible.mapErr (·.withStage .recovery)
    (Fallible.port (Prog.perform Call.loadUnfinished))
  Fallible.refuseIf (!unfinished.isEmpty) (((SysboostError.new .authorizationError
    "an unfinished session requires recovery before a new mutation").withStage
    .recovery).retryable .afterRecovery)
  let now ← now .detect
  let snapshots ← plan.mutations.mapM (captureOne now)
  createSession plan now snapshots 32

/-- Capture every preimage and persist the intent before returning a session
ID.  No backend apply is possible here. -/
def prepare (plan : Plan) : Fallible SessionId := do
  let active ← ExceptT.lift (Prog.perform Call.active)
  Fallible.refuseIf active.isSome ((SysboostError.new .authorizationError
    "this coordinator already owns a mutating session").retryable .retry)
  Fallible.check plan.validateComplete
  Fallible.refuseIf plan.mutations.isEmpty ((SysboostError.new .authorizationError
    "a report-only or no-op plan cannot enter the mutation engine").withStage .plan)
  Fallible.mapErr (fun error => (error.withStage .durableIntent).retryable .retry)
    (Fallible.port (Prog.perform Call.acquire))
  match ← Fallible.attempt (prepareLocked plan) with
  | .ok sessionId => return sessionId
  | .error error =>
      -- The guard goes out of scope unless it was moved into `self.active`.
      ExceptT.lift (Prog.perform Call.dropGuard)
      throw error

/-- Abort a prepared session before any backend apply has been attempted. -/
def abortPrepared (sessionId : SessionId) : Fallible Unit := do
  requireActive sessionId
  let record ← loadActiveRecord sessionId
  Fallible.refuseIf
    (record.session.state ≠ .intentDurable ||
      record.operations.any fun operation => operation.state != .intentRecorded)
    (((SysboostError.new .invariantViolation
      "only an unapplied durable intent can be aborted").withStage .durableIntent).withSession
      sessionId)
  Fallible.mapErr (contextual · .durableIntent (some sessionId) none)
    (Fallible.port (Prog.perform (Call.remove sessionId)))
  ExceptT.lift (Prog.perform Call.release)

/-! ## Restoring on request and after a restart -/

/-- The first check of `restore`: without a lease, is the session restored? -/
def restoredBefore (sessionId : SessionId) : Fallible Bool := do
  match ← ExceptT.lift (Prog.perform Call.active) with
  | none =>
      let record ← loadActiveRecord sessionId
      return decide (record.session.state = .restored)
  | some _ => return false

/-- The last step of `restore`. -/
def releaseAfter (sessionId : SessionId) (state : SessionState) : Engine Unit :=
  if state = .restored then releaseIfRestored sessionId else return ()

/-- The part of `restore` that needs the lease. -/
def restoreActive (sessionId : SessionId) : Fallible SessionState := do
  requireActive sessionId
  let record ← loadActiveRecord sessionId
  if record.session.state = .restored then do
    ExceptT.lift (releaseIfRestored sessionId)
    return .restored
  else do
    let (prepared, record) ← ExceptT.lift (prepareRestoreState record)
    Fallible.check prepared
    let (result, _) ← ExceptT.lift (restoreRecord record)
    let state ← Fallible.check result
    ExceptT.lift (releaseAfter sessionId state)
    return state

/-- Restore a prepared session. -/
def restore (sessionId : SessionId) : Fallible SessionState := do
  match ← restoredBefore sessionId with
  | true => return .restored
  | false => restoreActive sessionId

/-- Status returned by recovery. -/
structure TransactionStatus where
  sessionId : SessionId
  state : SessionState
deriving DecidableEq

/-- What the loop of `recover_unfinished` carries along. -/
structure Recovery where
  statuses : List TransactionStatus
  firstError : Option SysboostError

/-- The body of the loop of `recover_unfinished`. -/
def recoverOne (recovery : Recovery) (record : SessionRecord) : Engine Recovery := do
  let sessionId := record.sessionId
  let (prepared, record) ← prepareRestoreState record
  match prepared with
  | .error error =>
      return ⟨recovery.statuses ++ [⟨sessionId, record.session.state⟩],
        recovery.firstError.or (some error)⟩
  | .ok () =>
      let (result, record) ← restoreRecord record
      match result with
      | .ok state => return { recovery with statuses := recovery.statuses ++ [⟨sessionId, state⟩] }
      | .error error =>
          return ⟨recovery.statuses ++ [⟨sessionId, record.session.state⟩],
            recovery.firstError.or (some error)⟩

/-- `sort_by_key` on session IDs, a stable sort. -/
def sortRecords (records : List SessionRecord) : List SessionRecord :=
  records.insertionSort fun first second => first.sessionId.le second.sessionId = true

/-- The part of `recover_unfinished` after its loop; the guard is dropped, or
kept with the first unresolved session. -/
def finishRecovery (recovery : Recovery) (fallback : SessionId) :
    Fallible (List TransactionStatus) :=
  if (recovery.statuses.all fun status => status.state == .restored) &&
      recovery.firstError.isNone then do
    ExceptT.lift (Prog.perform Call.dropGuard)
    return recovery.statuses
  else do
    let sessionId :=
      ((recovery.statuses.find? fun status => status.state != .restored).map
        TransactionStatus.sessionId).getD fallback
    ExceptT.lift (Prog.perform (Call.hold sessionId))
    throw (recovery.firstError.getD (((SysboostError.new .restoreError
      "one or more unfinished sessions remain unresolved").withStage .recovery).withSession
      sessionId))

/-- The part of `recover_unfinished` that runs under the lock guard. -/
def recoverLocked : Fallible (List TransactionStatus) := do
  match ← Fallible.attempt (Fallible.port (Prog.perform Call.loadUnfinished)) with
  | .error error =>
      ExceptT.lift (Prog.perform Call.dropGuard)
      throw error
  | .ok records =>
      match sortRecords records with
      | [] =>
          ExceptT.lift (Prog.perform Call.dropGuard)
          return []
      | first :: rest =>
          let recovery ← ExceptT.lift ((first :: rest).foldlM recoverOne ⟨[], none⟩)
          -- `statuses[0]` belongs to the first record.
          finishRecovery recovery first.sessionId

/-- Replay all unfinished durable state after a process restart. -/
def recoverUnfinished : Fallible (List TransactionStatus) := do
  let active ← ExceptT.lift (Prog.perform Call.active)
  Fallible.refuseIf active.isSome (SysboostError.new .authorizationError
    "cannot recover while this coordinator owns an active session")
  Fallible.mapErr (fun error => (error.withStage .recovery).retryable .retry)
    (Fallible.port (Prog.perform Call.acquire))
  recoverLocked

end Sysboost.Platform
