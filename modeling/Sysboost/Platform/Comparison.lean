import Sysboost.Interaction.Turns
import Sysboost.Platform.Engine

/-!
# A restore follows its comparison

An engine asks a backend to restore a target only when the exchange just before it
was a readback of this target, with the value that the session owns and not the
original.
-/

namespace Sysboost.Platform

open Sysboost.Core Interaction

/-- A restore may be called just after the readback that calls for it. -/
def Compared (last : Option (Exchange Answer)) : Call → Prop
  | .restore sessionId mutation snapshot ownership =>
      last = some ⟨.verify sessionId .restore mutation snapshot.originalFingerprint
        snapshot.targetIdentity, .ok ownership⟩ ∧ ownership ≠ snapshot.originalFingerprint
  | _ => True

/-- Every restore of the program follows its comparison. -/
abbrev Careful {α : Type} (program : Engine α) : Prop :=
  Turns Compared program

/-- A port whose error is replaced. -/
theorem Careful.mapErr {α : Type} {program : Engine (Except SysboostError α)}
    {change : SysboostError → SysboostError} (careful : Careful program) :
    Careful (Fallible.mapErr change (Fallible.port program)).run :=
  careful.seq fun _ => .ret _

theorem Careful.refuseIf {α : Type} {condition : Bool} {error : SysboostError}
    {next : Unit → Fallible α} (later : Careful (next ()).run) :
    Careful (Fallible.refuseIf condition error >>= next).run := by
  cases condition with
  | false => exact later
  | true => exact .ret _

/-! ## Helpers of the engine -/

theorem now_careful (stage : Stage) : Careful (now stage).run :=
  Careful.mapErr (.perform fun _ => trivial)

theorem persist_careful (record : SessionRecord) (stage : Stage) :
    Careful (persist record stage).run :=
  Careful.mapErr (.perform fun _ => trivial)

theorem loadActiveRecord_careful (sessionId : SessionId) :
    Careful (loadActiveRecord sessionId).run :=
  Careful.mapErr (.perform fun _ => trivial)

theorem requireActive_careful (sessionId : SessionId) :
    Careful (requireActive sessionId).run := by
  apply Turns.lift_seq (.perform fun _ => trivial)
  intro active
  cases active with
  | none => exact .ret _
  | some active =>
      dsimp only
      split
      · exact .ret _
      · exact .ret _

theorem releaseIfRestored_careful (sessionId : SessionId) :
    Careful (releaseIfRestored sessionId) := by
  apply Turns.seq (.perform fun _ => trivial)
  intro active
  cases active with
  | none => exact .ret _
  | some active =>
      dsimp only
      split
      · exact .perform fun _ => trivial
      · exact .ret _

/-- The part that `apply`, `restore` and `abort_prepared` share. -/
theorem active_careful {α : Type} {sessionId : SessionId} {next : SessionRecord → Fallible α}
    (later : ∀ record, Careful (next record).run) :
    Careful (do
      requireActive sessionId
      let record ← loadActiveRecord sessionId
      next record : Fallible α).run := by
  apply Turns.run_seq (requireActive_careful sessionId)
  exact fun _ => Turns.run_seq (loadActiveRecord_careful sessionId) later

/-! ## Restoring -/

section Restoring

variable {sessionId : SessionId} {pass : RestorePass}

theorem persistPass_careful (pass : RestorePass) : Careful (persistPass pass) := by
  apply Turns.seq (persist_careful pass.record .restore)
  intro result
  cases result with
  | error error => exact .ret _
  | ok done => exact .ret _

theorem settleOperation_careful (mutationId : MutationId) (receipt : RestoreReceipt) :
    Careful (settleOperation pass mutationId receipt) := by
  unfold settleOperation
  split
  · exact .ret _
  · exact persistPass_careful _

theorem failOperationRestore_careful (mutationId : MutationId) (error : SysboostError) :
    Careful (failOperationRestore pass mutationId error) :=
  Turns.seq (persist_careful _ .restore) fun _ => .ret _

/-- The one restore of the engine, after the readback that calls for it. -/
theorem compareAndRestore_careful (mutation : PlannedMutation) (snapshot : Snapshot)
    (ownership : StateFingerprint) :
    Careful (compareAndRestore sessionId pass mutation snapshot ownership) := by
  intro last
  constructor
  · trivial
  intro answer
  cases answer with
  | error error => exact failOperationRestore_careful _ _ _
  | ok observed =>
      change InTurn Compared (if _ then _ else _ : Engine RestorePass) _
      split
      · exact settleOperation_careful _ _ _
      split
      · exact failOperationRestore_careful _ _ _
      next changed owned =>
        have same : observed = ownership := not_not.mp owned
        subst same
        constructor
        · exact ⟨rfl, changed⟩
        intro answer
        cases answer with
        | error error => exact failOperationRestore_careful _ _ _
        | ok receipt =>
            change InTurn Compared (if _ then _ else _ : Engine RestorePass) _
            split
            · exact settleOperation_careful _ _ _
            · exact failOperationRestore_careful _ _ _

theorem restoreOperation_careful (index : Nat) :
    Careful (restoreOperation sessionId pass index) := by
  unfold restoreOperation
  split
  · exact .ret _
  dsimp only
  split
  · exact .ret _
  split
  · split
    · exact .ret _
    · exact .ret _
  · exact .ret _
  · split
    · exact .ret _
    · apply Turns.seq (persistPass_careful _)
      exact fun _ => compareAndRestore_careful _ _ _

theorem finishRestore_careful (at_ : Timestamp) :
    Careful (finishRestore sessionId pass at_) := by
  unfold finishRestore
  split
  · dsimp only
    split
    · exact .ret _
    · apply Turns.seq (persist_careful _ .restore)
      intro result
      cases result with
      | error error => exact .ret _
      | ok done => exact Turns.seq (releaseIfRestored_careful sessionId) fun _ => .ret _
  · split
    · exact .ret _
    · exact Turns.seq (persist_careful _ .recovery) fun _ => .ret _

theorem restoreRecord_careful (record : SessionRecord) : Careful (restoreRecord record) := by
  apply Turns.seq (now_careful .restore)
  intro _
  apply Turns.seq (.foldlM (fun _ index _ => restoreOperation_careful index) _)
  exact fun _ => finishRestore_careful _

theorem prepareRestoreState_careful (record : SessionRecord) :
    Careful (prepareRestoreState record) := by
  apply Turns.seq (now_careful .restore)
  intro result
  cases result with
  | error error => exact .ret _
  | ok now =>
      dsimp only
      split
      · exact .ret _
      split
      · exact .ret _
      · exact Turns.seq (persist_careful _ .restore) fun _ => .ret _

end Restoring

/-! ## Applying -/

theorem rollbackAfterFailure_careful (record : SessionRecord) (trigger : SysboostError) :
    Careful (rollbackAfterFailure record trigger true) := by
  have started : Careful (startRollback record true) :=
    Turns.seq (now_careful .recovery) fun _ => .ret _
  have persisted (left : SessionRecord) : Careful (persistRollback left) := by
    apply Turns.seq (persist_careful left .recovery)
    intro result
    cases result with
    | error error => exact .ret _
    | ok done => exact .ret _
  apply started.seq
  intro entered
  apply (persisted entered).seq
  exact fun left => (restoreRecord_careful left).seq fun _ => .ret _

theorem rollback_careful (record : SessionRecord) (error : SysboostError) :
    Careful (Step.rollback record error) :=
  (rollbackAfterFailure_careful record error).seq fun _ => .ret _

theorem persistOrRollback_careful (record : SessionRecord) (stage : Stage) {next : Engine Step}
    (goesOn : Careful next) : Careful (persistOrRollback record stage next) := by
  apply Turns.seq (persist_careful record stage)
  intro result
  cases result with
  | error error => exact rollback_careful _ error
  | ok done => exact goesOn

theorem persistAndRollback_careful (record : SessionRecord) (stage : Stage)
    (error : SysboostError) : Careful (persistAndRollback record stage error) :=
  Turns.seq (persist_careful record stage) fun _ => rollback_careful record error

theorem refuseVerification_careful (record : SessionRecord) (mutationId : MutationId)
    (verification : VerificationResult) (error : SysboostError) :
    Careful (refuseVerification record mutationId verification error) := by
  unfold refuseVerification
  split
  · exact .ret _
  · exact persistAndRollback_careful _ _ _

theorem verifyApplied_careful (sessionId : SessionId) (record : SessionRecord)
    (mutation : PlannedMutation) (snapshot : Snapshot) (receipt : ApplyReceipt) :
    Careful (verifyApplied sessionId record mutation snapshot receipt) := by
  apply Turns.seq (.perform fun _ => trivial)
  intro answer
  cases answer with
  | error error => exact refuseVerification_careful _ _ _ _
  | ok observed =>
      dsimp only
      split
      · exact refuseVerification_careful _ _ _ _
      split
      · exact .ret _
      · exact persistOrRollback_careful _ _ (.ret _)

theorem applyIntended_careful (sessionId : SessionId) (record : SessionRecord)
    (mutation : PlannedMutation) (snapshot : Snapshot) :
    Careful (applyIntended sessionId record mutation snapshot) := by
  apply Turns.seq (.perform fun _ => trivial)
  intro answer
  cases answer with
  | error error =>
      dsimp only
      split
      · exact persistAndRollback_careful _ _ _
      · exact persistAndRollback_careful _ _ _
  | ok receipt =>
      dsimp only
      split
      · split
        · exact .ret _
        · exact persistAndRollback_careful _ _ _
      · split
        · exact .ret _
        · exact persistOrRollback_careful _ _ (verifyApplied_careful _ _ _ _ _)

theorem applyOperation_careful (sessionId : SessionId) (record : SessionRecord) (index : Nat) :
    Careful (applyOperation sessionId record index) := by
  unfold applyOperation
  split
  · exact .ret _
  dsimp only
  split
  · exact .ret _
  split
  · exact rollback_careful _ _
  split
  · exact rollback_careful _ _
  split
  · exact .ret _
  · apply persistOrRollback_careful
    split
    · exact .ret _
    · exact applyIntended_careful _ _ _ _

theorem applyOperations_careful (sessionId : SessionId) (record : SessionRecord)
    (indices : List Nat) : Careful (applyOperations sessionId record indices) := by
  induction indices generalizing record with
  | nil =>
      apply Turns.seq (now_careful .verify)
      intro result
      cases result with
      | error error => exact .ret _
      | ok now =>
          dsimp only
          split
          · exact .ret _
          · apply Turns.seq (persist_careful _ .verify)
            intro result
            cases result with
            | error error => exact rollbackAfterFailure_careful _ _
            | ok done => exact .ret _
  | cons index rest ih =>
      apply Turns.seq (applyOperation_careful sessionId record index)
      intro step
      cases step with
      | next left => exact ih left
      | done result => exact .ret _

/-! ## The public operations -/

theorem apply_careful (sessionId : SessionId) : Careful (apply sessionId).run := by
  apply active_careful
  intro record
  split
  · apply Turns.run_seq (now_careful .apply)
    intro now
    split
    · exact .ret _
    · apply Turns.lift_seq (persist_careful _ .apply)
      intro result
      cases result with
      | error error => exact rollbackAfterFailure_careful _ _
      | ok done => exact applyOperations_careful _ _ _
  · exact .ret _
  · exact Turns.lift_seq (releaseIfRestored_careful sessionId) fun _ => .ret _
  · exact .ret _

theorem abortPrepared_careful (sessionId : SessionId) :
    Careful (abortPrepared sessionId).run := by
  apply active_careful
  intro record
  apply Careful.refuseIf
  apply Turns.run_seq (Careful.mapErr (.perform fun _ => trivial))
  exact fun _ => .call (fun _ => trivial) fun _ => .ret _

theorem releaseAfter_careful (sessionId : SessionId) (state : SessionState) :
    Careful (releaseAfter sessionId state) := by
  unfold releaseAfter
  split
  · exact releaseIfRestored_careful sessionId
  · exact .ret _

theorem restore_careful (sessionId : SessionId) : Careful (restore sessionId).run := by
  have before : Careful (restoredBefore sessionId).run := by
    apply Turns.lift_seq (.perform fun _ => trivial)
    intro active
    cases active with
    | none => exact Turns.run_seq (loadActiveRecord_careful sessionId) fun _ => .ret _
    | some active => exact .ret _
  apply Turns.run_seq before
  intro restored
  cases restored with
  | true => exact .ret _
  | false =>
      apply active_careful
      intro record
      split
      · exact Turns.lift_seq (releaseIfRestored_careful sessionId) fun _ => .ret _
      · apply Turns.lift_seq (prepareRestoreState_careful record)
        rintro ⟨prepared, left⟩
        cases prepared with
        | error error => exact .ret _
        | ok done =>
            apply Turns.lift_seq (restoreRecord_careful left)
            rintro ⟨result, _⟩
            cases result with
            | error error => exact .ret _
            | ok state =>
                exact Turns.lift_seq (releaseAfter_careful sessionId state) fun _ => .ret _

theorem recoverOne_careful (recovery : Recovery) (record : SessionRecord) :
    Careful (recoverOne recovery record) := by
  apply Turns.seq (prepareRestoreState_careful record)
  rintro ⟨prepared, left⟩
  cases prepared with
  | error error => exact .ret _
  | ok done =>
      apply Turns.seq (restoreRecord_careful left)
      rintro ⟨result, _⟩
      cases result with
      | error error => exact .ret _
      | ok state => exact .ret _

theorem finishRecovery_careful (recovery : Recovery) (fallback : SessionId) :
    Careful (finishRecovery recovery fallback).run := by
  unfold finishRecovery
  split
  · exact .call (fun _ => trivial) fun _ => .ret _
  · exact .call (fun _ => trivial) fun _ => .ret _

theorem recoverUnfinished_careful : Careful recoverUnfinished.run := by
  apply Turns.lift_seq (.perform fun _ => trivial)
  intro active
  apply Careful.refuseIf
  apply Turns.run_seq (Careful.mapErr (.perform fun _ => trivial))
  intro _
  apply Turns.lift_seq (.perform fun _ => trivial)
  intro answer
  cases answer with
  | error error => exact .call (fun _ => trivial) fun _ => .ret _
  | ok records =>
      dsimp only
      split
      · exact .call (fun _ => trivial) fun _ => .ret _
      · apply Turns.lift_seq (.foldlM (fun recovery record _ => recoverOne_careful _ _) _)
        exact fun recovery => finishRecovery_careful recovery _

end Sysboost.Platform
