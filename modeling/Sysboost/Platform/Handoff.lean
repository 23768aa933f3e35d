import Sysboost.Interaction.Contracts
import Sysboost.Platform.Prepared

/-!
# What an engine hands on

The methods of a record change neither its session nor the mutations of its
operations and the snapshots taken for them.  An engine that has loaded a record
therefore writes records of the same outline only, and applies and restores only
mutations of that outline, with their own snapshots.
-/

namespace Sysboost.Core

namespace OperationRecord

@[simp]
theorem transition_mutation (operation : OperationRecord) (next : OperationState) :
    (operation.transition next).2.mutation = operation.mutation := by
  unfold transition
  split
  · rfl
  · rfl

@[simp]
theorem transition_snapshot (operation : OperationRecord) (next : OperationState) :
    (operation.transition next).2.snapshot = operation.snapshot := by
  unfold transition
  split
  · rfl
  · rfl

end OperationRecord

/-- A session, and the mutations of its operations with their snapshots. -/
structure Outline where
  sessionId : SessionId
  operations : List (PlannedMutation × Option Snapshot)

/-- Every snapshot is right for its mutation. -/
def Outline.Sound (right : PlannedMutation → Snapshot → Prop) (outline : Outline) : Prop :=
  ∀ mutation snapshot, (mutation, some snapshot) ∈ outline.operations → right mutation snapshot

namespace SessionRecord

/-- The part of a record that no method changes once its snapshots are taken. -/
def outline (record : SessionRecord) : Outline where
  sessionId := record.sessionId
  operations := record.operations.map fun operation => (operation.mutation, operation.snapshot)

theorem mem_outline {record : SessionRecord} {operation : OperationRecord} {snapshot : Snapshot}
    (member : operation ∈ record.operations) (taken : operation.snapshot = some snapshot) :
    (operation.mutation, some snapshot) ∈ record.outline.operations := by
  rw [← taken]
  exact List.mem_map_of_mem (f := fun operation : OperationRecord =>
    (operation.mutation, operation.snapshot)) member

@[simp]
theorem transition_outline (record : SessionRecord) (next : SessionState) (at_ : Timestamp)
    (reason : String) : (record.transition next at_ reason).2.outline = record.outline := by
  have operations : (record.transition next at_ reason).2.operations = record.operations := by
    unfold transition
    split
    · rfl
    · split
      · rfl
      · rfl
  rw [outline, outline, operations, sessionId, transition_header]

theorem updateOperation_outline {mutationId : MutationId}
    {update : OperationRecord → Except SysboostError Unit × OperationRecord}
    (keeps : ∀ operation, (update operation).2.mutation = operation.mutation ∧
      (update operation).2.snapshot = operation.snapshot) (operations : List OperationRecord) :
    ((updateOperation mutationId update operations).2.map fun operation =>
        (operation.mutation, operation.snapshot)) =
      operations.map fun operation => (operation.mutation, operation.snapshot) := by
  induction operations with
  | nil => rfl
  | cons operation rest ih =>
      unfold updateOperation
      split
      · rw [List.map_cons, List.map_cons, (keeps operation).1, (keeps operation).2]
      · rw [List.map_cons, List.map_cons, ih]

/-- A method of one operation that keeps its mutation and its snapshot. -/
theorem onOperation_outline (record : SessionRecord) (mutationId : MutationId)
    {update : OperationRecord → Except SysboostError Unit × OperationRecord}
    (keeps : ∀ operation, (update operation).2.mutation = operation.mutation ∧
      (update operation).2.snapshot = operation.snapshot) :
    (record.onOperation mutationId update).2.outline = record.outline := by
  rw [outline, outline]
  congr 1
  exact updateOperation_outline keeps record.operations

/-- A check before a transition of a changed operation. -/
theorem keeps_of_guard {refused : Prop} [Decidable refused] {error : SysboostError}
    {operation changed : OperationRecord} {next : OperationState}
    (mutation : changed.mutation = operation.mutation)
    (snapshot : changed.snapshot = operation.snapshot) :
    (if refused then (.error error, operation) else changed.transition next).2.mutation =
        operation.mutation ∧
      (if refused then (.error error, operation) else changed.transition next).2.snapshot =
        operation.snapshot := by
  split
  · exact ⟨rfl, rfl⟩
  · simp [mutation, snapshot]

section Methods

variable (record : SessionRecord) (mutationId : MutationId)

@[simp]
theorem recordApply_outline (receipt : ApplyReceipt) :
    (record.recordApply mutationId receipt).2.outline = record.outline :=
  onOperation_outline record mutationId fun _ => keeps_of_guard rfl rfl

@[simp]
theorem recordVerification_outline (verification : VerificationResult) :
    (record.recordVerification mutationId verification).2.outline = record.outline :=
  onOperation_outline record mutationId fun _ => keeps_of_guard rfl rfl

@[simp]
theorem recordRestore_outline (receipt : RestoreReceipt) :
    (record.recordRestore mutationId receipt).2.outline = record.outline :=
  onOperation_outline record mutationId fun _ => keeps_of_guard rfl rfl

@[simp]
theorem beginRestoreOperation_outline :
    (record.beginRestoreOperation mutationId).2.outline = record.outline := by
  apply onOperation_outline record mutationId
  intro operation
  split
  · exact ⟨rfl, rfl⟩
  · simp

@[simp]
theorem failTo_outline (next : OperationState) (error : SysboostError) :
    (failTo next record mutationId error).2.outline = record.outline := by
  have changed : (record.onOperation mutationId fun operation =>
      if operation.state ≠ next then
        { operation with failure := some (.fromError error) }.transition next
      else (.ok (), { operation with failure := some (.fromError error) })).2.outline =
        record.outline := by
    apply onOperation_outline record mutationId
    intro operation
    split
    · simp
    · exact ⟨rfl, rfl⟩
  unfold failTo
  split
  next same => exact (congrArg (fun result => result.2.outline) same.symm).trans changed
  next same => exact (congrArg (fun result => result.2.outline) same.symm).trans changed

@[simp]
theorem failOperation_outline (error : SysboostError) :
    (record.failOperation mutationId error).2.outline = record.outline :=
  failTo_outline record mutationId _ error

@[simp]
theorem failRestore_outline (error : SysboostError) :
    (record.failRestore mutationId error).2.outline = record.outline :=
  failTo_outline record mutationId _ error

/-- An operation that moves in its place. -/
theorem set_outline {index : Nat} {operation : OperationRecord} {next : OperationState}
    (found : record.operations[index]? = some operation) :
    outline { record with
      operations := record.operations.set index (operation.transition next).2 } =
        record.outline := by
  obtain ⟨inside, rfl⟩ := List.getElem?_eq_some_iff.mp found
  rw [outline, outline]
  congr 1
  rw [List.map_set, OperationRecord.transition_mutation, OperationRecord.transition_snapshot,
    ← List.getElem_map (fun operation : OperationRecord =>
      (operation.mutation, operation.snapshot)), List.set_getElem_self]
  rwa [List.length_map]

end Methods

/-- The outline of what a method leaves. -/
theorem outline_of_eq {result : Except SysboostError Unit × SessionRecord} {outline : Outline}
    {outcome : Except SysboostError Unit} {left : SessionRecord}
    (kept : result.2.outline = outline) (same : result = (outcome, left)) :
    left.outline = outline := by
  rw [same] at kept
  exact kept

/-! ### Records that are not restored yet -/

/-- The record has the outline, and its session is not over. -/
structure Drafts (outline : Outline) (record : SessionRecord) : Prop where
  follows : record.outline = outline
  unrestored : record.session.state ≠ .restored

namespace Drafts

variable {outline : Outline} {record left : SessionRecord}

/-- What a method leaves. -/
theorem of_eq {result : Except SysboostError Unit × SessionRecord}
    {outcome : Except SysboostError Unit} (draft : result.2.Drafts outline)
    (same : result = (outcome, left)) : left.Drafts outline := by
  rw [same] at draft
  exact draft

variable (draft : record.Drafts outline)

include draft

/-- Methods of one operation leave the session alone. -/
theorem kept (follows : left.outline = record.outline) (session : left.session = record.session) :
    left.Drafts outline where
  follows := follows.trans draft.follows
  unrestored := by
    rw [session]
    exact draft.unrestored

theorem recordFailure (error : SysboostError) : (record.recordFailure error).Drafts outline :=
  draft.kept rfl rfl

theorem recordFailures (failures : List SysboostError) :
    (failures.foldl SessionRecord.recordFailure record).Drafts outline := by
  rw [foldl_recordFailure]
  exact draft.kept rfl rfl

theorem recordApply (mutationId : MutationId) (receipt : ApplyReceipt) :
    (record.recordApply mutationId receipt).2.Drafts outline :=
  draft.kept (recordApply_outline ..) rfl

theorem recordVerification (mutationId : MutationId) (verification : VerificationResult) :
    (record.recordVerification mutationId verification).2.Drafts outline :=
  draft.kept (recordVerification_outline ..) rfl

theorem recordRestore (mutationId : MutationId) (receipt : RestoreReceipt) :
    (record.recordRestore mutationId receipt).2.Drafts outline :=
  draft.kept (recordRestore_outline ..) rfl

theorem beginRestoreOperation (mutationId : MutationId) :
    (record.beginRestoreOperation mutationId).2.Drafts outline :=
  draft.kept (beginRestoreOperation_outline ..) rfl

theorem failOperation (mutationId : MutationId) (error : SysboostError) :
    (record.failOperation mutationId error).2.Drafts outline :=
  draft.kept (failOperation_outline ..) (failTo_session ..)

theorem failRestore (mutationId : MutationId) (error : SysboostError) :
    (record.failRestore mutationId error).2.Drafts outline :=
  draft.kept (failRestore_outline ..) (failTo_session ..)

theorem set {index : Nat} {operation : OperationRecord} {next : OperationState}
    (found : record.operations[index]? = some operation) :
    Drafts outline { record with
      operations := record.operations.set index (operation.transition next).2 } :=
  draft.kept (set_outline record found) rfl

/-- Only a transition to `Restored` ends a session. -/
theorem transition {next : SessionState} (other : next ≠ .restored) (at_ : Timestamp)
    (reason : String) : (record.transition next at_ reason).2.Drafts outline where
  follows := (transition_outline ..).trans draft.follows
  unrestored := by
    cases result : record.transition next at_ reason with
    | mk outcome left =>
      cases outcome with
      | ok done =>
          rw [(moved_of_transition result).2]
          exact other
      | error error =>
          unfold SessionRecord.transition at result
          split at result
          · cases result
            exact draft.unrestored
          · split at result
            · cases result
              exact draft.unrestored
            · cases result

end Drafts

end SessionRecord

end Sysboost.Core

namespace Sysboost.Platform

open Sysboost.Core Interaction

/-! ## Calls about an outline -/

/-- Calls that hand on nothing but the outline, for a session that is not over. -/
def Call.Concerns (outline : Outline) : Call → Prop
  | .replace record => record.Drafts outline
  | .apply _ mutation taken => (mutation, some taken) ∈ outline.operations
  | .restore _ mutation taken _ => (mutation, some taken) ∈ outline.operations
  | .now | .active | .verify _ _ _ _ _ => True
  | _ => False

/-- The program makes calls about the outline only, and its result satisfies `post`. -/
abbrev Handles {α : Type} (outline : Outline) (post : α → Prop) (program : Engine α) : Prop :=
  Within (Call.Concerns outline) post program

section Handles

variable {outline : Outline} {record : SessionRecord}

theorem now_handles (stage : Stage) : Handles outline (fun _ => True) (now stage).run :=
  ⟨trivial, fun _ => trivial⟩

theorem persist_handles (draft : record.Drafts outline) (stage : Stage) :
    Handles outline (fun _ => True) (persist record stage).run :=
  ⟨draft, fun _ => trivial⟩

/-! ### Restoring -/

/-- The pass carries a draft. -/
abbrev RestorePass.Drafts (outline : Outline) (pass : RestorePass) : Prop :=
  pass.record.Drafts outline

variable {pass : RestorePass}

theorem persistPass_handles (draft : pass.Drafts outline) :
    Handles outline (RestorePass.Drafts outline) (persistPass pass) := by
  apply Within.seq (persist_handles draft .restore)
  intro result _
  cases result with
  | error error => exact draft.recordFailure error
  | ok done => exact draft

theorem settleOperation_handles (draft : pass.Drafts outline) (mutationId : MutationId)
    (receipt : RestoreReceipt) :
    Handles outline (RestorePass.Drafts outline) (settleOperation pass mutationId receipt) := by
  have recorded := draft.recordRestore mutationId receipt
  unfold settleOperation
  split
  next error left same => exact recorded.of_eq same
  next left same =>
    have draft' : RestorePass.Drafts outline { pass with record := left } := recorded.of_eq same
    exact persistPass_handles draft'

theorem failOperationRestore_handles (draft : pass.Drafts outline) (mutationId : MutationId)
    (error : SysboostError) :
    Handles outline (RestorePass.Drafts outline) (failOperationRestore pass mutationId error) := by
  have failed := draft.failRestore mutationId error
  exact Within.seq (persist_handles failed .restore) fun _ _ => failed

theorem compareAndRestore_handles (draft : pass.Drafts outline) {mutation : PlannedMutation}
    {snapshot : Snapshot} (listed : (mutation, some snapshot) ∈ outline.operations)
    (sessionId : SessionId) (ownership : StateFingerprint) :
    Handles outline (RestorePass.Drafts outline)
      (compareAndRestore sessionId pass mutation snapshot ownership) := by
  apply Within.perform_bind_iff.mpr
  constructor
  · trivial
  intro answer
  cases answer with
  | error error => exact failOperationRestore_handles draft _ _
  | ok observed =>
      dsimp only
      split
      · exact settleOperation_handles draft _ _
      · split
        · exact failOperationRestore_handles draft _ _
        · apply Within.perform_bind_iff.mpr
          constructor
          · exact listed
          intro answer
          cases answer with
          | error error => exact failOperationRestore_handles draft _ _
          | ok receipt =>
              dsimp only
              split
              · exact settleOperation_handles draft _ _
              · exact failOperationRestore_handles draft _ _

theorem restoreOperation_handles (draft : pass.Drafts outline) (sessionId : SessionId)
    (index : Nat) :
    Handles outline (RestorePass.Drafts outline) (restoreOperation sessionId pass index) := by
  unfold restoreOperation
  split
  · exact draft
  next operation found =>
    dsimp only
    split
    · exact draft
    split
    · split
      · exact draft.recordFailure _
      · exact draft
    · exact draft.recordFailure _
    next receipt snapshot applied taken =>
      have listed := SessionRecord.mem_outline (List.mem_of_getElem? found) taken
      rw [draft.follows] at listed
      have begun := draft.beginRestoreOperation operation.mutation.mutationId
      split
      next error left same => exact begun.of_eq same
      next left same =>
        have draft' : RestorePass.Drafts outline { pass with record := left } := begun.of_eq same
        exact Within.seq (persistPass_handles draft') fun _ draft =>
          compareAndRestore_handles draft listed _ _

theorem restoreOperations_handles (draft : pass.Drafts outline) (sessionId : SessionId)
    (indices : List Nat) :
    Handles outline (RestorePass.Drafts outline) (restoreOperations sessionId pass indices) :=
  Within.foldlM (fun _ index draft => restoreOperation_handles draft sessionId index) indices
    draft

theorem degrade_drafts (draft : pass.Drafts outline) (at_ : Timestamp) :
    (degrade pass at_).2.Drafts outline := by
  have noted := draft.recordFailures pass.failures
  have degraded {record : SessionRecord} (draft : record.Drafts outline) :
      (if record.session.state = .restoring ∨ record.session.state = .rollingBack then
        record.transition .degraded at_ "one or more originals remain unproven"
      else (.ok (), record)).2.Drafts outline := by
    split
    · exact draft.transition (by decide) _ _
    · exact draft
  unfold degrade
  dsimp only
  split
  next error left result => exact (degraded noted).of_eq result
  next left result =>
    have draft' := (degraded noted).of_eq result
    split
    · exact draft'.transition (by decide) _ _
    · exact draft'

theorem enterRestore_drafts (draft : record.Drafts outline) (now : Timestamp) :
    (enterRestore record now).2.Drafts outline := by
  unfold enterRestore
  split
  · exact draft.transition (by decide) _ _
  · have other : SessionState.recoveryPending ≠ .restored := by decide
    have retried := draft.transition other now "retrying degraded restore"
    split
    next error left moved => exact retried.of_eq moved
    next left moved => exact (retried.of_eq moved).transition (by decide) _ _
  · exact draft.transition (by decide) _ _
  · exact draft.transition (by decide) _ _
  · exact draft.transition (by decide) _ _
  all_goals exact draft

theorem prepareRestoreState_handles (draft : record.Drafts outline) :
    Handles outline (fun result => result.2.Drafts outline) (prepareRestoreState record) := by
  apply Within.seq (now_handles .restore)
  intro result _
  cases result with
  | error error => exact draft
  | ok now =>
      have entered := enterRestore_drafts draft now
      dsimp only
      split
      next error left same => exact entered.of_eq same
      next left same =>
        have draft' := entered.of_eq same
        split
        · exact draft'
        · exact Within.seq (persist_handles draft' .restore) fun _ _ => draft'

/-! ### Rolling back -/

theorem enterRollback_drafts (draft : record.Drafts outline) (now : Timestamp) :
    (enterRollback record now).Drafts outline := by
  unfold enterRollback
  dsimp only
  split
  · exact draft
  next next reason chosen =>
    have other : next ≠ .restored := by
      rintro rfl
      split at chosen
      · simp at chosen
      · simp at chosen
      · simp at chosen
      · simp at chosen
    have moved := draft.transition other now reason
    split
    next error left same => exact (moved.of_eq same).recordFailure error
    next left same => exact moved.of_eq same

theorem startRollback_handles (draft : record.Drafts outline) (fromApply : Bool) :
    Handles outline (SessionRecord.Drafts outline) (startRollback record fromApply) := by
  cases fromApply with
  | false => exact draft
  | true =>
      apply Within.seq (now_handles .recovery)
      exact fun result _ => enterRollback_drafts draft _

theorem persistRollback_handles (draft : record.Drafts outline) :
    Handles outline (SessionRecord.Drafts outline) (persistRollback record) := by
  apply Within.seq (persist_handles draft .recovery)
  intro result _
  cases result with
  | error error => exact draft.recordFailure error
  | ok done => exact draft

/-! ## To the end of a session -/

/-- The same, writing any record of the outline, and giving up the lease. -/
def Call.Serves (outline : Outline) : Call → Prop
  | .replace record => record.outline = outline
  | .release => True
  | call => call.Concerns outline

theorem Call.Concerns.serves {call : Call} (concerns : call.Concerns outline) :
    call.Serves outline := by
  cases call with
  | replace record => exact SessionRecord.Drafts.follows concerns
  | release => trivial
  | _ => exact concerns

/-- The program serves the session of the outline, whatever it returns. -/
abbrev Attends {α : Type} (outline : Outline) (program : Engine α) : Prop :=
  Within (Call.Serves outline) (fun _ => True) program

theorem Handles.attends {α β : Type} {program : Engine α} {next : α → Engine β} {m : α → Prop}
    (first : Handles outline m program) (later : ∀ value, m value → Attends outline (next value)) :
    Attends outline (program >>= next) :=
  Within.seq (first.weaken fun _ concerns => concerns.serves) later

theorem releaseIfRestored_attends (sessionId : SessionId) :
    Attends outline (releaseIfRestored sessionId) := by
  apply Within.perform_bind_iff.mpr
  constructor
  · trivial
  intro answer
  cases answer with
  | none => trivial
  | some active =>
      dsimp only
      split
      · exact ⟨trivial, fun _ => trivial⟩
      · trivial

/-- The record that a pass without failures ends with. -/
theorem proven_outline {at_ : Timestamp} {outcome : Except SysboostError Unit}
    {left : SessionRecord} (draft : pass.Drafts outline)
    (proven : (if pass.record.session.state ≠ .restored then
      pass.record.transition .restored at_ "all captured originals verified"
      else (.ok (), pass.record)) = (outcome, left)) : left.outline = outline := by
  rw [if_pos draft.unrestored] at proven
  exact SessionRecord.outline_of_eq
    ((SessionRecord.transition_outline ..).trans draft.follows) proven

theorem finishRestore_attends (draft : pass.Drafts outline) (sessionId : SessionId)
    (at_ : Timestamp) : Attends outline (finishRestore sessionId pass at_) := by
  unfold finishRestore
  split
  · dsimp only
    split
    · trivial
    next left proven =>
      have persisted : Attends outline (persist left .restore).run :=
        ⟨proven_outline draft proven, fun _ => trivial⟩
      apply Within.seq persisted
      intro result _
      cases result with
      | error error => trivial
      | ok done => exact Within.seq (releaseIfRestored_attends sessionId) fun _ _ => trivial
  · split
    · trivial
    next left degraded =>
      have draft' := (degrade_drafts draft at_).of_eq degraded
      exact (persist_handles draft' .recovery).attends fun _ _ => trivial

theorem restoreRecord_attends (draft : record.Drafts outline) :
    Attends outline (restoreRecord record) := by
  apply (now_handles .restore).attends
  intro result _
  have draft' : RestorePass.Drafts outline ⟨record, [], false⟩ := draft
  exact (restoreOperations_handles draft' _ _).attends fun pass draft =>
    finishRestore_attends draft _ _

theorem rollbackAfterFailure_attends (draft : record.Drafts outline) (trigger : SysboostError)
    (fromApply : Bool) : Attends outline (rollbackAfterFailure record trigger fromApply) := by
  apply (startRollback_handles draft fromApply).attends
  intro entered draft
  apply (persistRollback_handles draft).attends
  intro left draft
  exact Within.seq (restoreRecord_attends draft) fun _ _ => trivial

/-! ### Applying -/

/-- The loop goes on with a draft, or has ended. -/
def Step.Drafts (outline : Outline) : Step → Prop
  | .next record => record.Drafts outline
  | .done _ => True

/-- One iteration of the loop. -/
abbrev Iterates (outline : Outline) (program : Engine Step) : Prop :=
  Within (Call.Serves outline) (Step.Drafts outline) program

theorem rollback_iterates (draft : record.Drafts outline) (error : SysboostError) :
    Iterates outline (Step.rollback record error) :=
  Within.seq (rollbackAfterFailure_attends draft error true) fun _ _ => trivial

theorem fail_iterates (draft : record.Drafts outline) (error : SysboostError) :
    Iterates outline (Step.fail record error) :=
  rollback_iterates (draft.recordFailure error) error

theorem Handles.iterates {α : Type} {program : Engine α} {next : α → Engine Step} {m : α → Prop}
    (first : Handles outline m program) (later : ∀ value, m value → Iterates outline (next value)) :
    Iterates outline (program >>= next) :=
  Within.seq (first.weaken fun _ concerns => concerns.serves) later

theorem persistOrRollback_iterates (draft : record.Drafts outline) (stage : Stage)
    {next : Engine Step} (goesOn : Iterates outline next) :
    Iterates outline (persistOrRollback record stage next) := by
  apply (persist_handles draft stage).iterates
  intro result _
  cases result with
  | error error => exact fail_iterates draft error
  | ok done => exact goesOn

theorem persistAndRollback_iterates (draft : record.Drafts outline) (stage : Stage)
    (error : SysboostError) : Iterates outline (persistAndRollback record stage error) :=
  (persist_handles draft stage).iterates fun _ _ => rollback_iterates draft error

theorem refuseVerification_iterates (draft : record.Drafts outline) (mutationId : MutationId)
    (verification : VerificationResult) (error : SysboostError) :
    Iterates outline (refuseVerification record mutationId verification error) := by
  unfold refuseVerification
  split
  · trivial
  next left recorded =>
    have draft' := (draft.recordVerification mutationId verification).of_eq recorded
    exact persistAndRollback_iterates (draft'.failOperation _ _) _ _

theorem verifyApplied_iterates (draft : record.Drafts outline) (sessionId : SessionId)
    (mutation : PlannedMutation) (snapshot : Snapshot) (receipt : ApplyReceipt) :
    Iterates outline (verifyApplied sessionId record mutation snapshot receipt) := by
  apply Within.perform_bind_iff.mpr
  constructor
  · trivial
  intro answer
  cases answer with
  | error error => exact refuseVerification_iterates draft _ _ _
  | ok observed =>
      dsimp only
      split
      · exact refuseVerification_iterates draft _ _ _
      · split
        · trivial
        next left recorded =>
          have draft' := (draft.recordVerification _ _).of_eq recorded
          exact persistOrRollback_iterates draft' _ draft'

theorem applyIntended_iterates (draft : record.Drafts outline) {mutation : PlannedMutation}
    {snapshot : Snapshot} (listed : (mutation, some snapshot) ∈ outline.operations)
    (sessionId : SessionId) :
    Iterates outline (applyIntended sessionId record mutation snapshot) := by
  apply Within.perform_bind_iff.mpr
  constructor
  · exact listed
  intro answer
  cases answer with
  | error error =>
      dsimp only
      split
      · exact persistAndRollback_iterates (draft.failOperation _ _) _ _
      · exact persistAndRollback_iterates (draft.recordFailure _) _ _
  | ok receipt =>
      have recorded := draft.recordApply mutation.mutationId receipt
      dsimp only
      split
      · split
        · trivial
        next left same =>
          exact persistAndRollback_iterates ((recorded.of_eq same).failOperation _ _) _ _
      · split
        · trivial
        next left same =>
          have draft' := recorded.of_eq same
          exact persistOrRollback_iterates draft' _ (verifyApplied_iterates draft' _ _ _ _)

theorem applyOperation_iterates (draft : record.Drafts outline) (sessionId : SessionId)
    (index : Nat) : Iterates outline (applyOperation sessionId record index) := by
  unfold applyOperation
  split
  · exact draft
  next operation found =>
    dsimp only
    split
    · exact draft
    split
    · exact fail_iterates draft _
    split
    · exact fail_iterates draft _
    split
    · trivial
    next applying begun =>
      have draft' : SessionRecord.Drafts outline
          { record with operations := record.operations.set index applying } := by
        have moved : (operation.transition .applying).2 = applying := congrArg Prod.snd begun
        rw [← moved]
        exact draft.set found
      apply persistOrRollback_iterates draft'
      split
      · trivial
      next snapshot taken =>
        have listed := SessionRecord.mem_outline (List.mem_of_getElem? found) taken
        rw [draft.follows] at listed
        exact applyIntended_iterates draft' listed _

theorem applyOperations_attends (draft : record.Drafts outline) (sessionId : SessionId)
    (indices : List Nat) : Attends outline (applyOperations sessionId record indices) := by
  induction indices generalizing record with
  | nil =>
      apply (now_handles .verify).attends
      intro result _
      cases result with
      | error error => trivial
      | ok now =>
          dsimp only
          split
          · trivial
          next left moved =>
            have draft' := (draft.transition (by decide) _ _).of_eq moved
            apply (persist_handles draft' .verify).attends
            intro result _
            cases result with
            | error error => exact rollbackAfterFailure_attends (draft'.recordFailure error) _ _
            | ok done => trivial
  | cons index rest ih =>
      apply Within.seq (applyOperation_iterates draft sessionId index)
      intro step drafts
      cases step with
      | next left => exact ih drafts
      | done result => trivial

end Handles

/-! ## The public operations -/

/-- Calls that neither write a record nor reach a backend. -/
def Call.Manages : Call → Prop
  | .active | .hold _ | .release | .acquire | .dropGuard | .now | .load _ | .loadUnfinished => True
  | _ => False

theorem releaseIfRestored_manages (sessionId : SessionId) :
    Within Call.Manages (fun _ => True) (releaseIfRestored sessionId) := by
  apply Within.perform_bind_iff.mpr
  constructor
  · trivial
  intro answer
  cases answer with
  | none => trivial
  | some active =>
      dsimp only
      split
      · exact ⟨trivial, fun _ => trivial⟩
      · trivial

/-- The terms let an engine serve the sessions of fine outlines, and promise that
a session which is not over has such an outline. -/
structure Entrusts (terms : Terms Answer) (fine : Outline → Prop) : Prop where
  serves : ∀ {outline : Outline} {call : Call}, fine outline → call.Serves outline →
    terms.allowed call
  manages : ∀ {call : Call}, call.Manages → terms.allowed call
  loaded : ∀ {sessionId : SessionId} {record : SessionRecord},
    terms.promised (.load sessionId) (.ok record) →
      record.session.state = .restored ∨ fine record.outline
  unfinished : ∀ {records : List SessionRecord}, terms.promised .loadUnfinished (.ok records) →
    ∀ record ∈ records, record.session.state ≠ .restored ∧ fine record.outline
  removes : ∀ {sessionId : SessionId} {record : SessionRecord},
    terms.promised (.load sessionId) (.ok record) → record.session.state = .intentDurable →
      terms.allowed (.remove sessionId)

/-- Allowed calls whose answers do not matter. -/
abbrev Calls {α : Type} (terms : Terms Answer) (program : Engine α) : Prop :=
  Within terms.allowed (fun _ => True) program

theorem Calls.obeys {α : Type} {terms : Terms Answer} {program : Engine α}
    (calls : Calls terms program) : Obeys terms (fun _ => True) program :=
  .of_within calls fun _ allowed => allowed

theorem refuseIf_calls {terms : Terms Answer} (condition : Bool) (error : SysboostError) :
    Calls terms (Fallible.refuseIf condition error).run := by
  cases condition with
  | false => trivial
  | true => trivial

/-- What passes a check meets its condition. -/
theorem refuseIf_obeys {terms : Terms Answer} (condition : Bool) (error : SysboostError) :
    Obeys terms (fun result => result = .ok () → condition = false)
      (Fallible.refuseIf condition error).run := by
  cases condition with
  | false => exact fun _ => rfl
  | true => exact nofun

namespace Entrusts

variable {terms : Terms Answer} {fine : Outline → Prop} (trust : Entrusts terms fine)

include trust

theorem obeys {α : Type} {outline : Outline} {post : α → Prop} {program : Engine α}
    (serves : Within (Call.Serves outline) post program) (good : fine outline) :
    Obeys terms post program :=
  Obeys.of_within serves fun _ => trust.serves good

theorem handles {α : Type} {outline : Outline} {post : α → Prop} {program : Engine α}
    (handles : Handles outline post program) (good : fine outline) : Obeys terms post program :=
  trust.obeys (handles.weaken fun _ concerns => concerns.serves) good

theorem calls {α : Type} {post : α → Prop} {program : Engine α}
    (manages : Within Call.Manages post program) : Obeys terms post program :=
  Obeys.of_within manages fun _ => trust.manages

theorem loadActiveRecord_obeys (sessionId : SessionId) :
    Obeys terms (fun result => ∀ record, result = .ok record →
      terms.promised (.load sessionId) (.ok record)) (loadActiveRecord sessionId).run := by
  apply Obeys.perform_bind_iff.mpr
  constructor
  · exact trust.manages trivial
  intro answer promised
  cases answer with
  | error error => exact fun _ => nofun
  | ok record =>
      rintro _ ⟨⟩
      exact promised

theorem requireActive_obeys (sessionId : SessionId) :
    Obeys terms (fun _ => True) (requireActive sessionId).run := by
  have active : Within Call.Manages (fun _ => True) (Prog.perform Call.active : Engine _) :=
    ⟨trivial, fun _ => trivial⟩
  apply trust.calls
  apply Within.lift_seq active
  intro answer _
  cases answer with
  | none => trivial
  | some active =>
      dsimp only
      split
      · trivial
      · trivial

/-- The part that `apply`, `restore` and `abort_prepared` share. -/
theorem active_obeys {α : Type} {sessionId : SessionId} {next : SessionRecord → Fallible α}
    (serves : ∀ record, terms.promised (.load sessionId) (.ok record) →
      Obeys terms (fun _ => True) (next record).run) :
    Obeys terms (fun _ => True) (do
      requireActive sessionId
      let record ← loadActiveRecord sessionId
      next record : Fallible α).run := by
  apply Obeys.run_seq (trust.requireActive_obeys sessionId)
  · exact fun _ _ => trivial
  intro _ _
  apply Obeys.run_seq (trust.loadActiveRecord_obeys sessionId)
  · exact fun _ _ => trivial
  · exact fun record promised => serves record (promised record rfl)

theorem now_obeys (stage : Stage) : Obeys terms (fun _ => True) (now stage).run :=
  trust.calls ⟨trivial, fun _ => trivial⟩

theorem releaseIfRestored_obeys (sessionId : SessionId) :
    Obeys terms (fun _ => True) (releaseIfRestored sessionId) :=
  trust.calls (releaseIfRestored_manages sessionId)

theorem apply_obeys (sessionId : SessionId) :
    Obeys terms (fun _ => True) (apply sessionId).run := by
  apply trust.active_obeys
  intro record promised
  split
  next state =>
    have draft : record.Drafts record.outline := ⟨rfl, by simp [state]⟩
    have good := (trust.loaded promised).resolve_left draft.unrestored
    apply Obeys.run_seq (trust.now_obeys .apply)
    · exact fun _ _ => trivial
    intro now _
    split
    · trivial
    next left moved =>
      have draft' := (draft.transition (by decide) _ _).of_eq moved
      apply Obeys.lift_seq (trust.handles (persist_handles draft' .apply) good)
      intro result _
      cases result with
      | error error =>
          exact trust.obeys (rollbackAfterFailure_attends (draft'.recordFailure error) error true)
            good
      | ok done => exact trust.obeys (applyOperations_attends draft' sessionId _) good
  · trivial
  · exact Obeys.lift_seq (trust.releaseIfRestored_obeys sessionId) fun _ _ => trivial
  · trivial

theorem abortPrepared_obeys (sessionId : SessionId) :
    Obeys terms (fun _ => True) (abortPrepared sessionId).run := by
  apply trust.active_obeys
  intro record promised
  apply Obeys.run_seq (refuseIf_obeys _ _)
  · exact fun _ _ => trivial
  intro _ passed
  have intended : record.session.state = .intentDurable := by
    have unrefused := passed rfl
    simp only [Bool.or_eq_false_iff, decide_eq_false_iff_not, ne_eq, not_not] at unrefused
    exact unrefused.1
  have removed : Calls terms (Fallible.mapErr (contextual · .durableIntent (some sessionId) none)
      (Fallible.port (Prog.perform (Call.remove sessionId)))).run :=
    ⟨trust.removes promised intended, fun _ => trivial⟩
  apply Obeys.run_seq removed.obeys
  · exact fun _ _ => trivial
  · exact fun _ _ => trust.calls ⟨trivial, fun _ => trivial⟩

theorem releaseAfter_obeys (sessionId : SessionId) (state : SessionState) :
    Obeys terms (fun _ => True) (releaseAfter sessionId state) := by
  unfold releaseAfter
  split
  · exact trust.releaseIfRestored_obeys sessionId
  · trivial

theorem restoreActive_obeys (sessionId : SessionId) :
    Obeys terms (fun _ => True) (restoreActive sessionId).run := by
  apply trust.active_obeys
  intro record promised
  split
  · exact Obeys.lift_seq (trust.releaseIfRestored_obeys sessionId) fun _ _ => trivial
  next state =>
    have draft : record.Drafts record.outline := ⟨rfl, state⟩
    have good := (trust.loaded promised).resolve_left state
    apply Obeys.lift_seq (trust.handles (prepareRestoreState_handles draft) good)
    rintro ⟨prepared, left⟩ draft
    cases prepared with
    | error error => trivial
    | ok done =>
        apply Obeys.lift_seq (trust.obeys (restoreRecord_attends draft) good)
        rintro ⟨result, _⟩ _
        cases result with
        | error error => trivial
        | ok state =>
            exact Obeys.lift_seq (trust.releaseAfter_obeys sessionId state) fun _ _ => trivial

theorem restore_obeys (sessionId : SessionId) :
    Obeys terms (fun _ => True) (restore sessionId).run := by
  have before : Obeys terms (fun _ => True) (restoredBefore sessionId).run := by
    apply Obeys.perform_bind_iff.mpr
    constructor
    · exact trust.manages trivial
    intro answer _
    cases answer with
    | none =>
        apply Obeys.run_seq (trust.loadActiveRecord_obeys sessionId)
        · exact fun _ _ => trivial
        · exact fun _ _ => trivial
    | some active => trivial
  apply Obeys.run_seq before
  · exact fun _ _ => trivial
  intro restored _
  cases restored with
  | true => trivial
  | false => exact trust.restoreActive_obeys sessionId

/-! ### After a restart -/

theorem recoverOne_obeys (recovery : Recovery) {record : SessionRecord}
    (unrestored : record.session.state ≠ .restored) (good : fine record.outline) :
    Obeys terms (fun _ => True) (recoverOne recovery record) := by
  have draft : record.Drafts record.outline := ⟨rfl, unrestored⟩
  apply Obeys.seq (trust.handles (prepareRestoreState_handles draft) good)
  rintro ⟨prepared, left⟩ draft
  cases prepared with
  | error error => trivial
  | ok done =>
      apply Obeys.seq (trust.obeys (restoreRecord_attends draft) good)
      rintro ⟨result, _⟩ _
      cases result with
      | error error => trivial
      | ok state => trivial

theorem recoverAll_obeys {records : List SessionRecord}
    (good : ∀ record ∈ records, record.session.state ≠ .restored ∧ fine record.outline)
    (recovery : Recovery) :
    Obeys terms (fun _ => True) (records.foldlM recoverOne recovery) := by
  induction records generalizing recovery with
  | nil => trivial
  | cons record rest ih =>
      rw [List.forall_mem_cons] at good
      rw [List.foldlM_cons]
      obtain ⟨⟨unrestored, fits⟩, others⟩ := good
      exact Obeys.seq (trust.recoverOne_obeys recovery unrestored fits) fun next _ =>
        ih others next

theorem finishRecovery_obeys (recovery : Recovery) (fallback : SessionId) :
    Obeys terms (fun _ => True) (finishRecovery recovery fallback).run := by
  unfold finishRecovery
  split
  · exact trust.calls ⟨trivial, fun _ => trivial⟩
  · exact trust.calls ⟨trivial, fun _ => trivial⟩

theorem recoverLocked_obeys : Obeys terms (fun _ => True) recoverLocked.run := by
  have loaded : Obeys terms (fun result => ∀ records, result = .ok (.ok records) →
      ∀ record ∈ records, record.session.state ≠ .restored ∧ fine record.outline)
      (Fallible.attempt (Fallible.port (Prog.perform Call.loadUnfinished))).run := by
    apply Obeys.perform_bind_iff.mpr
    constructor
    · exact trust.manages trivial
    · rintro answer promised records ⟨⟩
      exact trust.unfinished promised
  apply Obeys.run_seq loaded
  · exact fun _ _ => trivial
  intro answer good
  cases answer with
  | error error => exact trust.calls ⟨trivial, fun _ => trivial⟩
  | ok records =>
      have sorted : ∀ record ∈ sortRecords records,
          record.session.state ≠ .restored ∧ fine record.outline := by
        intro record member
        exact good records rfl record ((List.mem_insertionSort _).mp member)
      dsimp only
      split
      · exact trust.calls ⟨trivial, fun _ => trivial⟩
      next first rest same =>
        rw [same] at sorted
        apply Obeys.lift_seq (trust.recoverAll_obeys sorted _)
        exact fun recovery _ => trust.finishRecovery_obeys recovery _

theorem recoverUnfinished_obeys : Obeys terms (fun _ => True) recoverUnfinished.run := by
  apply Obeys.perform_bind_iff.mpr
  constructor
  · exact trust.manages trivial
  intro active _
  apply Obeys.run_seq (refuseIf_calls _ _).obeys
  · exact fun _ _ => trivial
  intro _ _
  have acquired : Calls terms (Fallible.mapErr
      (fun error => (error.withStage .recovery).retryable .retry)
      (Fallible.port (Prog.perform Call.acquire))).run :=
    ⟨trust.manages trivial, fun _ => trivial⟩
  apply Obeys.run_seq acquired.obeys
  · exact fun _ _ => trivial
  · exact fun _ _ => trust.recoverLocked_obeys

end Entrusts

/-! ### Right snapshots -/

section Resuming

variable {right : PlannedMutation → Snapshot → Prop}

/-- The session is over, or the snapshots of its record are right. -/
def Trusted (right : PlannedMutation → Snapshot → Prop) (record : SessionRecord) : Prop :=
  record.session.state = .restored ∨ record.outline.Sound right

/-- An engine that serves prepared sessions hands on right snapshots only, as
long as it loads such records. -/
def resuming (right : PlannedMutation → Snapshot → Prop) : Terms Answer where
  allowed
    | .replace record => Trusted right record
    | .apply _ mutation taken => right mutation taken
    | .restore _ mutation taken _ => right mutation taken
    | .create _ | .snapshot _ _ | .nextId => False
    | _ => True
  promised
    | .load _, .ok record => Trusted right record
    | .loadUnfinished, .ok records =>
        ∀ record ∈ records, record.session.state ≠ .restored ∧ record.outline.Sound right
    | _, _ => True

theorem resuming_serves {outline : Outline} {call : Call} (sound : outline.Sound right)
    (serves : call.Serves outline) : (resuming right).allowed call := by
  cases call with
  | replace record =>
      apply Or.inr
      rwa [show record.outline = outline from serves]
  | apply sessionId mutation taken => exact sound mutation taken serves
  | restore sessionId mutation taken ownership => exact sound mutation taken serves
  | now => trivial
  | active => trivial
  | release => trivial
  | verify sessionId stage mutation expected identity => trivial
  | _ => exact serves.elim

theorem resuming_entrusts : Entrusts (resuming right) (Outline.Sound right) where
  serves := resuming_serves
  manages {call} manages := by
    cases call with
    | replace record => exact manages.elim
    | apply sessionId mutation taken => exact manages.elim
    | restore sessionId mutation taken ownership => exact manages.elim
    | create record => exact manages.elim
    | snapshot sessionId mutation => exact manages.elim
    | nextId => exact manages.elim
    | _ => trivial
  loaded := id
  unfinished := id
  removes _ _ := trivial

end Resuming

end Sysboost.Platform
