import Sysboost.Platform.CheckedRecords
import Sysboost.Platform.Durability

/-!
# Operations that were cut off

An engine can end between the write that says what it is about to do to a target
and the write that says what came of it.  The record of such an operation is never
changed again: no later apply, restore or recovery gets past it, and the session is
never called restored.
-/

namespace Sysboost.Core.SessionRecord

/-- The operation is the only one of its mutation. -/
def Lists (record : SessionRecord) (operation : OperationRecord) : Prop :=
  record.operations.filter
    (fun other => other.mutation.mutationId = operation.mutation.mutationId) = [operation]

section Lists

variable {record left : SessionRecord} {operation : OperationRecord} {mutationId : MutationId}

theorem Lists.finds (lists : record.Lists operation) :
    ∃ front back, record.Finds front operation back := by
  rcases List.filter_eq_cons_iff.mp lists with ⟨front, back, split, others, -, -⟩
  refine ⟨front, back, split, ?_⟩
  intro other member
  simpa using others other member

theorem Lists.mem (lists : record.Lists operation) : operation ∈ record.operations := by
  rcases lists.finds with ⟨front, back, finds⟩
  rw [finds.split]
  simp

theorem Lists.eq (lists : record.Lists operation) {other : OperationRecord}
    (member : other ∈ record.operations)
    (same : other.mutation.mutationId = operation.mutation.mutationId) : other = operation := by
  have kept : other ∈ record.operations.filter
      (fun other => other.mutation.mutationId = operation.mutation.mutationId) :=
    List.mem_filter.mpr ⟨member, decide_eq_true same⟩
  rw [lists] at kept
  exact List.mem_singleton.mp kept

/-- The mutation IDs of a record are distinct. -/
theorem lists_of_nodup
    (nodup : (record.operations.map fun other => other.mutation.mutationId).Nodup)
    (member : operation ∈ record.operations) : record.Lists operation := by
  unfold Lists
  generalize record.operations = operations at nodup member
  induction operations with
  | nil => cases member
  | cons first rest ih =>
      rw [List.map_cons, List.nodup_cons] at nodup
      by_cases same : first.mutation.mutationId = operation.mutation.mutationId
      · have absent : rest.filter
            (fun other => other.mutation.mutationId = operation.mutation.mutationId) = [] := by
          rw [List.filter_eq_nil_iff]
          intro other later
          rw [decide_eq_true_eq, ← same]
          rintro known
          exact nodup.1 (known ▸ List.mem_map_of_mem later)
        rcases List.mem_cons.mp member with rfl | later
        · rw [List.filter_cons_of_pos (by simp), absent]
        · exact absurd (same ▸ List.mem_map_of_mem later) nodup.1
      · rw [List.filter_cons_of_neg (by simpa using same)]
        rcases List.mem_cons.mp member with rfl | later
        · exact absurd rfl same
        · exact ih nodup.2 later

/-- A change of another operation. -/
theorem updateOperation_filter
    {update : OperationRecord → Except SysboostError Unit × OperationRecord}
    (keeps : ∀ operation, (update operation).2.mutation = operation.mutation)
    {own : MutationId} (other : mutationId ≠ own) (operations : List OperationRecord) :
    (updateOperation mutationId update operations).2.filter
        (fun operation => operation.mutation.mutationId = own) =
      operations.filter fun operation => operation.mutation.mutationId = own := by
  induction operations with
  | nil => rfl
  | cons first rest ih =>
      unfold updateOperation
      split
      next same =>
        have different : first.mutation.mutationId ≠ own := same ▸ other
        rw [List.filter_cons_of_neg (by simpa [keeps] using different),
          List.filter_cons_of_neg (by simpa using different)]
      · rw [List.filter_cons, List.filter_cons, ih]

theorem Lists.onOperation (lists : record.Lists operation)
    {update : OperationRecord → Except SysboostError Unit × OperationRecord}
    (keeps : ∀ operation, (update operation).2.mutation = operation.mutation)
    (other : mutationId ≠ operation.mutation.mutationId) :
    (record.onOperation mutationId update).2.Lists operation :=
  (updateOperation_filter keeps other record.operations).trans lists

theorem Lists.recordRestore (lists : record.Lists operation) (receipt : RestoreReceipt)
    (other : mutationId ≠ operation.mutation.mutationId) :
    (record.recordRestore mutationId receipt).2.Lists operation := by
  apply lists.onOperation _ other
  intro operation
  split
  · rfl
  · simp

theorem Lists.beginRestoreOperation (lists : record.Lists operation)
    (other : mutationId ≠ operation.mutation.mutationId) :
    (record.beginRestoreOperation mutationId).2.Lists operation := by
  apply lists.onOperation _ other
  intro operation
  split
  · rfl
  · simp

theorem Lists.failRestore (lists : record.Lists operation) (error : SysboostError)
    (other : mutationId ≠ operation.mutation.mutationId) :
    (record.failRestore mutationId error).2.Lists operation := by
  have changed : (record.onOperation mutationId fun operation =>
      if operation.state ≠ .restoreFailed then
        { operation with failure := some (.fromError error) }.transition .restoreFailed
      else (.ok (), { operation with failure := some (.fromError error) })).2.Lists operation := by
    apply lists.onOperation _ other
    intro operation
    split
    · simp
    · rfl
  unfold SessionRecord.failRestore failTo
  split
  next same => exact (congrArg (fun result => result.2.Lists operation) same).mp changed
  next same => exact (congrArg (fun result => result.2.Lists operation) same).mp changed

theorem transition_operations (record : SessionRecord) (next : SessionState) (at_ : Timestamp)
    (reason : String) : (record.transition next at_ reason).2.operations = record.operations := by
  unfold SessionRecord.transition
  split
  · rfl
  · split
    · rfl
    · rfl

/-- The session moves, or stays where it is. -/
theorem transition_state (record : SessionRecord) (next : SessionState) (at_ : Timestamp)
    (reason : String) :
    (record.transition next at_ reason).2.session.state = next ∨
      (record.transition next at_ reason).2.session.state = record.session.state := by
  unfold SessionRecord.transition
  split
  · exact .inr rfl
  · unfold Session.transition
    split
    · exact .inr rfl
    next session ok =>
      split at ok
      · cases ok
      · cases ok
        exact .inl rfl

end Lists

end Sysboost.Core.SessionRecord

namespace Sysboost.Platform

open Sysboost.Core Interaction

/-! ## Cut off operations -/

/-- The record says what the engine was about to do, and not what came of it. -/
def CutOff (operation : OperationRecord) : Prop :=
  operation.state = .applying ∧ operation.applyReceipt = none ∨
    operation.state = .restoring ∧ operation.applyReceipt.isSome

instance (operation : OperationRecord) : Decidable (CutOff operation) :=
  inferInstanceAs (Decidable (_ ∨ _))

/-- The original of a cut off operation is not proven. -/
theorem CutOff.unproven {operation : OperationRecord} {record : SessionRecord}
    (cutOff : CutOff operation) (member : operation ∈ record.operations) :
    record.restorationProven = false := by
  have unsettled : (!operation.needsRestore && operation.state != .applying &&
      operation.state != .restoreFailed) = false := by
    rcases cutOff with ⟨state, -⟩ | ⟨state, received⟩
    · simp [state]
    · simp [OperationRecord.needsRestore, state, received]
  exact List.all_eq_false.mpr ⟨operation, member, by simpa using unsettled⟩

/-- A session that is not over and has a cut off operation. -/
structure Stuck (operation : OperationRecord) (record : SessionRecord) : Prop where
  cutOff : CutOff operation
  lists : record.Lists operation
  unrestored : record.session.state ≠ .restored
  begun : record.session.state ≠ .intentDurable

namespace Stuck

variable {operation : OperationRecord} {record left : SessionRecord}

/-- A method of another operation, or one that only adds a failure. -/
theorem kept (stuck : Stuck operation record) (lists : left.Lists operation)
    (session : left.session = record.session) : Stuck operation left where
  cutOff := stuck.cutOff
  lists := lists
  unrestored := by
    rw [session]
    exact stuck.unrestored
  begun := by
    rw [session]
    exact stuck.begun

theorem recordFailure (stuck : Stuck operation record) (error : SysboostError) :
    Stuck operation (record.recordFailure error) :=
  stuck.kept stuck.lists rfl

theorem transition (stuck : Stuck operation record) {next : SessionState}
    (other : next ≠ .restored) (later : next ≠ .intentDurable) (at_ : Timestamp)
    (reason : String) : Stuck operation (record.transition next at_ reason).2 where
  cutOff := stuck.cutOff
  lists := by
    unfold SessionRecord.Lists
    rw [SessionRecord.transition_operations]
    exact stuck.lists
  unrestored := by
    rcases record.transition_state next at_ reason with state | state
    · rw [state]
      exact other
    · rw [state]
      exact stuck.unrestored
  begun := by
    rcases record.transition_state next at_ reason with state | state
    · rw [state]
      exact later
    · rw [state]
      exact stuck.begun

/-- What a method leaves. -/
theorem of_eq {result : Except SysboostError Unit × SessionRecord}
    {outcome : Except SysboostError Unit} (stuck : Stuck operation result.2)
    (same : result = (outcome, left)) : Stuck operation left := by
  rw [same] at stuck
  exact stuck

/-- The originals of the session are not proven. -/
theorem unproven (stuck : Stuck operation record) : record.restorationProven = false :=
  stuck.cutOff.unproven stuck.lists.mem

end Stuck

/-! ## A restore that meets one -/

/-- Calls that leave the operation alone. -/
def Call.Spares (operation : OperationRecord) : Call → Prop
  | .replace record => Stuck operation record
  | .verify _ _ mutation _ _ => mutation.mutationId ≠ operation.mutation.mutationId
  | .restore _ mutation _ _ => mutation.mutationId ≠ operation.mutation.mutationId
  | .now | .active => True
  | _ => False

/-- The program makes such calls only, and its result satisfies `post`. -/
abbrev Avoids {α : Type} (operation : OperationRecord) (post : α → Prop) (program : Engine α) :
    Prop :=
  Within (Call.Spares operation) post program

section Avoids

variable {operation : OperationRecord} {record : SessionRecord} {pass : RestorePass}

theorem persist_spares (stuck : Stuck operation record) (stage : Stage) :
    Avoids operation (fun _ => True) (persist record stage).run :=
  ⟨stuck, fun _ => trivial⟩

/-- The pass carries a stuck record. -/
abbrev RestorePass.Stuck (operation : OperationRecord) (pass : RestorePass) : Prop :=
  Platform.Stuck operation pass.record

theorem persistPass_spares (stuck : pass.Stuck operation) :
    Avoids operation (RestorePass.Stuck operation) (persistPass pass) := by
  apply Within.seq (persist_spares stuck .restore)
  intro result _
  cases result with
  | error error => exact stuck.recordFailure error
  | ok done => exact stuck

section Other

variable {mutationId : MutationId} (other : mutationId ≠ operation.mutation.mutationId)

include other

theorem settleOperation_spares (stuck : pass.Stuck operation) (receipt : RestoreReceipt) :
    Avoids operation (RestorePass.Stuck operation) (settleOperation pass mutationId receipt) := by
  have recorded := stuck.kept (stuck.lists.recordRestore receipt other) rfl
  unfold settleOperation
  split
  next error left same => exact recorded.of_eq same
  next left same =>
    have stuck' : RestorePass.Stuck operation { pass with record := left } := recorded.of_eq same
    exact persistPass_spares stuck'

theorem failOperationRestore_spares (stuck : pass.Stuck operation) (error : SysboostError) :
    Avoids operation (RestorePass.Stuck operation)
      (failOperationRestore pass mutationId error) := by
  have failed := stuck.kept (stuck.lists.failRestore error other)
    (SessionRecord.failTo_session ..)
  exact Within.seq (persist_spares failed .restore) fun _ _ => failed

end Other

theorem compareAndRestore_spares {mutation : PlannedMutation}
    (other : mutation.mutationId ≠ operation.mutation.mutationId) (stuck : pass.Stuck operation)
    (sessionId : SessionId) (snapshot : Snapshot) (ownership : StateFingerprint) :
    Avoids operation (RestorePass.Stuck operation)
      (compareAndRestore sessionId pass mutation snapshot ownership) := by
  apply Within.perform_bind_iff.mpr
  constructor
  · exact other
  intro answer
  cases answer with
  | error error => exact failOperationRestore_spares other stuck _
  | ok observed =>
      dsimp only
      split
      · exact settleOperation_spares other stuck _
      · split
        · exact failOperationRestore_spares other stuck _
        · apply Within.perform_bind_iff.mpr
          constructor
          · exact other
          intro answer
          cases answer with
          | error error => exact failOperationRestore_spares other stuck _
          | ok receipt =>
              dsimp only
              split
              · exact settleOperation_spares other stuck _
              · exact failOperationRestore_spares other stuck _

/-- A cut off operation is passed over: it is neither read back nor restored. -/
theorem restoreOperation_cutOff (stuck : pass.Stuck operation) (sessionId : SessionId)
    {index : Nat} (found : pass.record.operations[index]? = some operation) :
    Avoids operation (RestorePass.Stuck operation) (restoreOperation sessionId pass index) := by
  unfold restoreOperation
  rw [found]
  dsimp only
  rcases stuck.cutOff with ⟨state, received⟩ | ⟨state, received⟩
  · rw [received, if_neg (by simp [state]), if_pos state]
    exact stuck.recordFailure _
  · rw [if_neg (by simp [state])]
    rcases Option.isSome_iff_exists.mp received with ⟨receipt, received⟩
    rw [received]
    cases operation.snapshot with
    | none => exact stuck.recordFailure _
    | some snapshot =>
        rcases stuck.lists.finds with ⟨front, back, finds⟩
        dsimp only
        rw [finds.beginRestoreOperation_illegal (by simp [state])
          (by simp [state, OperationState.canTransition])]
        exact stuck

theorem restoreOperation_spares (stuck : pass.Stuck operation) (sessionId : SessionId)
    (index : Nat) :
    Avoids operation (RestorePass.Stuck operation) (restoreOperation sessionId pass index) := by
  cases found : pass.record.operations[index]? with
  | none =>
      unfold restoreOperation
      rw [found]
      exact stuck
  | some visited =>
      by_cases same : visited.mutation.mutationId = operation.mutation.mutationId
      · obtain rfl := stuck.lists.eq (List.mem_of_getElem? found) same
        exact restoreOperation_cutOff stuck sessionId found
      · unfold restoreOperation
        rw [found]
        dsimp only
        split
        · exact stuck
        split
        · split
          · exact stuck.recordFailure _
          · exact stuck
        · exact stuck.recordFailure _
        · have begun := stuck.kept (stuck.lists.beginRestoreOperation same) rfl
          split
          next error left moved => exact begun.of_eq moved
          next left moved =>
            have stuck' : RestorePass.Stuck operation { pass with record := left } :=
              begun.of_eq moved
            exact Within.seq (persistPass_spares stuck') fun _ stuck =>
              compareAndRestore_spares same stuck _ _ _

theorem restoreOperations_spares (stuck : pass.Stuck operation) (sessionId : SessionId)
    (indices : List Nat) :
    Avoids operation (RestorePass.Stuck operation) (restoreOperations sessionId pass indices) :=
  Within.foldlM (fun _ index stuck => restoreOperation_spares stuck sessionId index) indices
    stuck

theorem degrade_stuck (stuck : pass.Stuck operation) (at_ : Timestamp) :
    Stuck operation (degrade pass at_).2 := by
  have noted : Stuck operation (pass.failures.foldl SessionRecord.recordFailure pass.record) := by
    rw [SessionRecord.foldl_recordFailure]
    exact stuck.kept stuck.lists rfl
  have degraded {record : SessionRecord} (stuck : Stuck operation record) :
      Stuck operation (if record.session.state = .restoring ∨ record.session.state = .rollingBack
        then record.transition .degraded at_ "one or more originals remain unproven"
        else (.ok (), record)).2 := by
    split
    · exact stuck.transition (by decide) (by decide) _ _
    · exact stuck
  unfold degrade
  dsimp only
  split
  next error left result => exact (degraded noted).of_eq result
  next left result =>
    have stuck' := (degraded noted).of_eq result
    split
    · exact stuck'.transition (by decide) (by decide) _ _
    · exact stuck'

/-- What a restore of a stuck record returns. -/
def Blocked (operation : OperationRecord)
    (outcome : Except SysboostError SessionState × SessionRecord) : Prop :=
  (∃ error, outcome.1 = .error error) ∧ Stuck operation outcome.2

theorem finishRestore_spares (stuck : pass.Stuck operation) (sessionId : SessionId)
    (at_ : Timestamp) :
    Avoids operation (Blocked operation) (finishRestore sessionId pass at_) := by
  unfold finishRestore
  rw [if_neg (by simp [stuck.unproven])]
  split
  next error left degraded => exact ⟨⟨error, rfl⟩, (degrade_stuck stuck at_).of_eq degraded⟩
  next left degraded =>
    have stuck' := (degrade_stuck stuck at_).of_eq degraded
    exact Within.seq (persist_spares stuck' .recovery) fun _ _ => ⟨⟨_, rfl⟩, stuck'⟩

theorem now_spares (stage : Stage) : Avoids operation (fun _ => True) (now stage).run :=
  ⟨trivial, fun _ => trivial⟩

/-- A restore of a stuck record fails and leaves it stuck. -/
theorem restoreRecord_spares (stuck : Stuck operation record) :
    Avoids operation (Blocked operation) (restoreRecord record) := by
  apply Within.seq (now_spares .restore)
  intro result _
  have stuck' : RestorePass.Stuck operation ⟨record, [], false⟩ := stuck
  exact Within.seq (restoreOperations_spares stuck' _ _) fun pass stuck =>
    finishRestore_spares stuck _ _

theorem enterRestore_stuck (stuck : Stuck operation record) (now : Timestamp) :
    Stuck operation (enterRestore record now).2 := by
  unfold enterRestore
  split
  · exact stuck.transition (by decide) (by decide) _ _
  · have other : SessionState.recoveryPending ≠ .restored := by decide
    have later : SessionState.recoveryPending ≠ .intentDurable := by decide
    have retried := stuck.transition other later now "retrying degraded restore"
    split
    next error left moved => exact retried.of_eq moved
    next left moved => exact (retried.of_eq moved).transition (by decide) (by decide) _ _
  · exact stuck.transition (by decide) (by decide) _ _
  · exact stuck.transition (by decide) (by decide) _ _
  · exact stuck.transition (by decide) (by decide) _ _
  all_goals exact stuck

theorem prepareRestoreState_spares (stuck : Stuck operation record) :
    Avoids operation (fun result => Stuck operation result.2) (prepareRestoreState record) := by
  apply Within.seq (now_spares .restore)
  intro result _
  cases result with
  | error error => exact stuck
  | ok now =>
      have entered := enterRestore_stuck stuck now
      dsimp only
      split
      next error left same => exact entered.of_eq same
      next left same =>
        have stuck' := entered.of_eq same
        split
        · exact stuck'
        · exact Within.seq (persist_spares stuck' .restore) fun _ _ => stuck'

end Avoids

/-! ## Every request -/

/-- Only stuck records of the session are written, as long as only such records of
it are read. -/
def sparing (operation : OperationRecord) (sessionId : SessionId) : Terms Answer where
  allowed
    | .replace record => record.sessionId = sessionId → Stuck operation record
    | .remove other => other ≠ sessionId
    | _ => True
  promised
    | .load asked, .ok record =>
        record.sessionId = asked ∧ (asked = sessionId → Stuck operation record)
    | .loadUnfinished, .ok records => ∀ record ∈ records,
        record.session.state ≠ .restored ∧
          (record.sessionId = sessionId → Stuck operation record)
    | _, _ => True

section Sparing

variable {α : Type} {operation : OperationRecord} {sessionId asked : SessionId}

theorem Avoids.obeys {post : α → Prop} {program : Engine α}
    (spares : Avoids operation post program) :
    Obeys (sparing operation sessionId) post program := by
  apply Obeys.of_within spares
  intro call spared
  cases call with
  | replace record => exact fun _ => spared
  | remove other => exact spared.elim
  | _ => trivial

/-- The sessions of other outlines can be served in any way. -/
theorem serves_sparing {outline : Outline} {post : α → Prop} {program : Engine α}
    (other : outline.sessionId ≠ sessionId)
    (serves : Within (Call.Serves outline) post program) :
    Obeys (sparing operation sessionId) post program := by
  apply Obeys.of_within serves
  intro call served
  cases call with
  | replace record =>
      intro same
      have own : record.sessionId = outline.sessionId := congrArg Outline.sessionId served
      exact absurd (own.symm.trans same) other
  | remove removed => exact served.elim
  | _ => trivial

theorem manages_sparing {post : α → Prop} {program : Engine α}
    (manages : Within Call.Manages post program) :
    Obeys (sparing operation sessionId) post program := by
  apply Obeys.of_within manages
  intro call managed
  cases call with
  | replace record => exact managed.elim
  | remove removed => exact managed.elim
  | _ => trivial

theorem requireActive_manages (asked : SessionId) :
    Within Call.Manages (fun _ => True) (requireActive asked).run := by
  have active : Within Call.Manages (fun _ => True) (Prog.perform Call.active : Engine _) :=
    ⟨trivial, fun _ => trivial⟩
  apply Within.lift_seq active
  intro answer _
  cases answer with
  | none => trivial
  | some active =>
      dsimp only
      split
      · trivial
      · trivial

/-- The record that an engine has loaded. -/
def Read (operation : OperationRecord) (sessionId asked : SessionId) (record : SessionRecord) :
    Prop :=
  record.sessionId = asked ∧ (asked = sessionId → Stuck operation record)

theorem loadActiveRecord_sparing (asked : SessionId) :
    Obeys (sparing operation sessionId)
      (fun result => ∀ record, result = .ok record → Read operation sessionId asked record)
      (loadActiveRecord asked).run := by
  apply Obeys.perform_bind_iff.mpr
  constructor
  · trivial
  intro answer promised
  cases answer with
  | error error => exact fun _ => nofun
  | ok record =>
      rintro _ ⟨⟩
      exact promised

/-- The part that `apply`, `restore` and `abort_prepared` share. -/
theorem active_sparing {post : Except SysboostError α → Prop} {next : SessionRecord → Fallible α}
    (early : ∀ error, post (.error error))
    (serves : ∀ record, Read operation sessionId asked record →
      Obeys (sparing operation sessionId) post (next record).run) :
    Obeys (sparing operation sessionId) post (do
      requireActive asked
      let record ← loadActiveRecord asked
      next record : Fallible α).run := by
  apply Obeys.run_seq (manages_sparing (requireActive_manages asked))
  · exact fun error _ => early error
  intro _ _
  apply Obeys.run_seq (loadActiveRecord_sparing asked)
  · exact fun error _ => early error
  · exact fun record read => serves record (read record rfl)

/-- The session is not called restored. -/
def Unproven (sessionId asked : SessionId) (result : Except SysboostError SessionState) : Prop :=
  result = .ok .restored → asked ≠ sessionId

theorem other_sparing {record : SessionRecord}
    {program : Engine (Except SysboostError SessionState)}
    (own : record.sessionId = asked) (other : asked ≠ sessionId)
    (attends : Attends record.outline program) :
    Obeys (sparing operation sessionId) (Unproven sessionId asked) program := by
  have different : record.outline.sessionId ≠ sessionId := by
    change record.sessionId ≠ sessionId
    rw [own]
    exact other
  exact (serves_sparing different attends).mono fun _ _ _ => other

theorem apply_sparing (asked : SessionId) :
    Obeys (sparing operation sessionId) (Unproven sessionId asked) (apply asked).run := by
  apply active_sparing (fun _ => nofun)
  rintro record ⟨own, stuck⟩
  by_cases same : asked = sessionId
  · -- A stuck session is neither prepared nor over, so there is nothing to apply.
    have stuck := stuck same
    split
    next state => exact absurd state stuck.begun
    · exact nofun
    next state => exact absurd state stuck.unrestored
    · exact nofun
  · apply other_sparing own same
    split
    next state =>
      have draft : record.Drafts record.outline := ⟨rfl, by simp [state]⟩
      apply Within.run_seq (Within.weaken (now_handles .apply) fun _ => Call.Concerns.serves)
      · exact fun _ _ => trivial
      intro now _
      split
      · trivial
      next left moved =>
        have draft' := (draft.transition (by decide) _ _).of_eq moved
        apply Within.lift_seq (Within.weaken (persist_handles draft' .apply)
          fun _ => Call.Concerns.serves)
        intro result _
        cases result with
        | error error => exact rollbackAfterFailure_attends (draft'.recordFailure error) error true
        | ok done => exact applyOperations_attends draft' asked _
    · trivial
    · exact Within.lift_seq (releaseIfRestored_attends asked) fun _ _ => trivial
    · trivial

theorem abortPrepared_sparing (asked : SessionId) :
    Obeys (sparing operation sessionId) (fun _ => True) (abortPrepared asked).run := by
  apply active_sparing (fun _ => trivial)
  rintro record ⟨own, stuck⟩
  apply Obeys.run_seq (refuseIf_obeys _ _)
  · exact fun _ _ => trivial
  intro _ passed
  have prepared : record.session.state = .intentDurable := by
    have unrefused := passed rfl
    simp only [Bool.or_eq_false_iff, decide_eq_false_iff_not, ne_eq, not_not] at unrefused
    exact unrefused.1
  have other : asked ≠ sessionId := fun same => (stuck same).begun prepared
  have removed : Calls (sparing operation sessionId)
      (Fallible.mapErr (contextual · .durableIntent (some asked) none)
        (Fallible.port (Prog.perform (Call.remove asked)))).run :=
    ⟨other, fun _ => trivial⟩
  apply Obeys.run_seq removed.obeys
  · exact fun _ _ => trivial
  · intro _ _
    exact ⟨trivial, fun _ _ => trivial⟩

theorem releaseAfter_attends {outline : Outline} (asked : SessionId) (state : SessionState) :
    Attends outline (releaseAfter asked state) := by
  unfold releaseAfter
  split
  · exact releaseIfRestored_attends asked
  · trivial

theorem restoreActive_sparing (asked : SessionId) :
    Obeys (sparing operation sessionId) (Unproven sessionId asked) (restoreActive asked).run := by
  apply active_sparing (fun _ => nofun)
  rintro record ⟨own, stuck⟩
  by_cases same : asked = sessionId
  · have stuck := stuck same
    rw [if_neg stuck.unrestored]
    apply Obeys.lift_seq (prepareRestoreState_spares stuck).obeys
    rintro ⟨prepared, left⟩ stuck
    cases prepared with
    | error error => exact nofun
    | ok done =>
        apply Obeys.lift_seq (restoreRecord_spares stuck).obeys
        rintro ⟨result, _⟩ ⟨⟨error, rfl⟩, -⟩
        exact nofun
  · apply other_sparing own same
    split
    · exact Within.lift_seq (releaseIfRestored_attends asked) fun _ _ => trivial
    next unrestored =>
      have draft : record.Drafts record.outline := ⟨rfl, unrestored⟩
      apply Within.lift_seq (Within.weaken (prepareRestoreState_handles draft)
        fun _ => Call.Concerns.serves)
      rintro ⟨prepared, left⟩ draft
      cases prepared with
      | error error => trivial
      | ok done =>
          apply Within.lift_seq (restoreRecord_attends draft)
          rintro ⟨result, _⟩ _
          cases result with
          | error error => trivial
          | ok state => exact Within.lift_seq (releaseAfter_attends asked state) fun _ _ => trivial

theorem restore_sparing (asked : SessionId) :
    Obeys (sparing operation sessionId) (Unproven sessionId asked) (restore asked).run := by
  have before : Obeys (sparing operation sessionId)
      (fun result => result = .ok true → asked ≠ sessionId) (restoredBefore asked).run := by
    apply Obeys.perform_bind_iff.mpr
    constructor
    · trivial
    intro answer _
    cases answer with
    | none =>
        apply Obeys.run_seq (loadActiveRecord_sparing asked)
        · exact fun _ _ => nofun
        intro record read restored same
        have stuck := (read record rfl).2 same
        exact absurd (of_decide_eq_true (Except.ok.inj restored)) stuck.unrestored
    | some active => exact nofun
  apply Obeys.run_seq before
  · exact fun _ _ => nofun
  intro restored known
  cases restored with
  | true => exact fun _ => known rfl
  | false => exact restoreActive_sparing asked

/-! ### After a restart -/

/-- The session is not listed as restored. -/
def Unlisted (sessionId : SessionId) (statuses : List TransactionStatus) : Prop :=
  ⟨sessionId, .restored⟩ ∉ statuses

theorem Unlisted.append {statuses : List TransactionStatus} {state : SessionState}
    (unlisted : Unlisted sessionId statuses)
    (different : asked = sessionId → state ≠ .restored) :
    Unlisted sessionId (statuses ++ [⟨asked, state⟩]) := by
  intro member
  rcases List.mem_append.mp member with member | member
  · exact unlisted member
  · cases List.mem_singleton.mp member
    exact different rfl rfl

theorem recoverOne_sparing {record : SessionRecord} (unrestored : record.session.state ≠ .restored)
    (stuck : record.sessionId = sessionId → Stuck operation record) {recovery : Recovery}
    (unlisted : Unlisted sessionId recovery.statuses) :
    Obeys (sparing operation sessionId) (fun next => Unlisted sessionId next.statuses)
      (recoverOne recovery record) := by
  by_cases same : record.sessionId = sessionId
  · apply Obeys.seq (prepareRestoreState_spares (stuck same)).obeys
    rintro ⟨prepared, left⟩ stuck
    cases prepared with
    | error error => exact unlisted.append fun _ => stuck.unrestored
    | ok done =>
        apply Obeys.seq (restoreRecord_spares stuck).obeys
        rintro ⟨result, last⟩ ⟨⟨error, rfl⟩, stuck⟩
        exact unlisted.append fun _ => stuck.unrestored
  · have draft : record.Drafts record.outline := ⟨rfl, unrestored⟩
    apply Obeys.seq (serves_sparing same (Within.weaken (prepareRestoreState_handles draft)
      fun _ => Call.Concerns.serves))
    rintro ⟨prepared, left⟩ draft
    cases prepared with
    | error error => exact unlisted.append fun own => absurd own same
    | ok done =>
        apply Obeys.seq (serves_sparing same (restoreRecord_attends draft))
        rintro ⟨result, last⟩ _
        cases result with
        | error error => exact unlisted.append fun own => absurd own same
        | ok state => exact unlisted.append fun own => absurd own same

theorem recoverAll_sparing {records : List SessionRecord}
    (good : ∀ record ∈ records, record.session.state ≠ .restored ∧
      (record.sessionId = sessionId → Stuck operation record)) {recovery : Recovery}
    (unlisted : Unlisted sessionId recovery.statuses) :
    Obeys (sparing operation sessionId) (fun next => Unlisted sessionId next.statuses)
      (records.foldlM recoverOne recovery) := by
  induction records generalizing recovery with
  | nil => exact unlisted
  | cons record rest ih =>
      rw [List.forall_mem_cons] at good
      rw [List.foldlM_cons]
      rcases good with ⟨⟨unrestored, stuck⟩, others⟩
      exact Obeys.seq (recoverOne_sparing unrestored stuck unlisted) fun next unlisted =>
        ih others unlisted

/-- The reply of `recover_unfinished`. -/
def Unrecovered (sessionId : SessionId)
    (result : Except SysboostError (List TransactionStatus)) : Prop :=
  ∀ statuses, result = .ok statuses → Unlisted sessionId statuses

theorem finishRecovery_sparing {recovery : Recovery}
    (unlisted : Unlisted sessionId recovery.statuses) (fallback : SessionId) :
    Obeys (sparing operation sessionId) (Unrecovered sessionId)
      (finishRecovery recovery fallback).run := by
  unfold finishRecovery
  split
  · constructor
    · trivial
    · rintro _ _ _ ⟨⟩
      exact unlisted
  · exact ⟨trivial, fun _ _ _ => nofun⟩

theorem recoverLocked_sparing :
    Obeys (sparing operation sessionId) (Unrecovered sessionId) recoverLocked.run := by
  have loaded : Obeys (sparing operation sessionId) (fun result => ∀ records,
      result = .ok (.ok records) → ∀ record ∈ records, record.session.state ≠ .restored ∧
        (record.sessionId = sessionId → Stuck operation record))
      (Fallible.attempt (Fallible.port (Prog.perform Call.loadUnfinished))).run := by
    apply Obeys.perform_bind_iff.mpr
    constructor
    · trivial
    · rintro answer promised records ⟨⟩
      exact promised
  apply Obeys.run_seq loaded
  · exact fun _ _ _ => nofun
  intro answer good
  cases answer with
  | error error => exact ⟨trivial, fun _ _ _ => nofun⟩
  | ok records =>
      have sorted : ∀ record ∈ sortRecords records, record.session.state ≠ .restored ∧
          (record.sessionId = sessionId → Stuck operation record) := by
        intro record member
        exact good records rfl record ((List.mem_insertionSort _).mp member)
      dsimp only
      split
      · constructor
        · trivial
        · rintro _ _ _ ⟨⟩
          exact List.not_mem_nil
      next first rest same =>
        rw [same] at sorted
        have unlisted : Unlisted sessionId (Recovery.mk [] none).statuses := List.not_mem_nil
        apply Obeys.lift_seq (recoverAll_sparing sorted unlisted)
        exact fun recovery unlisted => finishRecovery_sparing unlisted _

theorem recoverUnfinished_sparing :
    Obeys (sparing operation sessionId) (Unrecovered sessionId) recoverUnfinished.run := by
  apply Obeys.perform_bind_iff.mpr
  constructor
  · trivial
  intro active _
  apply Obeys.run_seq (refuseIf_calls _ _).obeys
  · exact fun _ _ _ => nofun
  intro _ _
  have acquired : Calls (sparing operation sessionId) (Fallible.mapErr
      (fun error => (error.withStage .recovery).retryable .retry)
      (Fallible.port (Prog.perform Call.acquire))).run :=
    ⟨trivial, fun _ => trivial⟩
  apply Obeys.run_seq acquired.obeys
  · exact fun _ _ _ => nofun
  · exact fun _ _ => recoverLocked_sparing

theorem prepare_sparing (plan : Plan) :
    Obeys (sparing operation sessionId) (fun _ => True) (prepare plan).run := by
  have prepares : Obeys (preparing (fun _ _ => True) plan True) _ (prepare plan).run :=
    prepare_obeys
  apply (prepares.weaken ?_ ?_).mono fun _ _ => trivial
  · intro request allowed
    cases request with
    | replace record => exact allowed.elim
    | remove other => exact allowed.elim
    | _ => trivial
  · intro request answer promised
    cases request with
    | snapshot mutation now => cases answer <;> trivial
    | loadUnfinished =>
        cases answer with
        | error error => trivial
        | ok records => exact fun _ => trivial
    | _ => trivial

/-- No request declares the session restored. -/
theorem program_sparing (request : Request) :
    Obeys (sparing operation sessionId) (fun reply => ¬Declares request reply sessionId)
      request.program := by
  have unproven {asked : SessionId} {result : Except SysboostError SessionState}
      (unproven : Unproven sessionId asked result) : ∀ state, result = .ok state →
        state = .restored → sessionId ≠ asked := by
    rintro state rfl rfl same
    exact unproven rfl same.symm
  cases request with
  | prepare plan => exact (prepare_sparing plan).seq fun _ _ => id
  | apply asked =>
      apply (apply_sparing asked).seq
      rintro (error | state) known declared
      · exact declared
      · cases state <;> first | exact declared | exact unproven known _ rfl rfl declared
  | restore asked =>
      apply (restore_sparing asked).seq
      rintro (error | state) known declared
      · exact declared
      · cases state <;> first | exact declared | exact unproven known _ rfl rfl declared
  | abortPrepared asked => exact (abortPrepared_sparing asked).seq fun _ _ => id
  | recoverUnfinished =>
      apply recoverUnfinished_sparing.seq
      rintro (error | statuses) known declared
      · exact declared
      · exact known statuses rfl declared

end Sparing

/-! ## Every later run -/

/-- The session has a record, which is stuck, and nothing has been noted since that
calls it restored. -/
structure Arrested (operation : OperationRecord) (sessionId : SessionId) (old : List Entry)
    (world : World) : Prop where
  stored : ¬Fresh world.files sessionId
  stuck : ∀ record ∈ world.files, record.sessionId = sessionId → Stuck operation record
  silent : ∃ newer, world.log = newer ++ old ∧ ∀ entry ∈ newer, ¬entry.Declares sessionId

section Arrested

variable {operation : OperationRecord} {sessionId : SessionId} {old : List Entry} {world : World}

theorem Fresh.of_subset {files fewer : List SessionRecord} (fresh : Fresh files sessionId)
    (subset : ∀ record ∈ fewer, record.sessionId = sessionId → record ∈ files) :
    Fresh fewer sessionId := by
  intro record member same
  exact fresh record (subset record member same) same

/-- A call that does not remove the session leaves its record. -/
theorem StoreLaw.kept {files after : List SessionRecord} {call : Call} {answer : Answer call}
    (law : StoreLaw files after call answer) (other : call ≠ .remove sessionId)
    (stored : ¬Fresh files sessionId) : ¬Fresh after sessionId := by
  rcases law.effect with rfl | ⟨record, rfl, -, rfl⟩ | ⟨record, rfl, rfl⟩ | ⟨removed, rfl, rfl⟩
  · exact stored
  · intro fresh
    exact stored (fresh.of_subset fun record member _ => List.mem_append_left _ member)
  · rw [fresh_substitute]
    exact stored
  · intro fresh
    apply stored
    apply fresh.of_subset
    intro record member same
    apply List.mem_filter.mpr
    constructor
    · exact member
    · rw [decide_eq_true_eq, same]
      rintro rfl
      exact other rfl

theorem Arrested.note (arrested : Arrested operation sessionId old world) {entry : Entry}
    (silent : ¬entry.Declares sessionId) : Arrested operation sessionId old (world.note entry) where
  stored := arrested.stored
  stuck := arrested.stuck
  silent := by
    rcases arrested.silent with ⟨newer, log, quiet⟩
    refine ⟨entry :: newer, congrArg (entry :: ·) log, ?_⟩
    rw [List.forall_mem_cons]
    exact ⟨silent, quiet⟩

/-- A permitted call keeps the session arrested, and its answer is as promised. -/
theorem Arrested.step {after : World} {engine : EngineId} {call : Call} {answer : Answer call}
    (arrested : Arrested operation sessionId old world)
    (allowed : (sparing operation sessionId).allowed call) (permitted : Permitted world.log call)
    (law : Law engine world call answer after) :
    (sparing operation sessionId).promised call answer ∧
      Arrested operation sessionId old after := by
  constructor
  · cases call with
    | load asked =>
        cases answer with
        | error error => trivial
        | ok record =>
            rcases law.store with ⟨-, member, own⟩
            exact ⟨own, fun same => arrested.stuck record member (own.trans same)⟩
    | loadUnfinished =>
        cases answer with
        | error error => trivial
        | ok records =>
            intro record member
            have listed := law.store.2.mem_iff.mp member
            rw [unfinished, List.mem_filter, decide_eq_true_eq] at listed
            exact ⟨listed.2, arrested.stuck record listed.1⟩
    | _ => trivial
  · constructor
    · apply law.store.kept _ arrested.stored
      rintro rfl
      exact allowed rfl
    · intro record member own
      rcases law.store.origin member with known | ⟨rfl, fresh⟩ | rfl
      · exact arrested.stuck record known own
      · rw [own] at fresh
        exact absurd fresh arrested.stored
      · exact allowed own
    · rcases law.log with ⟨changed, -, log⟩
      rcases arrested.silent with ⟨newer, same, quiet⟩
      refine ⟨_ :: newer, by rw [log, same, List.cons_append], ?_⟩
      rw [List.forall_mem_cons]
      refine ⟨?_, quiet⟩
      intro declares
      cases call with
      | create record =>
          rcases permitted with ⟨creator, plan, now, -, built⟩
          rw [Entry.Declares, built.session] at declares
          cases declares.1
      | replace record => exact (allowed declares.2).unrestored declares.1
      | _ => exact declares

/-- Every run keeps the session arrested. -/
theorem arrested_forever {state : Run} (coherent : Coherent world)
    (arrested : Arrested operation sessionId old world)
    (later : (service Law).SerialReachable world state) :
    Arrested operation sessionId old state.world := by
  have good : (service Law).SerialGood
      (fun world => Coherent world ∧ Arrested operation sessionId old world)
      (fun _ world call => Permitted world.log call) state := by
    apply later.good ⟨coherent, arrested⟩
    · rintro engine request world ⟨coherent, arrested⟩
      rw [Service.serialGood_serving_iff]
      have conducts : Conducts engine (fun reply after => Coherent after ∧
          Coherent ((service Law).reply engine request reply after)) request.program
          (world.note (.requested engine request)) :=
        request_conducts coherent.issue List.mem_cons_self
      have spares : Alone
          (fun world call answer after =>
            (Coherent world ∧ Permitted world.log call) ∧ Law engine world call answer after)
          (fun world call => (sparing operation sessionId).allowed call ∧
            Arrested operation sessionId old world)
          (fun reply after => ¬Declares request reply sessionId ∧
            Arrested operation sessionId old after) request.program
          (world.note (.requested engine request)) := by
        apply (program_sparing request).alone _ (arrested.note id)
        exact fun _ _ _ _ arrested allowed law => arrested.step allowed law.1.2 law.2
      refine Safe.mono (Safe.weaken (conducts.and (conducts.assume spares)) ?_ ?_) ?_
      · exact fun _ _ _ _ _ law => law
      · exact fun _ _ guarded => ⟨⟨guarded.1.1, guarded.2.2⟩, guarded.1.2⟩
      · rintro reply after ⟨⟨coherent, replied⟩, silent, arrested⟩
        exact ⟨⟨coherent, arrested⟩, replied, arrested.note silent⟩
    · rintro engine world ⟨coherent, arrested⟩
      exact ⟨coherent.crash engine, arrested.stored, arrested.stuck, arrested.silent⟩
  exact good.invariant.2

end Arrested

/-- A cut off operation of a possible record. -/
theorem Possible.stuck {log : List Entry} {record : SessionRecord} {operation : OperationRecord}
    (possible : Possible log record) (member : operation ∈ record.operations)
    (cutOff : CutOff operation) : Stuck operation record := by
  have lists := SessionRecord.lists_of_nodup possible.nodup member
  constructor
  · exact cutOff
  · exact lists
  · intro restored
    have proven := possible.restorationProven restored
    rw [cutOff.unproven member] at proven
    cases proven
  · intro durable
    have intended := possible.intended durable operation member
    rcases cutOff with ⟨state, -⟩ | ⟨state, -⟩
    · rw [state] at intended
      cases intended
    · rw [state] at intended
      cases intended

/-- **Cut off for ever.**  Once an engine has ended between the write that begins an
apply or a restore and the write of its result, no later run, whatever requests it
serves and whatever its ports answer, changes this operation again, or calls the
session restored. -/
theorem cut_off_forever {world : World} (reachable : Reachable ⟨world, none⟩)
    {record : SessionRecord} (stored : record ∈ world.files) {operation : OperationRecord}
    (member : operation ∈ record.operations) (cutOff : CutOff operation) {state : Run}
    (later : (service Law).SerialReachable world state) :
    (∃ left ∈ state.world.files, left.sessionId = record.sessionId ∧
      operation ∈ left.operations ∧ left.session.state ≠ .restored) ∧
    ∃ newer, state.world.log = newer ++ world.log ∧
      ∀ entry ∈ newer, ¬entry.Declares record.sessionId := by
  have coherent := reachable.coherent
  have stuck := (coherent.possible record stored).stuck member cutOff
  have arrested : Arrested operation record.sessionId world.log world := by
    constructor
    · exact fun fresh => fresh record stored rfl
    · intro other known same
      rw [coherent.oneEach.eq known stored same]
      exact stuck
    · refine ⟨[], (List.nil_append _).symm, ?_⟩
      intro entry impossible
      cases impossible
  have left := arrested_forever coherent arrested later
  refine ⟨?_, left.silent⟩
  have present := left.stored
  simp only [Fresh, not_forall, not_not] at present
  rcases present with ⟨last, known, own⟩
  have stuck := left.stuck last known own
  exact ⟨last, known, own, stuck.lists.mem, stuck.unrestored⟩

/-- An engine that ends after it has read its target back, in the middle of a restore. -/
def interruptedWorld : World :=
  steadyKit.interrupt 0 (.restore steadyKit.sessionId) 8 (appliedWorld steadyKit)

theorem interruptedWorld_reachable : Reachable ⟨interruptedWorld, none⟩ :=
  steadyKit.reachable_interrupt (appliedWorld_reachable steadyKit) 0 _ 8

theorem interruptedWorld_cutOff :
    ∃ record ∈ interruptedWorld.files, ∃ operation ∈ record.operations, CutOff operation := by
  decide +kernel

/-- A recovery by another engine, with ports that never fail. -/
theorem cut_off_forever_interrupted :
    ∃ record ∈ interruptedWorld.files, ∃ operation ∈ record.operations,
      ∃ left ∈ (steadyKit.serve 1 .recoverUnfinished interruptedWorld).files,
        left.sessionId = record.sessionId ∧ operation ∈ left.operations ∧
          left.session.state ≠ .restored := by
  rcases interruptedWorld_cutOff with ⟨record, stored, operation, member, cutOff⟩
  have later : (service Law).SerialReachable interruptedWorld
      ⟨steadyKit.serve 1 .recoverUnfinished interruptedWorld, none⟩ :=
    Service.SerialReachable.serve .refl (Executes.exec (fun _ => steadyKit.law) _ _)
  have left := cut_off_forever interruptedWorld_reachable stored member cutOff later
  exact ⟨record, stored, operation, member, left.1⟩

end Sysboost.Platform
