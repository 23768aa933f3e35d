import Sysboost.Platform.Coherence

/-!
# The conduct of a restore

Each function is followed through all answers of its ports: it makes permitted
calls only, and the record it leaves is possible again.
-/

namespace Sysboost.Platform

open Sysboost.Core Interaction

/-- The program makes permitted calls in coherent worlds, and its result
satisfies `post`. -/
abbrev Conducts {α : Type} (engine : EngineId) (post : α → World → Prop) (program : Engine α)
    (world : World) : Prop :=
  Alone (Law engine) (fun world call => Coherent world ∧ Permitted world.log call) post program
    world

/-! ## Later worlds -/

/-- A coherent world reached from an earlier one without an apply. -/
structure Later (before after : World) : Prop where
  coherent : Coherent after
  log : ∃ newer, after.log = newer ++ before.log ∧ ∀ entry ∈ newer, entry.Quiet

/-- Facts about the log that later entries other than an apply do not change. -/
def Lasting (property : List Entry → Prop) : Prop :=
  ∀ log entry, entry.Quiet → property log → property (entry :: log)

namespace Later

variable {before middle after : World}

theorem refl {world : World} (coherent : Coherent world) : Later world world :=
  ⟨coherent, [], rfl, by simp⟩

theorem trans (first : Later before middle) (second : Later middle after) :
    Later before after := by
  obtain ⟨newer, log, quiet⟩ := first.log
  obtain ⟨newest, log', quiet'⟩ := second.log
  refine ⟨second.coherent, newest ++ newer, by rw [log', log, List.append_assoc], ?_⟩
  intro entry member
  rcases List.mem_append.mp member with member | member
  · exact quiet' entry member
  · exact quiet entry member

theorem lasts (later : Later before after) (property : List Entry → Prop)
    (lasting : Lasting property) (holds : property before.log) : property after.log := by
  obtain ⟨newer, log, quiet⟩ := later.log
  rw [log]
  clear log
  induction newer with
  | nil => exact holds
  | cons entry newer ih =>
      exact lasting _ _ (quiet entry (by simp))
        (ih fun other member => quiet other (by simp [member]))

theorem possible (later : Later before after) {record : SessionRecord}
    (possible : Possible before.log record) : Possible after.log record :=
  later.lasts (Possible · record)
    (fun log _ quiet possible => possible.grow (quiet.admits log record)) possible

theorem accounted (later : Later before after) {sessionId : SessionId}
    (accounted : Accounted before.log sessionId) : Accounted after.log sessionId :=
  later.lasts (Accounted · sessionId)
    (fun _ _ quiet accounted => accounted.grow (quiet sessionId)) accounted

theorem reported (later : Later before after) {error : SysboostError}
    (reported : Reported before.log error) : Reported after.log error := by
  refine later.lasts (Reported · error) (fun log entry _ reported => ?_) reported
  rcases reported with clean | ⟨other, member, said⟩
  · exact .inl clean
  · exact .inr ⟨other, List.mem_cons_of_mem _ member, said⟩

theorem unapplied (later : Later before after) {sessionId : SessionId}
    {mutation : PlannedMutation} (unapplied : Unapplied before.log sessionId mutation) :
    Unapplied after.log sessionId mutation := by
  refine later.lasts (Unapplied · sessionId mutation) (fun log entry quiet unapplied => ?_)
    unapplied
  intro other member snapshot
  rcases List.mem_cons.mp member with rfl | member
  · exact quiet sessionId mutation snapshot
  · exact unapplied other member snapshot

end Later

/-- One port call other than an apply. -/
theorem conducts_port {engine : EngineId} {world : World} {call : Call}
    (coherent : Coherent world) (permitted : Permitted world.log call)
    (other : ∀ sessionId mutation snapshot, call ≠ .apply sessionId mutation snapshot) :
    Conducts engine (fun answer after => Later world after ∧ Law engine world call answer after)
      (Prog.perform call) world := by
  refine Alone.call_iff.mpr ⟨⟨coherent, permitted⟩, fun answer after law => ?_⟩
  refine Alone.ret_iff.mpr ⟨⟨law.coherent coherent permitted, ?_⟩, law⟩
  obtain ⟨changed, -, log⟩ := law.log
  exact ⟨[_], log, by simpa using quiet_port other⟩

/-! ## Helpers of the engine -/

@[simp]
theorem contextual_message (error : SysboostError) (stage : Stage) (sessionId : Option SessionId)
    (mutationId : Option MutationId) :
    (contextual error stage sessionId mutationId).message = error.message := by
  cases sessionId <;> cases mutationId <;> rfl

@[simp]
theorem contextual_retryability (error : SysboostError) (stage : Stage)
    (sessionId : Option SessionId) (mutationId : Option MutationId) :
    (contextual error stage sessionId mutationId).retryability = error.retryability := by
  cases sessionId <;> cases mutationId <;> rfl

/-- The message of a port's error is reported once the answer is in the log. -/
theorem reported_contextual {log older : List Entry} {entry : Entry} {error : SysboostError}
    {stage : Stage} {sessionId : Option SessionId} {mutationId : Option MutationId}
    (newest : log = entry :: older) (said : entry.Says error.message) :
    Reported log (contextual error stage sessionId mutationId) :=
  .inr ⟨entry, by simp [newest], by simpa using said⟩

theorem reported_operationError {log : List Entry} {code : ErrorCode} {message : String}
    {stage : Stage} {sessionId : SessionId} {mutationId : MutationId} (clean : CleanText message) :
    Reported log (operationError code message stage sessionId mutationId) :=
  .inl clean

theorem now_conducts {engine : EngineId} {world : World} {stage : Stage}
    (coherent : Coherent world) :
    Conducts engine (fun _ after => Later world after) (now stage).run world :=
  Alone.seq (conducts_port coherent trivial (by simp)) fun _ _ known => Alone.ret_iff.mpr known.1

theorem persist_conducts {engine : EngineId} {world : World} {record : SessionRecord}
    {stage : Stage} (coherent : Coherent world) (possible : Possible world.log record) :
    Conducts engine (fun result after => Later world after ∧
        match result with
        | .ok () => Written after.log record
        | .error error => Reported after.log error)
      (persist record stage).run world := by
  refine Alone.seq (conducts_port coherent possible (by simp)) fun answer after known => ?_
  obtain ⟨later, law⟩ := known
  obtain ⟨changed, -, log⟩ := law.log
  refine Alone.ret_iff.mpr ⟨later, ?_⟩
  rcases answer with error | done
  · exact reported_contextual log rfl
  · exact ⟨engine, changed, world.log, log⟩

theorem releaseIfRestored_conducts {engine : EngineId} {world : World} {sessionId : SessionId}
    (coherent : Coherent world) :
    Conducts engine (fun _ after => Later world after) (releaseIfRestored sessionId) world := by
  refine Alone.seq (conducts_port coherent trivial (by simp)) fun answer after known => ?_
  obtain ⟨later, -⟩ := known
  rcases answer with _ | active
  · exact Alone.ret_iff.mpr later
  by_cases same : active = sessionId
  · simp only [same, if_true]
    have permitted : Permitted after.log .release := trivial
    exact (conducts_port later.coherent permitted (by simp)).mono
      fun _ final known => later.trans known.1
  · simp only [same, if_false]
    exact Alone.ret_iff.mpr later

/-! ## One operation of the pass -/

theorem Possible.finds {log : List Entry} {record : SessionRecord} (possible : Possible log record)
    {front back : List OperationRecord} {operation : OperationRecord}
    (split : record.operations = front ++ operation :: back) :
    record.Finds front operation back := by
  refine ⟨split, fun other member same => ?_⟩
  have nodup := possible.nodup
  rw [split, List.map_append, List.map_cons, List.nodup_append] at nodup
  exact nodup.2.2 _ (List.mem_map_of_mem member) _ (by simp) same

/-- A session being restored. -/
def Restorative (state : SessionState) : Prop :=
  state = .restoring ∨ state = .rollingBack

theorem Restorative.busy {state : SessionState} (restorative : Restorative state) : Busy state :=
  .inr restorative

theorem Restorative.degrades {state : SessionState} (restorative : Restorative state) :
    state.canTransition .degraded = true := by
  rcases restorative with rfl | rfl <;> rfl

theorem Restorative.restores {state : SessionState} (restorative : Restorative state) :
    state.canTransition .restored = true := by
  rcases restorative with rfl | rfl <;> rfl

/-- What the loop of `restore_record` keeps. -/
structure PassGood (sessionId : SessionId) (world : World) (pass : RestorePass) : Prop where
  coherent : Coherent world
  possible : Possible world.log pass.record
  session : pass.record.sessionId = sessionId
  restorative : Restorative pass.record.session.state
  reported : ∀ error ∈ pass.failures, Reported world.log error

namespace PassGood

variable {sessionId : SessionId} {world after : World} {pass : RestorePass}
  {error : SysboostError}

theorem later (good : PassGood sessionId world pass) (later : Later world after) :
    PassGood sessionId after pass :=
  ⟨later.coherent, later.possible good.possible, good.session, good.restorative,
    fun error member => later.reported (good.reported error member)⟩

theorem edit (good : PassGood sessionId world pass) {record : SessionRecord}
    (edit : Edit world.log pass.record record) (restorative : Restorative record.session.state) :
    PassGood sessionId world { pass with record } :=
  ⟨good.coherent, good.possible.edit edit, edit.sessionId.trans good.session, restorative,
    good.reported⟩

theorem push (good : PassGood sessionId world pass) (reported : Reported world.log error) :
    PassGood sessionId world (pass.push error) := by
  refine ⟨good.coherent, good.possible, good.session, good.restorative, fun other member => ?_⟩
  rcases List.mem_append.mp member with member | member
  · exact good.reported other member
  · exact List.mem_singleton.mp member ▸ reported

theorem pushUncertain (good : PassGood sessionId world pass)
    (reported : Reported world.log error) :
    PassGood sessionId world (pass.pushUncertain error) :=
  ⟨good.coherent, good.possible, good.session, good.restorative, (good.push reported).reported⟩

theorem recordUncertain (good : PassGood sessionId world pass)
    (reported : Reported world.log error) :
    PassGood sessionId world (pass.recordUncertain error) :=
  (good.edit (.failure reported) good.restorative).pushUncertain reported

theorem place (good : PassGood sessionId world pass) {front back : List OperationRecord}
    {operation operation' : OperationRecord}
    (finds : pass.record.Finds front operation back)
    (step : OperationStep world.log sessionId operation operation') :
    PassGood sessionId world { pass with record := pass.record.place front operation' back } :=
  good.edit (.operation good.restorative.busy finds.split (good.session ▸ step))
    good.restorative

end PassGood

section Pass

variable {engine : EngineId} {sessionId : SessionId} {world : World} {pass : RestorePass}
  {front back : List OperationRecord} {operation : OperationRecord} {snapshot : Snapshot}

theorem persistPass_conducts (good : PassGood sessionId world pass) :
    Conducts engine (fun left after => Later world after ∧ PassGood sessionId after left ∧
      left.record.operations = pass.record.operations) (persistPass pass) world := by
  refine Alone.seq (persist_conducts good.coherent good.possible) fun result after known => ?_
  obtain ⟨later, outcome⟩ := known
  rcases result with error | done
  · exact Alone.ret_iff.mpr ⟨later, (good.later later).recordUncertain outcome, rfl⟩
  · exact Alone.ret_iff.mpr ⟨later, good.later later, rfl⟩

theorem settleOperation_conducts {receipt : RestoreReceipt} {entry : Entry} {older : List Entry}
    (good : PassGood sessionId world pass) (finds : pass.record.Finds front operation back)
    (restoring : operation.state = .restoring) (has : operation.snapshot = some snapshot)
    (own : receipt.mutationId = operation.mutation.mutationId)
    (verified : receipt.verified = true)
    (original : receipt.restoredFingerprint = snapshot.originalFingerprint)
    (newest : world.log = entry :: older)
    (proves : entry.Proves sessionId operation.mutation snapshot) :
    Conducts engine (fun left after => Later world after ∧ PassGood sessionId after left)
      (settleOperation pass operation.mutation.mutationId receipt) world := by
  unfold settleOperation
  rw [finds.recordRestore own verified restoring]
  have settled := good.place finds (.prove restoring has own verified original newest proves)
  exact (persistPass_conducts settled).mono fun left after known => ⟨known.1, known.2.1⟩

theorem failOperationRestore_conducts {error : SysboostError}
    (good : PassGood sessionId world pass) (finds : pass.record.Finds front operation back)
    (restoring : operation.state = .restoring) (reported : Reported world.log error) :
    Conducts engine (fun left after => Later world after ∧ PassGood sessionId after left)
      (failOperationRestore pass operation.mutation.mutationId error) world := by
  have failed := (good.place finds (.failRestore restoring reported)).edit
    (.failure reported) good.restorative
  unfold failOperationRestore SessionRecord.failRestore
  rw [finds.failTo (by rw [restoring]; rfl) (by simp [restoring])]
  refine Alone.seq (persist_conducts failed.coherent failed.possible) fun result after known => ?_
  exact Alone.ret_iff.mpr ⟨known.1, (failed.later known.1).push (known.1.reported reported)⟩

theorem compareAndRestore_conducts {ownership : StateFingerprint}
    (good : PassGood sessionId world pass) (finds : pass.record.Finds front operation back)
    (restoring : operation.state = .restoring) (has : operation.snapshot = some snapshot) :
    Conducts engine (fun left after => Later world after ∧ PassGood sessionId after left)
      (compareAndRestore sessionId pass operation.mutation snapshot ownership) world := by
  have fail {world' : World} (later : Later world world') {error : SysboostError}
      (reported : Reported world'.log error) :
      Conducts engine (fun left after => Later world after ∧ PassGood sessionId after left)
        (failOperationRestore pass operation.mutation.mutationId error) world' :=
    (failOperationRestore_conducts (good.later later) finds restoring reported).mono
      fun left after known => ⟨later.trans known.1, known.2⟩
  have settle {world' : World} (later : Later world world') {receipt : RestoreReceipt}
      {entry : Entry} {older : List Entry}
      (own : receipt.mutationId = operation.mutation.mutationId)
      (verified : receipt.verified = true)
      (original : receipt.restoredFingerprint = snapshot.originalFingerprint)
      (newest : world'.log = entry :: older)
      (proves : entry.Proves sessionId operation.mutation snapshot) :
      Conducts engine (fun left after => Later world after ∧ PassGood sessionId after left)
        (settleOperation pass operation.mutation.mutationId receipt) world' :=
    (settleOperation_conducts (good.later later) finds restoring has own verified original newest
      proves).mono fun left after known => ⟨later.trans known.1, known.2⟩
  unfold compareAndRestore
  refine Alone.seq (conducts_port good.coherent trivial (by simp)) fun answer read known => ?_
  obtain ⟨laterRead, law⟩ := known
  obtain ⟨changed, -, log⟩ := law.log
  rcases answer with error | observed
  · exact fail laterRead (reported_contextual log rfl)
  by_cases original : observed = snapshot.originalFingerprint
  · simp only [original, if_true]
    exact settle laterRead rfl rfl rfl log ⟨rfl, rfl, original⟩
  by_cases owned : observed = ownership
  · subst owned
    simp only [original, ne_eq, not_true_eq_false, if_false]
    refine Alone.seq (conducts_port laterRead.coherent trivial (by simp))
      fun answer written known => ?_
    obtain ⟨laterWritten, law⟩ := known
    obtain ⟨changed', -, log'⟩ := law.log
    have later := laterRead.trans laterWritten
    rcases answer with error | receipt
    · exact fail later (reported_contextual log' rfl)
    by_cases proof : receipt.mutationId = operation.mutation.mutationId ∧
        receipt.verified = true ∧ receipt.restoredFingerprint = snapshot.originalFingerprint
    · simp only [proof]
      exact settle later proof.1 proof.2.1 proof.2.2 log' ⟨rfl, rfl, proof⟩
    · simp only [proof, if_false]
      refine fail later (reported_operationError ?_)
      decide
  · simp only [original, owned, ne_eq, not_false_eq_true, if_true, if_false]
    refine fail laterRead (reported_operationError ?_)
    decide

theorem restoreOperation_conducts (index : Nat) (good : PassGood sessionId world pass) :
    Conducts engine (fun left after => Later world after ∧ PassGood sessionId after left)
      (restoreOperation sessionId pass index) world := by
  have here := Later.refl good.coherent
  unfold restoreOperation
  rcases found : pass.record.operations[index]? with _ | operation
  · exact Alone.ret_iff.mpr ⟨here, good⟩
  obtain ⟨front, back, split⟩ := List.append_of_mem (List.mem_of_getElem? found)
  have finds := good.possible.finds split
  have formed := good.possible.formed operation (by simp [split])
  by_cases restored : operation.state = .restored
  · simp only [restored, if_true]
    exact Alone.ret_iff.mpr ⟨here, good⟩
  simp only [restored, if_false]
  obtain ⟨snapshot, has, -⟩ := formed.snapshot
  rcases received : operation.applyReceipt with _ | receipt
  · by_cases applying : operation.state = .applying
    · simp only [applying, if_true]
      exact Alone.ret_iff.mpr ⟨here, good.recordUncertain (reported_operationError (by decide))⟩
    · simp only [applying, if_false]
      exact Alone.ret_iff.mpr ⟨here, good⟩
  · simp only [has]
    rcases legal : operation.state.canTransition .restoring with _ | _
    · rw [finds.beginRestoreOperation_illegal restored legal]
      refine Alone.ret_iff.mpr ⟨here, good.pushUncertain (.inl ?_)⟩
      show CleanText "illegal operation state transition"
      decide
    · rw [finds.beginRestoreOperation legal]
      have begun := good.place finds (.beginRestore (by simp [received]) legal)
      refine Alone.seq (persistPass_conducts begun) fun left after known => ?_
      obtain ⟨later, good', same⟩ := known
      have finds' : left.record.Finds front { operation with state := .restoring } back :=
        ⟨same, finds.others⟩
      exact (compareAndRestore_conducts good' finds' rfl has).mono
        fun last final known => ⟨later.trans known.1, known.2⟩

theorem restoreOperations_conducts (indices : List Nat) (good : PassGood sessionId world pass) :
    Conducts engine (fun left after => Later world after ∧ PassGood sessionId after left)
      (restoreOperations sessionId pass indices) world := by
  induction indices generalizing world pass with
  | nil => exact Alone.ret_iff.mpr ⟨Later.refl good.coherent, good⟩
  | cons index rest ih =>
      refine Alone.seq (restoreOperation_conducts index good) fun left after known => ?_
      exact (ih known.2).mono fun last final later => ⟨known.1.trans later.1, later.2⟩

/-! ## The end of the pass -/

theorem PassGood.recordFailures (good : PassGood sessionId world pass)
    (failures : List SysboostError) (reported : ∀ error ∈ failures, Reported world.log error) :
    PassGood sessionId world
      { pass with record := failures.foldl SessionRecord.recordFailure pass.record } := by
  induction failures generalizing pass with
  | nil => exact good
  | cons error rest ih =>
      have noted := good.edit (.failure (reported error (by simp))) good.restorative
      exact ih noted fun other member => reported other (by simp [member])

/-- The record a failed pass leaves. -/
def degraded (pass : RestorePass) (at_ : Timestamp) : SessionRecord :=
  let record := (pass.failures.foldl SessionRecord.recordFailure pass.record).moved .degraded at_
    "one or more originals remain unproven"
  if pass.uncertain then
    record.moved .recoveryPending at_ "crash or durability boundary left recovery uncertain"
  else record

theorem degrade_eq (restorative : Restorative pass.record.session.state) (at_ : Timestamp) :
    degrade pass at_ = (.ok (), degraded pass at_) := by
  have noted : (pass.failures.foldl SessionRecord.recordFailure pass.record).session =
      pass.record.session := by rw [SessionRecord.foldl_recordFailure]
  have legal := restorative.degrades
  rw [← noted] at restorative legal
  have resumes (record : SessionRecord) (reason : String) :
      (record.moved .degraded at_ reason).session.state.canTransition .recoveryPending = true :=
    rfl
  have reason : SessionRecord.GoodReason "one or more originals remain unproven" := by decide
  have reason' : SessionRecord.GoodReason
    "crash or durability boundary left recovery uncertain" := by decide
  unfold degrade degraded
  simp only [restorative.imp id id, if_true, SessionRecord.transition_of_legal reason legal]
  by_cases uncertain : pass.uncertain = true
  · simp only [uncertain, if_true, SessionRecord.transition_of_legal reason' (resumes _ _)]
  · simp only [uncertain, if_false, Bool.false_eq_true]

theorem degraded_possible (good : PassGood sessionId world pass) (at_ : Timestamp) :
    Possible world.log (degraded pass at_) ∧ (degraded pass at_).sessionId = sessionId := by
  have noted := good.recordFailures pass.failures good.reported
  have first := noted.possible.move at_ "one or more originals remain unproven" (by decide)
    noted.restorative.degrades (by simp)
  unfold degraded
  by_cases uncertain : pass.uncertain = true
  · simp only [uncertain, if_true]
    exact ⟨first.move at_ "crash or durability boundary left recovery uncertain" (by decide) rfl
      (by simp), noted.session⟩
  · simp only [uncertain, if_false, Bool.false_eq_true]
    exact ⟨first, noted.session⟩

/-- What a restore tells its caller. -/
structure Restored (sessionId : SessionId) (world : World)
    (result : Except SysboostError SessionState × SessionRecord) : Prop where
  possible : Possible world.log result.2
  session : result.2.sessionId = sessionId
  restored : ∀ state, result.1 = .ok state → state = .restored ∧ result.2.session.state = .restored

theorem finishRestore_conducts (good : PassGood sessionId world pass) (at_ : Timestamp) :
    Conducts engine (fun result after => Later world after ∧ Restored sessionId after result)
      (finishRestore sessionId pass at_) world := by
  unfold finishRestore
  by_cases complete :
      (pass.failures.isEmpty && pass.record.restorationProven && !pass.uncertain) = true
  · simp only [Bool.and_eq_true] at complete
    have unrestored : pass.record.session.state ≠ .restored := by
      rcases good.restorative with state | state <;> simp [state]
    have moved := good.possible.move at_ "all captured originals verified" (by decide)
      good.restorative.restores fun _ => complete.1.2
    have reason : SessionRecord.GoodReason "all captured originals verified" := by decide
    rw [if_pos (by simpa using complete)]
    simp only [ne_eq, unrestored, not_false_eq_true, if_true,
      SessionRecord.transition_of_legal reason good.restorative.restores]
    refine Alone.seq (persist_conducts good.coherent moved) fun result after known => ?_
    rcases result with error | done
    · exact Alone.ret_iff.mpr
        ⟨known.1, known.1.possible moved, good.session, by simp⟩
    · refine Alone.seq (releaseIfRestored_conducts known.1.coherent) fun _ final later => ?_
      refine Alone.ret_iff.mpr
        ⟨known.1.trans later, (known.1.trans later).possible moved, good.session, ?_⟩
      rintro state ⟨⟩
      exact ⟨rfl, rfl⟩
  · rw [if_neg complete]
    simp only [degrade_eq good.restorative]
    obtain ⟨possible, session⟩ := degraded_possible good at_
    refine Alone.seq (persist_conducts good.coherent possible) fun result after known => ?_
    exact Alone.ret_iff.mpr ⟨known.1, known.1.possible possible, session, by simp⟩

end Pass

/-! ## The whole restore -/

theorem restoreRecord_conducts {engine : EngineId} {world : World} {record : SessionRecord}
    (coherent : Coherent world) (possible : Possible world.log record)
    (restorative : Restorative record.session.state) :
    Conducts engine
      (fun result after => Later world after ∧ Restored record.sessionId after result)
      (restoreRecord record) world := by
  unfold restoreRecord
  refine Alone.seq (now_conducts coherent) fun result started later => ?_
  have good : PassGood record.sessionId started ⟨record, [], false⟩ :=
    ⟨later.coherent, later.possible possible, rfl, restorative, by simp⟩
  refine Alone.seq (restoreOperations_conducts _ good) fun pass middle known => ?_
  exact (finishRestore_conducts known.2 _).mono fun result final ended =>
    ⟨later.trans (known.1.trans ended.1), ended.2⟩

end Sysboost.Platform
