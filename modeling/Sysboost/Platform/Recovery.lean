import Sysboost.Platform.CutOff
import Sysboost.Platform.Idempotence
import Sysboost.Platform.RestoreTrace

/-!
# When a recovery completes

After a crash a fresh engine replays what is unfinished.  With ports that succeed,
and with targets that read as their original or as the value the session gave them,
it brings every session to an end exactly when no operation was cut off.
-/

namespace Sysboost.Platform

open Sysboost.Core Interaction

/-! ## Ports that succeed -/

/-- The value that a session has given to the target of a mutation. -/
def Owned (files : List SessionRecord) (sessionId : SessionId) (mutation : PlannedMutation)
    (value : StateFingerprint) : Prop :=
  ∃ record ∈ files, record.sessionId = sessionId ∧ ∃ operation ∈ record.operations,
    operation.mutation = mutation ∧
      operation.applyReceipt.map ApplyReceipt.ownershipFingerprint = some value

instance (files : List SessionRecord) (sessionId : SessionId) (mutation : PlannedMutation)
    (value : StateFingerprint) : Decidable (Owned files sessionId mutation value) :=
  inferInstanceAs (Decidable (∃ record ∈ files, _ ∧ ∃ operation ∈ record.operations, _ ∧ _))

/-- The store, the clock, the lock and the backend succeed, and every target reads
as its original or as the value that the session owns. -/
def Succeeds (files : List SessionRecord) : (call : Call) → Answer call → Bool
  | .now, answer => answer.toBool
  | .acquire, answer => answer.toBool
  | .replace _, answer => answer.toBool
  | .loadUnfinished, answer => answer.toBool
  | .verify _ _ _ _ _, .error _ => false
  | .verify sessionId _ mutation original _, .ok observed =>
      observed = original ∨ Owned files sessionId mutation observed
  | .restore _ mutation snapshot _, answer =>
      answer = .ok ⟨mutation.mutationId, snapshot.originalFingerprint, true⟩
  | _, _ => true

/-- What the calls of a recovery do in a world with such ports. -/
def Recovering (files : List SessionRecord) (engine : EngineId) : Environment Answer World :=
  fun before call answer after => Law engine before call answer after ∧
    Succeeds files call answer = true

/-! ## Operations -/

/-- The original of the operation is proven, or it was never applied. -/
def Healed (operation : OperationRecord) : Prop :=
  operation.state = .restored ∨ operation.applyReceipt = none ∧
    operation.state ≠ .applying ∧ operation.state ≠ .restoreFailed

theorem restorationProven_of_healed {record : SessionRecord}
    (healed : ∀ operation ∈ record.operations, Healed operation) :
    record.restorationProven = true := by
  apply List.all_eq_true.mpr
  intro operation member
  rcases healed operation member with restored | ⟨unreceived, applying, failed⟩
  · simp [OperationRecord.needsRestore, restored]
  · simp [OperationRecord.needsRestore, unreceived, applying, failed]

/-- A pass can restore the operation, or need not. -/
structure Curable (files : List SessionRecord) (sessionId : SessionId)
    (operation : OperationRecord) : Prop where
  formed : Formed operation
  applying : operation.state ≠ .applying
  restoring : operation.state ≠ .restoring
  owned : ∀ receipt, operation.applyReceipt = some receipt → ∀ value,
    Owned files sessionId operation.mutation value → value = receipt.ownershipFingerprint

namespace Curable

variable {files : List SessionRecord} {sessionId : SessionId} {operation : OperationRecord}

theorem healed (curable : Curable files sessionId operation)
    (unreceived : operation.applyReceipt = none) : Healed operation := by
  refine .inr ⟨unreceived, curable.applying, ?_⟩
  intro failed
  have shaped := curable.formed.shaped
  simp [Shaped, failed, unreceived] at shaped

theorem legal (curable : Curable files sessionId operation) {receipt : ApplyReceipt}
    (received : operation.applyReceipt = some receipt) (unrestored : operation.state ≠ .restored) :
    operation.state.canTransition .restoring = true := by
  have shaped := curable.formed.shaped
  cases state : operation.state with
  | planned => simp [Shaped, state] at shaped
  | snapshotted => simp [Shaped, state] at shaped
  | intentRecorded => simp [Shaped, state, received] at shaped
  | applying => exact absurd state curable.applying
  | restoring => exact absurd state curable.restoring
  | restored => exact absurd state unrestored
  | _ => rfl

end Curable

/-! ## One pass -/

/-- The calls of a pass over a record of the session, with ports that succeed. -/
def healing (files : List SessionRecord) (sessionId : SessionId) : Terms Answer where
  allowed
    | .replace record => record.sessionId = sessionId
    | .now | .active | .release | .verify _ _ _ _ _ | .restore _ _ _ _ => True
    | _ => False
  promised call answer := Succeeds files call answer = true

/-- What a pass over one operation leaves. -/
structure Heals (front : List OperationRecord) (operation : OperationRecord)
    (back : List OperationRecord) (pass left : RestorePass) : Prop where
  failures : left.failures = []
  certain : left.uncertain = false
  session : left.record.session = pass.record.session
  operations : ∃ operation', left.record.operations = front ++ operation' :: back ∧
    operation'.mutation = operation.mutation ∧ Healed operation'

section Pass

variable {files : List SessionRecord} {sessionId : SessionId} {pass : RestorePass}
  {front back : List OperationRecord} {operation : OperationRecord}

theorem persist_heals {record : SessionRecord} (own : record.sessionId = sessionId)
    (stage : Stage) :
    Obeys (healing files sessionId) (fun result => result = .ok ()) (persist record stage).run := by
  constructor
  · exact own
  · rintro (error | done) succeeds
    · cases succeeds
    · rfl

theorem persistPass_heals (own : pass.record.sessionId = sessionId) :
    Obeys (healing files sessionId) (fun left => left = pass) (persistPass pass) := by
  apply (persist_heals own .restore).seq
  rintro _ rfl
  exact rfl

theorem settleOperation_heals (own : pass.record.sessionId = sessionId)
    (failures : pass.failures = []) (certain : pass.uncertain = false)
    (finds : pass.record.Finds front operation back) (restoring : operation.state = .restoring)
    {receipt : RestoreReceipt} (proves : receipt.mutationId = operation.mutation.mutationId)
    (verified : receipt.verified = true) :
    Obeys (healing files sessionId) (Heals front operation back pass)
      (settleOperation pass operation.mutation.mutationId receipt) := by
  unfold settleOperation
  rw [finds.recordRestore proves verified restoring]
  apply (persistPass_heals (by exact own)).mono
  rintro _ rfl
  exact ⟨failures, certain, rfl, _, rfl, rfl, .inl rfl⟩

theorem compareAndRestore_heals (own : pass.record.sessionId = sessionId)
    (failures : pass.failures = []) (certain : pass.uncertain = false)
    (finds : pass.record.Finds front operation back) (restoring : operation.state = .restoring)
    {ownership : StateFingerprint}
    (owned : ∀ value, Owned files sessionId operation.mutation value → value = ownership)
    (snapshot : Snapshot) :
    Obeys (healing files sessionId) (Heals front operation back pass)
      (compareAndRestore sessionId pass operation.mutation snapshot ownership) := by
  apply Obeys.perform_bind_iff.mpr
  constructor
  · trivial
  rintro (error | observed) succeeds
  · cases succeeds
  have reads := of_decide_eq_true succeeds
  dsimp only
  split
  · exact settleOperation_heals own failures certain finds restoring rfl rfl
  next different =>
    rw [if_neg (not_not_intro (owned observed (reads.resolve_left different)))]
    apply Obeys.perform_bind_iff.mpr
    constructor
    · trivial
    intro answer succeeds
    rw [of_decide_eq_true succeeds]
    dsimp only
    rw [if_pos ⟨rfl, rfl, rfl⟩]
    exact settleOperation_heals own failures certain finds restoring rfl rfl

theorem restoreOperation_heals (own : pass.record.sessionId = sessionId)
    (failures : pass.failures = []) (certain : pass.uncertain = false)
    (finds : pass.record.Finds front operation back)
    (curable : Curable files sessionId operation) :
    Obeys (healing files sessionId) (Heals front operation back pass)
      (restoreOperation sessionId pass front.length) := by
  have found : pass.record.operations[front.length]? = some operation := by simp [finds.split]
  have stays (healed : Healed operation) : Heals front operation back pass pass :=
    ⟨failures, certain, rfl, operation, finds.split, rfl, healed⟩
  unfold restoreOperation
  rw [found]
  dsimp only
  by_cases restored : operation.state = .restored
  · rw [if_pos restored]
    exact stays (.inl restored)
  rw [if_neg restored]
  rcases curable.formed.snapshot with ⟨snapshot, taken, -⟩
  cases received : operation.applyReceipt with
  | none =>
      dsimp only
      rw [if_neg curable.applying]
      exact stays (curable.healed received)
  | some receipt =>
      rw [taken]
      dsimp only
      let begun : OperationRecord := { operation with state := .restoring }
      let next : RestorePass := { pass with record := pass.record.place front begun back }
      have placed : next.record.Finds front begun back := finds.place rfl
      have own' : next.record.sessionId = sessionId := own
      have compares : Obeys (healing files sessionId) (Heals front begun back next)
          (compareAndRestore sessionId next operation.mutation snapshot
            receipt.ownershipFingerprint) :=
        compareAndRestore_heals own' failures certain placed rfl
          (curable.owned receipt received) snapshot
      rw [finds.beginRestoreOperation (curable.legal received restored)]
      apply (persistPass_heals own').seq
      rintro _ rfl
      apply compares.mono
      rintro left ⟨failures, certain, session, operation', operations, same, healed⟩
      exact ⟨failures, certain, session, operation', operations, same, healed⟩

/-- The loop heals the operations that are left, from the last to the first. -/
theorem restoreOperations_heals (own : pass.record.sessionId = sessionId)
    (failures : pass.failures = []) (certain : pass.uncertain = false)
    (split : pass.record.operations = front ++ back)
    (distinct : Distinct pass.record.operations)
    (curable : ∀ operation ∈ front, Curable files sessionId operation)
    (healed : ∀ operation ∈ back, Healed operation) :
    Obeys (healing files sessionId)
      (fun left => left.failures = [] ∧ left.uncertain = false ∧
        left.record.session = pass.record.session ∧
        ∀ operation ∈ left.record.operations, Healed operation)
      (restoreOperations sessionId pass (List.range front.length).reverse) := by
  induction front using List.reverseRecOn generalizing pass back with
  | nil =>
      refine ⟨failures, certain, rfl, ?_⟩
      rw [split]
      exact healed
  | append_singleton front operation ih =>
      rw [List.append_assoc, List.singleton_append] at split
      rw [List.forall_mem_append, List.forall_mem_singleton] at curable
      have count : (List.range (front ++ [operation]).length).reverse =
          front.length :: (List.range front.length).reverse := by
        simp [List.range_succ]
      rw [count, restoreOperations, List.foldlM_cons]
      apply (restoreOperation_heals own failures certain (distinct.finds split) curable.2).seq
      rintro left ⟨failures, certain, session, operation', operations, same, cured⟩
      have distinct' : Distinct left.record.operations := by
        unfold Distinct at distinct ⊢
        rw [operations]
        simpa [split, same] using distinct
      have own' : left.record.sessionId = sessionId := by
        rw [SessionRecord.sessionId, session]
        exact own
      apply (ih own' failures certain operations distinct' curable.1 _).mono
      · rintro last ⟨failures, certain, same, healed⟩
        exact ⟨failures, certain, same.trans session, healed⟩
      · rw [List.forall_mem_cons]
        exact ⟨cured, healed⟩

end Pass

/-! ## One session -/

/-- Every record but those of the session is restored, or waits for its turn. -/
def Waiting (rest : List SessionRecord) (sessionId : SessionId) (world : World) : Prop :=
  ∀ record ∈ world.files, record.sessionId = sessionId ∨ record.session.state = .restored ∨
    record ∈ rest

/-- Every record is restored, or waits for its turn. -/
def Ended (rest : List SessionRecord) (world : World) : Prop :=
  ∀ record ∈ world.files, record.session.state = .restored ∨ record ∈ rest

section Session

variable {files rest : List SessionRecord} {engine : EngineId} {sessionId : SessionId}
  {world : World} {record : SessionRecord}

/-- Safety in a world with ports that succeed. -/
abbrev Heeds {α : Type} (files : List SessionRecord) (engine : EngineId)
    (post : α → World → Prop) (program : Engine α) (world : World) : Prop :=
  Alone (Recovering files engine) (fun _ _ => True) post program world

/-- A pass only writes records of its session. -/
theorem Waiting.heeds {α : Type} {post : α → Prop} {program : Engine α}
    (waiting : Waiting rest sessionId world)
    (obeys : Obeys (healing files sessionId) post program) :
    Heeds files engine (fun value after => post value ∧ Waiting rest sessionId after) program
      world := by
  have kept : Alone (Recovering files engine)
      (fun world call => (healing files sessionId).allowed call ∧ Waiting rest sessionId world)
      (fun value after => post value ∧ Waiting rest sessionId after) program world := by
    apply obeys.alone _ waiting
    rintro world call answer after waiting allowed ⟨law, succeeds⟩
    refine ⟨succeeds, ?_⟩
    intro stored member
    rcases law.store.origin member with known | ⟨rfl, -⟩ | rfl
    · exact waiting stored known
    · exact allowed.elim
    · exact .inl allowed
  exact Safe.weaken kept (fun _ _ _ _ _ law => law) fun _ _ _ => trivial

/-- Calls that leave the files alone. -/
theorem Ended.heeds {α : Type} {post : α → Prop} {program : Engine α} (ended : Ended rest world)
    (manages : Within Call.Manages post program) :
    Heeds files engine (fun value after => post value ∧ Ended rest after) program world := by
  apply Within.safe _ _ manages ended
  · rintro _ _ rfl
    exact id
  · intro before call ended manages
    refine ⟨trivial, ?_⟩
    rintro answer after ⟨law, -⟩ stored member
    rw [law.store.files_eq manages.reads] at member
    exact ended stored member

/-- The last write of a pass ends its session. -/
theorem persist_ends (waiting : Waiting rest sessionId world) (own : record.sessionId = sessionId)
    (restored : record.session.state = .restored) (stage : Stage) :
    Heeds files engine (fun result after => result = .ok () ∧ Ended rest after)
      (persist record stage).run world := by
  apply Alone.perform_bind_iff.mpr
  refine ⟨trivial, ?_⟩
  rintro (error | done) after ⟨law, succeeds⟩
  · cases succeeds
  refine Alone.ret_iff.mpr ⟨rfl, ?_⟩
  intro stored member
  rw [law.store.2] at member
  rcases List.mem_map.mp member with ⟨old, known, rfl⟩
  split
  · exact .inl restored
  next other => exact (waiting old known).resolve_left (own ▸ other)

theorem finishRestore_ends {pass : RestorePass} (waiting : Waiting rest sessionId world)
    (own : pass.record.sessionId = sessionId) (failures : pass.failures = [])
    (certain : pass.uncertain = false) (restorative : Restorative pass.record.session.state)
    (healed : ∀ operation ∈ pass.record.operations, Healed operation) (at_ : Timestamp) :
    Heeds files engine (fun outcome after => outcome.1 = .ok .restored ∧ Ended rest after)
      (finishRestore sessionId pass at_) world := by
  have unrestored : pass.record.session.state ≠ .restored := by
    rcases restorative with state | state <;> simp [state]
  have reason : SessionRecord.GoodReason "all captured originals verified" := by decide
  unfold finishRestore
  rw [if_pos (by simp [failures, certain, restorationProven_of_healed healed])]
  dsimp only
  rw [if_pos unrestored, SessionRecord.transition_of_legal reason restorative.restores]
  apply Alone.seq (persist_ends waiting (by exact own) rfl .restore)
  rintro _ after ⟨rfl, ended⟩
  apply Alone.seq (ended.heeds (releaseIfRestored_manages sessionId))
  rintro _ final ⟨-, ended⟩
  exact Alone.ret_iff.mpr ⟨rfl, ended⟩

theorem now_heals (stage : Stage) :
    Obeys (healing files sessionId) (fun result => ∃ now, result = .ok now) (now stage).run := by
  constructor
  · trivial
  · rintro (error | now) succeeds
    · cases succeeds
    · exact ⟨now, rfl⟩

theorem restoreRecord_ends (waiting : Waiting rest sessionId world)
    (own : record.sessionId = sessionId) (restorative : Restorative record.session.state)
    (distinct : Distinct record.operations)
    (curable : ∀ operation ∈ record.operations, Curable files sessionId operation) :
    Heeds files engine (fun outcome after => outcome.1 = .ok .restored ∧ Ended rest after)
      (restoreRecord record) world := by
  subst own
  apply Alone.seq (waiting.heeds (now_heals .restore))
  rintro _ started ⟨⟨now, rfl⟩, waiting⟩
  have split : record.operations = record.operations ++ [] := (List.append_nil _).symm
  have heals := @restoreOperations_heals files record.sessionId ⟨record, [], false⟩ _ [] rfl rfl
    rfl split distinct curable (List.forall_mem_nil _)
  apply Alone.seq (waiting.heeds heals)
  rintro pass visited ⟨⟨failures, certain, session, healed⟩, waiting⟩
  apply finishRestore_ends waiting _ failures certain _ healed
  · rw [SessionRecord.sessionId, session]
  · rw [session]
    exact restorative

theorem prepareRestoreState_heals {log : List Entry} (possible : Possible log record)
    (unrestored : record.session.state ≠ .restored) :
    Obeys (healing files record.sessionId)
      (fun result => result.1 = .ok () ∧ result.2.sessionId = record.sessionId ∧
        result.2.operations = record.operations ∧ Restorative result.2.session.state)
      (prepareRestoreState record) := by
  apply (now_heals .restore).seq
  rintro _ ⟨now, rfl⟩
  rcases enterRestore_possible possible unrestored now with
    ⟨left, entered, -, own, operations, restorative⟩
  dsimp only
  rw [entered]
  dsimp only
  rw [if_neg unrestored]
  apply (persist_heals own .restore).seq
  rintro _ rfl
  exact ⟨rfl, own, operations, restorative⟩

/-- What the loop of `recover_unfinished` has found so far. -/
def Clear (recovery : Recovery) : Prop :=
  recovery.firstError = none ∧ ∀ status ∈ recovery.statuses, status.state = .restored

theorem recoverOne_ends {log : List Entry} (ended : Ended (record :: rest) world)
    (possible : Possible log record) (unrestored : record.session.state ≠ .restored)
    (curable : ∀ operation ∈ record.operations, Curable files record.sessionId operation)
    {recovery : Recovery} (clear : Clear recovery) :
    Heeds files engine (fun next after => Clear next ∧ Ended rest after)
      (recoverOne recovery record) world := by
  have waiting : Waiting rest record.sessionId world := by
    intro stored known
    rcases ended stored known with restored | member
    · exact .inr (.inl restored)
    · rcases List.mem_cons.mp member with rfl | later
      · exact .inl rfl
      · exact .inr (.inr later)
  apply Alone.seq (waiting.heeds (prepareRestoreState_heals possible unrestored))
  rintro ⟨_, left⟩ entered ⟨⟨rfl, own, operations, restorative⟩, waiting⟩
  have distinct : Distinct left.operations := by
    rw [show left.operations = record.operations from operations]
    exact possible.nodup
  have curable' : ∀ operation ∈ left.operations, Curable files record.sessionId operation := by
    rw [show left.operations = record.operations from operations]
    exact curable
  apply Alone.seq (restoreRecord_ends waiting own restorative distinct curable')
  rintro ⟨_, last⟩ after ⟨rfl, ended⟩
  refine Alone.ret_iff.mpr ⟨⟨clear.1, ?_⟩, ended⟩
  intro status member
  rcases List.mem_append.mp member with member | member
  · exact clear.2 status member
  · rw [List.mem_singleton.mp member]

theorem recoverAll_ends {log : List Entry} {records : List SessionRecord}
    (ended : Ended records world)
    (good : ∀ record ∈ records, Possible log record ∧ record.session.state ≠ .restored ∧
      ∀ operation ∈ record.operations, Curable files record.sessionId operation)
    {recovery : Recovery} (clear : Clear recovery) :
    Heeds files engine (fun next after => Clear next ∧ Ended [] after)
      (records.foldlM recoverOne recovery) world := by
  induction records generalizing recovery world with
  | nil => exact Alone.ret_iff.mpr ⟨clear, ended⟩
  | cons record rest ih =>
      rw [List.forall_mem_cons] at good
      rcases good with ⟨⟨possible, unrestored, curable⟩, others⟩
      rw [List.foldlM_cons]
      apply Alone.seq (recoverOne_ends ended possible unrestored curable clear)
      rintro next after ⟨clear, ended⟩
      exact ih ended others clear

end Session

/-! ## The whole recovery -/

/-- The operations of a stored record can be restored, unless they were cut off. -/
theorem Coherent.curable {world : World} (coherent : Coherent world) {record : SessionRecord}
    (stored : record ∈ world.files) {operation : OperationRecord}
    (member : operation ∈ record.operations) (applying : operation.state ≠ .applying)
    (restoring : operation.state ≠ .restoring) :
    Curable world.files record.sessionId operation where
  formed := (coherent.possible record stored).formed operation member
  applying := applying
  restoring := restoring
  owned := by
    rintro receipt received value ⟨other, known, own, operation', member', same, owned⟩
    obtain rfl := coherent.oneEach.eq known stored own
    have lists := SessionRecord.lists_of_nodup (coherent.possible other stored).nodup member
    obtain rfl := lists.eq member' (congrArg PlannedMutation.mutationId same)
    rw [received] at owned
    exact (Option.some.inj owned).symm

/-- What is known of a recovery that has found nothing in its way. -/
def Clears (result : Except SysboostError (List TransactionStatus)) (world : World) : Prop :=
  (∃ statuses, result = .ok statuses) ∧ ∀ record ∈ world.files, record.session.state = .restored

section Request

variable {engine : EngineId} {world : World}

theorem dropGuard_clears {files : List SessionRecord} (ended : Ended [] world)
    (statuses : List TransactionStatus) :
    Heeds files engine Clears (do
      ExceptT.lift (Prog.perform Call.dropGuard)
      return statuses : Fallible (List TransactionStatus)).run world := by
  have dropped : Within Call.Manages (fun _ => True) (Prog.perform Call.dropGuard : Engine _) :=
    ⟨trivial, fun _ => trivial⟩
  apply Alone.lift_seq (ended.heeds dropped)
  rintro _ after ⟨-, ended⟩
  refine Alone.ret_iff.mpr ⟨⟨_, rfl⟩, ?_⟩
  intro record member
  exact (ended record member).resolve_right List.not_mem_nil

theorem finishRecovery_clears {files : List SessionRecord} (ended : Ended [] world)
    {recovery : Recovery} (clear : Clear recovery) (fallback : SessionId) :
    Heeds files engine Clears (finishRecovery recovery fallback).run world := by
  have restored : (recovery.statuses.all fun status => status.state == .restored) = true := by
    apply List.all_eq_true.mpr
    intro status member
    rw [clear.2 status member]
    rfl
  unfold finishRecovery
  rw [if_pos (by simp [restored, clear.1])]
  exact dropGuard_clears ended _

/-- The records that `recover_unfinished` works through. -/
def Loads (files : List SessionRecord)
    (result : Except SysboostError (Except SysboostError (List SessionRecord))) : Prop :=
  ∃ records, result = .ok (.ok records) ∧ ∀ record, record ∈ sortRecords records ↔
    record ∈ files ∧ record.session.state ≠ .restored

theorem loadUnfinished_loads {files : List SessionRecord} :
    Heeds files engine (fun result after => Loads world.files result ∧ after.files = world.files)
      (Fallible.attempt (Fallible.port (Prog.perform Call.loadUnfinished))).run world := by
  apply Alone.perform_bind_iff.mpr
  refine ⟨trivial, ?_⟩
  rintro (error | records) after ⟨law, succeeds⟩
  · cases succeeds
  rcases law.store with ⟨same, listed⟩
  refine Alone.ret_iff.mpr ⟨⟨records, rfl, ?_⟩, same⟩
  intro record
  rw [sortRecords, List.mem_insertionSort, listed.mem_iff, unfinished, List.mem_filter,
    decide_eq_true_eq]

theorem recoverLocked_clears (coherent : Coherent world)
    (resumable : ∀ record ∈ world.files, ∀ operation ∈ record.operations,
      operation.state ≠ .applying ∧ operation.state ≠ .restoring)
    {start : World} (same : start.files = world.files) :
    Heeds world.files engine Clears recoverLocked.run start := by
  apply Alone.run_seq loadUnfinished_loads
  · rintro error after ⟨⟨records, impossible, -⟩, -⟩
    cases impossible
  rintro _ loaded ⟨⟨records, found, mem_iff⟩, files⟩
  cases found
  rw [same] at files mem_iff
  have ended : Ended (sortRecords records) loaded := by
    intro record member
    rw [files] at member
    by_cases restored : record.session.state = .restored
    · exact .inl restored
    · exact .inr ((mem_iff record).mpr ⟨member, restored⟩)
  have good : ∀ record ∈ sortRecords records, Possible world.log record ∧
      record.session.state ≠ .restored ∧
      ∀ operation ∈ record.operations, Curable world.files record.sessionId operation := by
    intro record member
    rcases (mem_iff record).mp member with ⟨stored, unrestored⟩
    refine ⟨coherent.possible record stored, unrestored, ?_⟩
    intro operation present
    rcases resumable record stored operation present with ⟨applying, restoring⟩
    exact coherent.curable stored present applying restoring
  dsimp only
  split
  next sorted =>
    rw [sorted] at ended
    exact dropGuard_clears ended _
  next first rest sorted =>
    rw [sorted] at ended good
    have clear : Clear ⟨[], none⟩ := ⟨rfl, List.forall_mem_nil _⟩
    apply Alone.lift_seq (recoverAll_ends ended good clear)
    rintro recovery after ⟨clear, ended⟩
    exact finishRecovery_clears ended clear _

theorem recoverUnfinished_clears (coherent : Coherent world)
    (resumable : ∀ record ∈ world.files, ∀ operation ∈ record.operations,
      operation.state ≠ .applying ∧ operation.state ≠ .restoring)
    {start : World} (same : start.files = world.files) (idle : start.active engine = none) :
    Heeds world.files engine Clears recoverUnfinished.run start := by
  apply Alone.perform_bind_iff.mpr
  refine ⟨trivial, ?_⟩
  rintro answer asked ⟨law, -⟩
  obtain rfl : answer = none := law.lease.1.trans idle
  apply Alone.perform_bind_iff.mpr
  refine ⟨trivial, ?_⟩
  rintro (error | done) acquired ⟨law', succeeds⟩
  · cases succeeds
  have files : acquired.files = world.files := by
    rw [law'.store.files_eq trivial, law.store.files_eq trivial, same]
  exact recoverLocked_clears coherent resumable files

end Request

/-! ## A recovery that meets a cut off operation -/

section Blocked

variable {operation : OperationRecord} {record : SessionRecord} {recovery : Recovery}

/-- The recovery has met an error. -/
def Recovery.Failed (recovery : Recovery) : Prop :=
  recovery.firstError.isSome = true

theorem Recovery.Failed.or (error : SysboostError) (statuses : List TransactionStatus) :
    Recovery.Failed ⟨statuses, recovery.firstError.or (some error)⟩ := by
  cases known : recovery.firstError with
  | none => rfl
  | some first => rfl

/-- Whatever the ports answer. -/
abbrev Arrives {α : Type} (post : α → Prop) (program : Engine α) : Prop :=
  Within (fun _ => True) post program

theorem recoverOne_fails (stuck : Stuck operation record) :
    Arrives Recovery.Failed (recoverOne recovery record) := by
  apply Within.seq (Within.weaken (prepareRestoreState_spares stuck) fun _ _ => trivial)
  rintro ⟨prepared, left⟩ stuck
  cases prepared with
  | error error => exact Recovery.Failed.or error _
  | ok done =>
      apply Within.seq (Within.weaken (restoreRecord_spares stuck) fun _ _ => trivial)
      rintro ⟨_, last⟩ ⟨⟨error, rfl⟩, -⟩
      exact Recovery.Failed.or error _

theorem recoverOne_stays (failed : recovery.Failed) (record : SessionRecord) :
    Arrives Recovery.Failed (recoverOne recovery record) := by
  apply Within.seq (Within.any _)
  rintro ⟨prepared, left⟩ -
  cases prepared with
  | error error => exact Recovery.Failed.or error _
  | ok done =>
      apply Within.seq (Within.any _)
      rintro ⟨result, last⟩ -
      cases result with
      | error error => exact Recovery.Failed.or error _
      | ok state => exact failed

theorem recoverAll_fails {records : List SessionRecord}
    (blocked : recovery.Failed ∨ ∃ record ∈ records, Stuck operation record) :
    Arrives Recovery.Failed (records.foldlM recoverOne recovery) := by
  induction records generalizing recovery with
  | nil => exact blocked.resolve_right fun ⟨_, member, _⟩ => List.not_mem_nil member
  | cons first rest ih =>
      rw [List.foldlM_cons]
      rcases blocked with failed | ⟨record, member, stuck⟩
      · exact Within.seq (recoverOne_stays failed first) fun _ failed => ih (.inl failed)
      · rcases List.mem_cons.mp member with rfl | later
        · exact Within.seq (recoverOne_fails stuck) fun _ failed => ih (.inl failed)
        · exact Within.seq (Within.any _) fun _ _ => ih (.inr ⟨record, later, stuck⟩)

/-- The recovery returns no statuses. -/
def Refuses (result : Except SysboostError (List TransactionStatus)) : Prop :=
  ∀ statuses, result ≠ .ok statuses

theorem finishRecovery_refuses (failed : recovery.Failed) (fallback : SessionId) :
    Arrives Refuses (finishRecovery recovery fallback).run := by
  unfold finishRecovery
  rw [if_neg]
  · exact ⟨trivial, fun _ _ => nofun⟩
  · intro complete
    rw [Bool.and_eq_true, Option.isNone_iff_eq_none] at complete
    rw [Recovery.Failed, complete.2] at failed
    cases failed

/-- A recovery whose answers are those of a store with a stuck record. -/
theorem recoverUnfinished_refuses {files : List SessionRecord} {engine : EngineId} {world : World}
    (same : world.files = files) (stored : record ∈ files) (stuck : Stuck operation record) :
    Heeds files engine (fun result _ => Refuses result) recoverUnfinished.run world := by
  have heeds {program : Engine (Except SysboostError (List TransactionStatus))} {start : World}
      (arrives : Arrives Refuses program) :
      Heeds files engine (fun result _ => Refuses result) program start := by
    have safe : Heeds files engine (fun result _ => Refuses result ∧ True) program start := by
      apply Within.safe _ _ arrives trivial
      · exact fun _ _ => trivial
      · exact fun _ _ => ⟨trivial, fun _ _ _ => trivial⟩
    exact safe.mono fun _ _ known => known.1
  apply Alone.perform_bind_iff.mpr
  refine ⟨trivial, ?_⟩
  rintro (_ | active) asked ⟨law, -⟩
  · apply Alone.perform_bind_iff.mpr
    refine ⟨trivial, ?_⟩
    rintro (error | done) acquired ⟨law', succeeds⟩
    · cases succeeds
    apply Alone.run_seq loadUnfinished_loads
    · rintro error after ⟨⟨records, impossible, -⟩, -⟩
      cases impossible
    rintro _ loaded ⟨⟨records, found, mem_iff⟩, -⟩
    cases found
    have listed : record ∈ sortRecords records := by
      rw [mem_iff, law'.store.files_eq trivial, law.store.files_eq trivial, same]
      exact ⟨stored, stuck.unrestored⟩
    dsimp only
    split
    next sorted =>
      rw [sorted] at listed
      cases listed
    next first rest sorted =>
      rw [sorted] at listed
      apply heeds
      apply Within.lift_seq (recoverAll_fails (.inr ⟨record, listed, stuck⟩))
      exact fun _ failed => finishRecovery_refuses failed _
  · exact Alone.ret_iff.mpr fun _ => nofun

end Blocked

/-- **Recovery completes** for a fresh engine with ports that succeed, with every
original proven, exactly when no operation was cut off. -/
theorem recovery_completes_iff {world : World} (reachable : Reachable ⟨world, none⟩)
    {engine : EngineId} (idle : world.active engine = none) {reply : Reply} {final : World}
    (run : Executes (Recovering world.files engine) Request.recoverUnfinished.program
      (world.note (.requested engine .recoverUnfinished)) reply final) :
    ((∃ statuses, reply = .recovered (.ok statuses)) ∧ ∀ record ∈ final.files,
        record.session.state = .restored ∧ Accounted final.log record.sessionId) ↔
      ∀ record ∈ world.files, ∀ operation ∈ record.operations,
        operation.state ≠ .applying ∧ operation.state ≠ .restoring := by
  have coherent := reachable.coherent
  constructor
  · rintro ⟨⟨statuses, rfl⟩, -⟩ record stored operation member
    have possible := coherent.possible record stored
    have shaped := (possible.formed operation member).shaped
    have resumes : ¬CutOff operation := by
      intro cutOff
      have refused : Heeds world.files engine (fun result _ => Refuses result)
          recoverUnfinished.run (world.note (.requested engine .recoverUnfinished)) :=
        recoverUnfinished_refuses rfl stored (possible.stuck member cutOff)
      have refuses : Heeds world.files engine (fun reply _ => ∀ statuses,
          reply ≠ .recovered (.ok statuses)) Request.recoverUnfinished.program
          (world.note (.requested engine .recoverUnfinished)) := by
        apply Alone.seq refused
        intro result after refuses
        refine Alone.ret_iff.mpr ?_
        intro statuses same
        exact refuses statuses (Reply.recovered.inj same)
      exact run.post refuses statuses rfl
    constructor
    · intro applying
      simp only [Shaped, applying] at shaped
      exact resumes (.inl ⟨applying, shaped.1⟩)
    · intro restoring
      simp only [Shaped, restoring] at shaped
      exact resumes (.inr ⟨restoring, shaped.1⟩)
  · intro resumable
    have completes : Heeds world.files engine (fun reply after =>
        (∃ statuses, reply = .recovered (.ok statuses)) ∧
          ∀ record ∈ after.files, record.session.state = .restored)
        Request.recoverUnfinished.program (world.note (.requested engine .recoverUnfinished)) := by
      have ended : Heeds world.files engine Clears recoverUnfinished.run
          (world.note (.requested engine .recoverUnfinished)) :=
        recoverUnfinished_clears coherent resumable rfl idle
      apply Alone.seq ended
      rintro _ after ⟨⟨statuses, rfl⟩, restored⟩
      exact Alone.ret_iff.mpr ⟨⟨statuses, rfl⟩, restored⟩
    have conducts : Heeds world.files engine (fun _ after => Coherent after)
        Request.recoverUnfinished.program (world.note (.requested engine .recoverUnfinished)) := by
      apply Safe.mono (Safe.weaken (request_conducts coherent.issue List.mem_cons_self) _ _)
      · exact fun _ _ known => known.1
      · exact fun _ _ _ _ _ law => law.1
      · exact fun _ _ _ => trivial
    rcases run.post completes with ⟨replied, restored⟩
    refine ⟨replied, ?_⟩
    intro record member
    have possible := (run.post conducts).possible record member
    exact ⟨restored record member, possible.accounted (restored record member)⟩

/-- An engine that ends after it has begun a restore, before it begins an operation. -/
def resumableWorld : World :=
  steadyKit.interrupt 0 (.restore steadyKit.sessionId) 6 (appliedWorld steadyKit)

theorem resumableWorld_reachable : Reachable ⟨resumableWorld, none⟩ :=
  steadyKit.reachable_interrupt (appliedWorld_reachable steadyKit) 0 _ 6

theorem resumableWorld_passes :
    Request.recoverUnfinished.program.passes (Succeeds resumableWorld.files) (steadyKit.respond 1)
      (resumableWorld.note (.requested 1 .recoverUnfinished)) = true := by
  decide +kernel

/-- A recovery by another engine. -/
theorem recovery_completes_iff_resumed :
    (∃ statuses, (steadyKit.outcome 1 .recoverUnfinished resumableWorld).1 =
        .recovered (.ok statuses)) ∧
      ∀ record ∈ (steadyKit.outcome 1 .recoverUnfinished resumableWorld).2.files,
        record.session.state = .restored ∧
          Accounted (steadyKit.outcome 1 .recoverUnfinished resumableWorld).2.log
            record.sessionId := by
  have run : Executes (Recovering resumableWorld.files 1) Request.recoverUnfinished.program
      (resumableWorld.note (.requested 1 .recoverUnfinished))
      (steadyKit.outcome 1 .recoverUnfinished resumableWorld).1
      (steadyKit.outcome 1 .recoverUnfinished resumableWorld).2 :=
    Executes.of_passes (fun _ => steadyKit.law) resumableWorld_passes
  have resumable : ∀ record ∈ resumableWorld.files, ∀ operation ∈ record.operations,
      operation.state ≠ .applying ∧ operation.state ≠ .restoring := by
    decide +kernel
  have idle : resumableWorld.active 1 = none := by decide +kernel
  exact (recovery_completes_iff resumableWorld_reachable idle run).mpr resumable

end Sysboost.Platform
