import Sysboost.Platform.Handoff
import Sysboost.Platform.Testkit
import Sysboost.Platform.Requests
import Sysboost.Interaction.Trace

/-!
# The calls of a restore pass

Whatever the ports answer, a pass reads back the operations it can restore in
reverse plan order, and calls `backend.restore` for one of them only right after
a readback that returned its session-owned value.
-/

namespace Sysboost.Platform

open Sysboost.Core Interaction

/-- The port calls of a run with their answers. -/
abbrev Trace := List (Exchange Answer)

/-- A method of the backend or the clock. -/
def Call.isOutside : Call → Bool
  | .now | .snapshot _ _ | .apply _ _ _ | .verify _ _ _ _ _ | .restore _ _ _ _ => true
  | _ => false

/-- Neither the backend nor the clock is called. -/
def Silent (trace : Trace) : Prop :=
  ∀ exchange ∈ trace, exchange.request.isOutside = false

theorem Silent.append {first second : Trace} (silent : Silent first) (silent' : Silent second) :
    Silent (first ++ second) := by
  intro exchange member
  rcases List.mem_append.mp member with member | member
  · exact silent exchange member
  · exact silent' exchange member

@[simp]
theorem silent_nil : Silent [] := by
  simp [Silent]

@[simp]
theorem silent_cons {exchange : Exchange Answer} {trace : Trace} :
    Silent (exchange :: trace) ↔ exchange.request.isOutside = false ∧ Silent trace := by
  simp [Silent]

/-- The mutation that a restore pass reads back. -/
def readback (exchange : Exchange Answer) : Option PlannedMutation :=
  match exchange.request with
  | .verify _ .restore mutation _ _ => some mutation
  | _ => none

theorem Silent.readback_eq_none {trace : Trace} (silent : Silent trace) {exchange : Exchange Answer}
    (member : exchange ∈ trace) : readback exchange = none := by
  obtain ⟨call, answer⟩ := exchange
  have other := silent _ member
  cases call <;> first | rfl | cases other

/-- A readback among calls of which only the second can be one. -/
theorem eq_of_readback {first second exchange : Exchange Answer} {more : Trace}
    (member : exchange ∈ first :: second :: more) (reads : readback exchange ≠ none)
    (before : readback first = none) (after : ∀ other ∈ more, readback other = none) :
    exchange = second := by
  rcases List.mem_cons.mp member with rfl | member
  · exact absurd before reads
  rcases List.mem_cons.mp member with rfl | member
  · rfl
  · exact absurd (after exchange member) reads

/-- The pass can begin to restore the operation. -/
def Restorable (operation : OperationRecord) : Bool :=
  operation.applyReceipt.isSome && operation.snapshot.isSome &&
    operation.state.canTransition .restoring

/-- The calls of a pass for one operation. -/
inductive Visit (sessionId : SessionId) (operation : OperationRecord) : Trace → Prop
  /-- Nothing to restore, or nothing that may be restored. -/
  | skipped (skip : Restorable operation = false) : Visit sessionId operation []
  /-- A readback of another value, or none at all, is not followed by a restore. -/
  | read {snapshot : Snapshot} {receipt : ApplyReceipt} {begun : SessionRecord}
      {stored : Except SysboostError Unit} {observed : Except SysboostError StateFingerprint}
      {more : Trace} (restorable : Restorable operation = true)
      (has : operation.snapshot = some snapshot) (received : operation.applyReceipt = some receipt)
      (unowned : observed = .ok receipt.ownershipFingerprint →
        receipt.ownershipFingerprint = snapshot.originalFingerprint) (silent : Silent more) :
      Visit sessionId operation (⟨.replace begun, stored⟩ ::
        ⟨.verify sessionId .restore operation.mutation snapshot.originalFingerprint
          snapshot.targetIdentity, observed⟩ :: more)
  /-- The session-owned value is restored. -/
  | restored {snapshot : Snapshot} {receipt : ApplyReceipt} {begun : SessionRecord}
      {stored : Except SysboostError Unit} {result : Except SysboostError RestoreReceipt}
      {more : Trace} (restorable : Restorable operation = true)
      (has : operation.snapshot = some snapshot) (received : operation.applyReceipt = some receipt)
      (changed : receipt.ownershipFingerprint ≠ snapshot.originalFingerprint)
      (silent : Silent more) :
      Visit sessionId operation (⟨.replace begun, stored⟩ ::
        ⟨.verify sessionId .restore operation.mutation snapshot.originalFingerprint
          snapshot.targetIdentity, .ok receipt.ownershipFingerprint⟩ ::
        ⟨.restore sessionId operation.mutation snapshot receipt.ownershipFingerprint, result⟩ ::
        more)

/-- The readback of the operation is neither the original nor the owned value. -/
def Conflicts (sessionId : SessionId) (operation : OperationRecord) (trace : Trace) : Prop :=
  ∃ snapshot receipt observed, operation.snapshot = some snapshot ∧
    operation.applyReceipt = some receipt ∧ observed ≠ snapshot.originalFingerprint ∧
    observed ≠ receipt.ownershipFingerprint ∧
    ⟨.verify sessionId .restore operation.mutation snapshot.originalFingerprint
      snapshot.targetIdentity, .ok observed⟩ ∈ trace

/-! ## One operation -/

theorem persist_traces (record : SessionRecord) (stage : Stage) :
    Every (fun trace result => ∃ answer, trace = [⟨.replace record, answer⟩] ∧
        (result = .ok () ↔ answer = .ok ()))
      (persist record stage).run := by
  refine Every.call_iff.mpr fun answer => Every.ret_iff.mpr ⟨answer, rfl, ?_⟩
  rcases answer with error | done <;> simp [Except.mapError]

theorem now_traces (stage : Stage) :
    Every (fun trace result => ∃ answer, trace = [⟨.now, answer⟩] ∧
        result = answer.mapError (·.withStage stage)) (now stage).run :=
  Every.call_iff.mpr fun answer => Every.ret_iff.mpr ⟨answer, rfl, rfl⟩

/-- What a pass over one operation keeps. -/
structure Passes (front : List OperationRecord) (operation : OperationRecord)
    (back : List OperationRecord) (pass left : RestorePass) : Prop where
  operations : ∃ operation', left.record.operations = front ++ operation' :: back ∧
    operation'.mutation = operation.mutation
  session : left.record.session = pass.record.session
  failures : pass.failures ≠ [] → left.failures ≠ []

section Pass

variable {sessionId : SessionId} {pass : RestorePass} {front back : List OperationRecord}
  {operation : OperationRecord} {snapshot : Snapshot} {receipt : ApplyReceipt}

theorem persistPass_traces :
    Every (fun trace left => (∃ answer, trace = [⟨.replace pass.record, answer⟩]) ∧
        left.record.operations = pass.record.operations ∧
        left.record.session = pass.record.session ∧ (pass.failures ≠ [] → left.failures ≠ []))
      (persistPass pass) := by
  refine Every.seq (persist_traces _ _) ?_
  rintro _ result ⟨answer, rfl, -⟩
  rcases result with error | done
  · refine Every.ret_iff.mpr ⟨⟨answer, rfl⟩, rfl, rfl, fun _ => ?_⟩
    simp [RestorePass.recordUncertain, RestorePass.pushUncertain]
  · exact Every.ret_iff.mpr ⟨⟨answer, rfl⟩, rfl, rfl, id⟩

theorem settleOperation_traces {proof : RestoreReceipt}
    (finds : pass.record.Finds front operation back) (restoring : operation.state = .restoring)
    (own : proof.mutationId = operation.mutation.mutationId) (verified : proof.verified = true) :
    Every (fun trace left => Silent trace ∧ Passes front operation back pass left)
      (settleOperation pass operation.mutation.mutationId proof) := by
  unfold settleOperation
  rw [finds.recordRestore own verified restoring]
  refine persistPass_traces.mono fun trace left known => ?_
  obtain ⟨⟨answer, rfl⟩, operations, session, failures⟩ := known
  exact ⟨by simp [Call.isOutside], ⟨_, operations, rfl⟩, session, failures⟩

theorem failOperationRestore_traces {error : SysboostError}
    (finds : pass.record.Finds front operation back) (restoring : operation.state = .restoring) :
    Every (fun trace left => Silent trace ∧ Passes front operation back pass left ∧
        left.failures ≠ [])
      (failOperationRestore pass operation.mutation.mutationId error) := by
  have legal : operation.state.canTransition .restoreFailed = true := by rw [restoring]; rfl
  unfold failOperationRestore SessionRecord.failRestore
  rw [finds.failTo legal (by simp [restoring])]
  refine Every.seq (persist_traces _ _) ?_
  rintro _ result ⟨answer, rfl, -⟩
  refine Every.ret_iff.mpr ⟨by simp [Call.isOutside], ⟨⟨_, rfl, rfl⟩, rfl, fun _ => ?_⟩, ?_⟩ <;>
    simp [RestorePass.push]

/-- The calls from the readback on. -/
def Compares (sessionId : SessionId) (mutation : PlannedMutation) (snapshot : Snapshot)
    (ownership : StateFingerprint) (trace : Trace) (left : RestorePass) : Prop :=
  (∃ (observed : Except SysboostError StateFingerprint) (more : Trace),
    trace = ⟨.verify sessionId .restore mutation snapshot.originalFingerprint
      snapshot.targetIdentity, observed⟩ :: more ∧
    (observed = .ok ownership → ownership = snapshot.originalFingerprint) ∧ Silent more ∧
    ∀ value, observed = .ok value → value ≠ snapshot.originalFingerprint → left.failures ≠ []) ∨
  ∃ (result : Except SysboostError RestoreReceipt) (more : Trace),
    trace = ⟨.verify sessionId .restore mutation snapshot.originalFingerprint
        snapshot.targetIdentity, .ok ownership⟩ ::
      ⟨.restore sessionId mutation snapshot ownership, result⟩ :: more ∧
    ownership ≠ snapshot.originalFingerprint ∧ Silent more

theorem compareAndRestore_traces {ownership : StateFingerprint}
    (finds : pass.record.Finds front operation back) (restoring : operation.state = .restoring) :
    Every (fun trace left => Passes front operation back pass left ∧
        Compares sessionId operation.mutation snapshot ownership trace left)
      (compareAndRestore sessionId pass operation.mutation snapshot ownership) := by
  unfold compareAndRestore
  refine Every.perform_bind_iff.mpr fun answer => ?_
  rcases answer with error | observed
  · refine (failOperationRestore_traces finds restoring).mono fun trace left known => ?_
    obtain ⟨silent, passes, failed⟩ := known
    exact ⟨passes, .inl ⟨_, _, rfl, by simp, silent, fun _ _ _ => failed⟩⟩
  by_cases original : observed = snapshot.originalFingerprint
  · simp only [original, if_true]
    have settled := @settleOperation_traces pass front back operation
      ⟨operation.mutation.mutationId, snapshot.originalFingerprint, true⟩ finds restoring rfl rfl
    refine settled.mono fun trace left known => ?_
    refine ⟨known.2, .inl ⟨_, _, rfl, ?_, known.1, ?_⟩⟩
    · rintro same
      exact (Except.ok.inj same).symm
    · rintro value same different
      exact absurd (Except.ok.inj same).symm different
  by_cases owned : observed = ownership
  · subst observed
    simp only [original, if_false, ne_eq, not_true_eq_false]
    refine Every.perform_bind_iff.mpr fun result => ?_
    rcases result with error | proof
    · refine (failOperationRestore_traces finds restoring).mono fun trace left known => ?_
      exact ⟨known.2.1, .inr ⟨_, _, rfl, original, known.1⟩⟩
    by_cases proves : proof.mutationId = operation.mutation.mutationId ∧ proof.verified = true ∧
        proof.restoredFingerprint = snapshot.originalFingerprint
    · simp only [proves, and_self, if_true]
      refine (settleOperation_traces finds restoring proves.1 proves.2.1).mono
        fun trace left known => ?_
      exact ⟨known.2, .inr ⟨_, _, rfl, original, known.1⟩⟩
    · simp only [proves, if_false]
      refine (failOperationRestore_traces finds restoring).mono fun trace left known => ?_
      exact ⟨known.2.1, .inr ⟨_, _, rfl, original, known.1⟩⟩
  · simp only [original, owned, if_false, ne_eq, not_false_eq_true, if_true]
    refine (failOperationRestore_traces finds restoring).mono fun trace left known => ?_
    obtain ⟨silent, passes, failed⟩ := known
    refine ⟨passes, .inl ⟨_, _, rfl, ?_, silent, fun _ _ _ => failed⟩⟩
    rintro same
    exact absurd (Except.ok.inj same) owned

theorem restoreOperation_traces (finds : pass.record.Finds front operation back) :
    Every (fun trace left => Visit sessionId operation trace ∧
        Passes front operation back pass left ∧
        (Conflicts sessionId operation trace → left.failures ≠ []))
      (restoreOperation sessionId pass front.length) := by
  have found : pass.record.operations[front.length]? = some operation := by simp [finds.split]
  have stays {left : RestorePass} (operations : left.record.operations = pass.record.operations)
      (session : left.record.session = pass.record.session)
      (failures : pass.failures ≠ [] → left.failures ≠ [])
      (skip : Restorable operation = false) :
      Visit sessionId operation [] ∧ Passes front operation back pass left ∧
        (Conflicts sessionId operation [] → left.failures ≠ []) := by
    refine ⟨.skipped skip, ⟨⟨operation, operations.trans finds.split, rfl⟩, session, failures⟩, ?_⟩
    rintro ⟨snapshot, receipt, observed, -, -, -, -, impossible⟩
    cases impossible
  unfold restoreOperation
  simp only [found]
  by_cases restored : operation.state = .restored
  · simp only [restored, if_true]
    exact Every.ret_iff.mpr
      (stays rfl rfl id (by simp [Restorable, restored, OperationState.canTransition]))
  simp only [restored, if_false]
  cases received : operation.applyReceipt with
  | none =>
      have skip : Restorable operation = false := by simp [Restorable, received]
      by_cases applying : operation.state = .applying
      · simp only [applying, if_true]
        exact Every.ret_iff.mpr (stays rfl rfl
          (fun _ => by simp [RestorePass.recordUncertain, RestorePass.pushUncertain]) skip)
      · simp only [applying, if_false]
        exact Every.ret_iff.mpr (stays rfl rfl id skip)
  | some receipt =>
      cases has : operation.snapshot with
      | none =>
          exact Every.ret_iff.mpr (stays rfl rfl
            (fun _ => by simp [RestorePass.recordUncertain, RestorePass.pushUncertain])
            (by simp [Restorable, has]))
      | some snapshot =>
          by_cases legal : operation.state.canTransition .restoring = true
          · have restorable : Restorable operation = true := by
              simp [Restorable, received, has, legal]
            simp only [finds.beginRestoreOperation legal]
            refine Every.seq persistPass_traces ?_
            rintro _ begun ⟨⟨stored, rfl⟩, operations, session, failures⟩
            have placed : begun.record.Finds front { operation with state := .restoring } back :=
              ⟨operations, finds.others⟩
            refine (compareAndRestore_traces placed rfl).mono fun trace left known => ?_
            obtain ⟨passes, compares⟩ := known
            refine ⟨?_, ⟨passes.operations, passes.session.trans session,
              fun failed => passes.failures (failures failed)⟩, ?_⟩
            · rcases compares with ⟨observed, more, rfl, unowned, silent, -⟩ |
                ⟨result, more, rfl, changed, silent⟩
              · exact .read restorable has received unowned silent
              · exact .restored restorable has received changed silent
            · rintro ⟨snapshot', receipt', observed', has', received', original, owned, member⟩
              rw [has, Option.some.injEq] at has'
              rw [received, Option.some.injEq] at received'
              subst has' received'
              rcases compares with ⟨answer, more, rfl, unowned, silent, failed⟩ |
                ⟨result, more, rfl, changed, silent⟩
              · have same := eq_of_readback member (by simp [readback]) rfl
                  fun other member => silent.readback_eq_none member
                cases same
                exact failed observed' rfl original
              · have same := eq_of_readback member (by simp [readback]) rfl fun other member => by
                  rcases List.mem_cons.mp member with rfl | member
                  · rfl
                  · exact silent.readback_eq_none member
                cases same
                exact absurd rfl owned
          · have illegal : operation.state.canTransition .restoring = false := by
              simpa using legal
            simp only [finds.beginRestoreOperation_illegal restored illegal]
            exact Every.ret_iff.mpr (stays rfl rfl (fun _ => by simp [RestorePass.pushUncertain])
              (by simp [Restorable, illegal]))

end Pass

/-! ## The loop -/

/-- The calls of a pass for several operations, in this order. -/
inductive Visits (sessionId : SessionId) : List OperationRecord → Trace → Prop
  | nil : Visits sessionId [] []
  | cons {operation : OperationRecord} {rest : List OperationRecord} {first more : Trace}
      (visit : Visit sessionId operation first) (visits : Visits sessionId rest more) :
      Visits sessionId (operation :: rest) (first ++ more)

theorem Visit.readback_eq {sessionId : SessionId} {operation : OperationRecord} {trace : Trace}
    (visit : Visit sessionId operation trace) {exchange : Exchange Answer}
    (member : exchange ∈ trace) {mutation : PlannedMutation}
    (reads : readback exchange = some mutation) : mutation = operation.mutation := by
  have some : readback exchange ≠ none := by simp [reads]
  cases visit with
  | skipped skip => cases member
  | read restorable has received unowned silent =>
      rw [eq_of_readback member some rfl fun other => silent.readback_eq_none] at reads
      exact (Option.some.inj reads).symm
  | @restored snapshot receipt begun stored result more restorable has received changed silent =>
      have other : Silent (⟨.replace begun, stored⟩ :: more) :=
        silent_cons.mpr ⟨rfl, silent⟩
      rw [eq_of_readback member some rfl fun later present => ?_] at reads
      · exact (Option.some.inj reads).symm
      · rcases List.mem_cons.mp present with rfl | present
        · rfl
        · exact silent.readback_eq_none present

theorem Visits.readback_mem {sessionId : SessionId} {operations : List OperationRecord}
    {trace : Trace} (visits : Visits sessionId operations trace) {exchange : Exchange Answer}
    (member : exchange ∈ trace) {mutation : PlannedMutation}
    (reads : readback exchange = some mutation) :
    ∃ operation ∈ operations, operation.mutation = mutation := by
  induction visits with
  | nil => cases member
  | @cons operation rest first more visit visits ih =>
      rcases List.mem_append.mp member with member | member
      · exact ⟨operation, by simp, (visit.readback_eq member reads).symm⟩
      · obtain ⟨other, present, same⟩ := ih member
        exact ⟨other, by simp [present], same⟩

/-- No two operations have one mutation ID. -/
def Distinct (operations : List OperationRecord) : Prop :=
  (operations.map fun operation => operation.mutation.mutationId).Nodup

theorem Distinct.finds {record : SessionRecord} {front back : List OperationRecord}
    {operation : OperationRecord} (distinct : Distinct record.operations)
    (split : record.operations = front ++ operation :: back) :
    record.Finds front operation back := by
  refine ⟨split, fun other member same => ?_⟩
  unfold Distinct at distinct
  rw [split, List.map_append, List.map_cons, List.nodup_append] at distinct
  exact distinct.2.2 _ (List.mem_map_of_mem member) _ (by simp) same

/-- A conflict shows in the calls for its own operation only. -/
theorem Conflicts.of_append {sessionId : SessionId} {operation other : OperationRecord}
    {rest : List OperationRecord} {first more : Trace} (visit : Visit sessionId operation first)
    (visits : Visits sessionId rest more) (conflicts : Conflicts sessionId other (first ++ more)) :
    Conflicts sessionId other first ∧ other.mutation = operation.mutation ∨
      Conflicts sessionId other more ∧ ∃ later ∈ rest, later.mutation = other.mutation := by
  obtain ⟨snapshot, receipt, observed, has, received, original, owned, member⟩ := conflicts
  rcases List.mem_append.mp member with member | member
  · exact .inl ⟨⟨snapshot, receipt, observed, has, received, original, owned, member⟩,
      visit.readback_eq member rfl⟩
  · exact .inr ⟨⟨snapshot, receipt, observed, has, received, original, owned, member⟩,
      visits.readback_mem member rfl⟩

theorem restoreOperations_traces {sessionId : SessionId} {pass : RestorePass}
    {front back : List OperationRecord} (split : pass.record.operations = front ++ back)
    (distinct : Distinct pass.record.operations) :
    Every (fun trace left => Visits sessionId front.reverse trace ∧
        left.record.session = pass.record.session ∧ (pass.failures ≠ [] → left.failures ≠ []) ∧
        ∀ operation ∈ front, Conflicts sessionId operation trace → left.failures ≠ [])
      (restoreOperations sessionId pass (List.range front.length).reverse) := by
  induction front using List.reverseRecOn generalizing pass back with
  | nil => exact Every.ret_iff.mpr ⟨.nil, rfl, id, by simp⟩
  | append_singleton front operation ih =>
      rw [List.append_assoc, List.singleton_append] at split
      have count : (List.range (front ++ [operation]).length).reverse =
          front.length :: (List.range front.length).reverse := by
        simp [List.range_succ]
      rw [count, restoreOperations, List.foldlM_cons]
      refine Every.seq (restoreOperation_traces (distinct.finds split)) fun first left known => ?_
      obtain ⟨visit, passes, failed⟩ := known
      obtain ⟨operation', operations, same⟩ := passes.operations
      have distinct' : Distinct left.record.operations := by
        unfold Distinct at distinct ⊢
        rw [operations]
        simpa [split, same] using distinct
      refine (ih operations distinct').mono fun more last known => ?_
      obtain ⟨visits, session, failures, conflicts⟩ := known
      refine ⟨?_, session.trans passes.session, fun earlier => failures (passes.failures earlier),
        fun other member conflict => ?_⟩
      · rw [List.reverse_append, List.reverse_singleton, List.singleton_append]
        exact .cons visit visits
      have unlike : ∀ earlier ∈ front, earlier.mutation ≠ operation.mutation :=
        fun earlier member same => (distinct.finds split).others earlier member
          (congrArg PlannedMutation.mutationId same)
      rcases conflict.of_append visit visits with ⟨here, same⟩ | ⟨there, later, present, same⟩
      · rcases List.mem_append.mp member with member | member
        · exact absurd same (unlike other member)
        · rw [List.mem_singleton.mp member] at here
          exact failures (failed here)
      · rcases List.mem_append.mp member with member | member
        · exact conflicts other member there
        · rw [List.mem_singleton.mp member] at same
          exact absurd same (unlike later (List.mem_reverse.mp present))

/-! ## The end of the pass -/

theorem releaseIfRestored_traces (sessionId : SessionId) :
    Every (fun trace _ => Silent trace) (releaseIfRestored sessionId) := by
  refine Every.perform_bind_iff.mpr fun answer => ?_
  rcases answer with _ | active
  · exact Every.ret_iff.mpr (by simp [Call.isOutside])
  by_cases same : active = sessionId
  · simp only [same, if_true]
    exact Every.call_iff.mpr fun answer => Every.ret_iff.mpr (by simp [Call.isOutside])
  · simp only [same, if_false]
    exact Every.ret_iff.mpr (by simp [Call.isOutside])

/-- The result of a pass that kept a failure. -/
def Refused (outcome : Except SysboostError SessionState × SessionRecord) : Prop :=
  (∃ error, outcome.1 = .error error) ∧ outcome.2.session.state ≠ .restored

theorem finishRestore_traces (sessionId : SessionId) (pass : RestorePass) (at_ : Timestamp) :
    Every (fun trace outcome => Silent trace ∧
        (pass.failures ≠ [] → pass.record.session.state ≠ .restored → Refused outcome))
      (finishRestore sessionId pass at_) := by
  unfold finishRestore
  by_cases complete :
      (pass.failures.isEmpty && pass.record.restorationProven && !pass.uncertain) = true
  · rw [if_pos complete]
    have empty : pass.failures = [] := by
      simp only [Bool.and_eq_true, List.isEmpty_iff] at complete
      exact complete.1.1
    have vacuous (outcome : Except SysboostError SessionState × SessionRecord) :
        pass.failures ≠ [] → pass.record.session.state ≠ .restored → Refused outcome :=
      fun failed => absurd empty failed
    generalize (if pass.record.session.state ≠ .restored then
      pass.record.transition .restored at_ "all captured originals verified"
      else (.ok (), pass.record)) = proven
    rcases proven with ⟨error | done, left⟩
    · exact Every.ret_iff.mpr ⟨silent_nil, vacuous _⟩
    · refine Every.seq (persist_traces _ _) ?_
      rintro _ result ⟨answer, rfl, -⟩
      rcases result with error | done
      · exact Every.ret_iff.mpr ⟨by simp [Call.isOutside], vacuous _⟩
      · refine Every.seq (releaseIfRestored_traces sessionId) fun trace _ silent => ?_
        exact Every.ret_iff.mpr ⟨by simpa [Call.isOutside] using silent, vacuous _⟩
  · rw [if_neg complete]
    have degraded {outcome : Except SysboostError Unit} {left : SessionRecord}
        (ended : degrade pass at_ = (outcome, left))
        (unrestored : pass.record.session.state ≠ .restored) : left.session.state ≠ .restored := by
      have draft : pass.Drafts pass.record.outline := ⟨rfl, unrestored⟩
      exact ((degrade_drafts draft at_).of_eq ended).unrestored
    rcases ended : degrade pass at_ with ⟨error | done, left⟩
    · exact Every.ret_iff.mpr ⟨silent_nil, fun _ unrestored => ⟨⟨_, rfl⟩, degraded ended unrestored⟩⟩
    · refine Every.seq (persist_traces _ _) ?_
      rintro _ result ⟨answer, rfl, -⟩
      exact Every.ret_iff.mpr
        ⟨by simp [Call.isOutside], fun _ unrestored => ⟨⟨_, rfl⟩, degraded ended unrestored⟩⟩

/-! ## The whole pass -/

/-- The clock is read, the operations are visited in reverse plan order, and
the result is persisted. -/
theorem restoreRecord_traces {record : SessionRecord} (distinct : Distinct record.operations) :
    Every (fun trace outcome => ∃ (answer : Except SysboostError Timestamp) (visited last : Trace),
        trace = ⟨.now, answer⟩ :: (visited ++ last) ∧
        Visits record.sessionId record.operations.reverse visited ∧ Silent last ∧
        (record.session.state ≠ .restored → ∀ operation ∈ record.operations,
          Conflicts record.sessionId operation visited → Refused outcome))
      (restoreRecord record) := by
  unfold restoreRecord
  refine Every.seq (now_traces _) ?_
  rintro _ result ⟨answer, rfl, -⟩
  refine Every.seq (@restoreOperations_traces record.sessionId ⟨record, [], false⟩
    record.operations [] (by simp) distinct) fun visited pass known => ?_
  obtain ⟨visits, session, -, conflicts⟩ := known
  refine (finishRestore_traces record.sessionId pass _).mono fun last outcome known => ?_
  refine ⟨answer, visited, last, rfl, visits, known.1, ?_⟩
  intro unrestored operation member conflict
  exact known.2 (conflicts operation member conflict) (by rwa [session])

/-! ## Compare and restore -/

/-- Every restore follows the readback of its own operation's owned value. -/
def Guarded (operations : List OperationRecord) (trace : Trace) : Prop :=
  ∀ (earlier later : Trace) (sessionId : SessionId) (mutation : PlannedMutation)
    (snapshot : Snapshot) (owned : StateFingerprint) (result : Except SysboostError RestoreReceipt),
    trace = earlier ++ ⟨.restore sessionId mutation snapshot owned, result⟩ :: later →
    (∃ before, earlier = before ++ [⟨.verify sessionId .restore mutation
      snapshot.originalFingerprint snapshot.targetIdentity, .ok owned⟩]) ∧
    ∃ operation ∈ operations, operation.mutation = mutation ∧
      operation.snapshot = some snapshot ∧
      ∃ receipt, operation.applyReceipt = some receipt ∧ receipt.ownershipFingerprint = owned

theorem Silent.guarded {operations : List OperationRecord} {trace : Trace}
    (silent : Silent trace) : Guarded operations trace := by
  rintro earlier later sessionId mutation snapshot owned result rfl
  have other := silent ⟨.restore sessionId mutation snapshot owned, result⟩ (by simp)
  cases other

theorem guarded_now (operations : List OperationRecord) (answer : Answer .now) :
    Guarded operations [⟨.now, answer⟩] := by
  intro earlier later sessionId mutation snapshot owned result split
  have member : ⟨.restore sessionId mutation snapshot owned, result⟩ ∈
      ([⟨.now, answer⟩] : Trace) := by
    rw [split]
    simp
  cases List.mem_singleton.mp member

theorem Guarded.append {operations : List OperationRecord} {first second : Trace}
    (guarded : Guarded operations first) (guarded' : Guarded operations second) :
    Guarded operations (first ++ second) := by
  intro earlier later sessionId mutation snapshot owned result split
  rcases List.append_eq_append_iff.mp split with ⟨middle, here, there⟩ | ⟨middle, here, there⟩
  · obtain ⟨⟨before, same⟩, found⟩ :=
      guarded' middle later sessionId mutation snapshot owned result there
    exact ⟨⟨first ++ before, by rw [here, same, List.append_assoc]⟩, found⟩
  · rcases middle with _ | ⟨exchange, middle⟩
    · rw [List.nil_append] at there
      rw [List.append_nil] at here
      obtain ⟨⟨before, same⟩, -⟩ :=
        guarded' [] later sessionId mutation snapshot owned result there.symm
      simp at same
    · rw [List.cons_append, List.cons.injEq] at there
      rw [← there.1] at here
      exact guarded earlier middle sessionId mutation snapshot owned result here

theorem Guarded.mono {operations more : List OperationRecord} {trace : Trace}
    (guarded : Guarded operations trace) (subset : ∀ operation ∈ operations, operation ∈ more) :
    Guarded more trace := by
  intro earlier later sessionId mutation snapshot owned result split
  obtain ⟨before, operation, member, found⟩ :=
    guarded earlier later sessionId mutation snapshot owned result split
  exact ⟨before, operation, subset operation member, found⟩

theorem Visit.guarded {sessionId : SessionId} {operation : OperationRecord} {trace : Trace}
    (visit : Visit sessionId operation trace) : Guarded [operation] trace := by
  cases visit with
  | skipped skip => exact silent_nil.guarded
  | @read snapshot receipt begun stored observed more restorable has received unowned silent =>
      intro earlier later session mutation snapshot' owned result split
      have member : ⟨.restore session mutation snapshot' owned, result⟩ ∈
          earlier ++ ⟨.restore session mutation snapshot' owned, result⟩ :: later := by simp
      rw [← split] at member
      simp only [List.mem_cons, Exchange.mk.injEq, reduceCtorEq, false_and, false_or] at member
      have other := silent _ member
      cases other
  | @restored snapshot receipt begun stored result more restorable has received changed silent =>
      intro earlier later session mutation snapshot' owned result' split
      rcases earlier with _ | ⟨first, _ | ⟨second, earlier⟩⟩
      · simp at split
      · simp at split
      rcases earlier with _ | ⟨third, earlier⟩
      · simp only [List.cons_append, List.nil_append, List.cons.injEq, Exchange.mk.injEq,
          Call.restore.injEq] at split
        obtain ⟨rfl, rfl, ⟨⟨rfl, rfl, rfl, rfl⟩, -⟩, -⟩ := split
        exact ⟨⟨[_], rfl⟩, operation, by simp, rfl, has, receipt, received, rfl⟩
      · simp only [List.cons_append, List.cons.injEq] at split
        have member : ⟨.restore session mutation snapshot' owned, result'⟩ ∈ more := by
          rw [split.2.2.2]
          simp
        have other := silent _ member
        cases other

theorem Visits.guarded {sessionId : SessionId} {operations : List OperationRecord} {trace : Trace}
    (visits : Visits sessionId operations trace) : Guarded operations trace := by
  induction visits with
  | nil => exact silent_nil.guarded
  | cons visit visits ih =>
      exact (visit.guarded.mono (by simp)).append (ih.mono fun other member => by simp [member])

theorem Silent.filterMap_readback {trace : Trace} (silent : Silent trace) :
    trace.filterMap readback = [] :=
  List.filterMap_eq_nil_iff.mpr fun _ => silent.readback_eq_none

theorem Visit.filterMap_readback {sessionId : SessionId} {operation : OperationRecord}
    {trace : Trace} (visit : Visit sessionId operation trace) :
    trace.filterMap readback =
      ([operation].filter Restorable).map OperationRecord.mutation := by
  cases visit with
  | skipped skip => simp [skip]
  | read restorable has received unowned silent =>
      rw [List.filterMap_cons_none rfl, List.filterMap_cons_some (f := readback) rfl,
        silent.filterMap_readback]
      simp [restorable]
  | restored restorable has received changed silent =>
      rw [List.filterMap_cons_none rfl, List.filterMap_cons_some (f := readback) rfl,
        List.filterMap_cons_none rfl, silent.filterMap_readback]
      simp [restorable]

/-- The restorable operations are read back, each once and in this order. -/
theorem Visits.filterMap_readback {sessionId : SessionId} {operations : List OperationRecord}
    {trace : Trace} (visits : Visits sessionId operations trace) :
    trace.filterMap readback = (operations.filter Restorable).map OperationRecord.mutation := by
  induction visits with
  | nil => rfl
  | @cons operation rest first more visit visits ih =>
      rw [List.filterMap_append, visit.filterMap_readback, ih, ← List.map_append,
        ← List.filter_append, List.singleton_append]

/-- Readbacks of different mutations tell the exchanges of a trace apart. -/
theorem eq_of_readback_nodup {trace : Trace} (nodup : (trace.filterMap readback).Nodup)
    {first second : Exchange Answer} (member : first ∈ trace) (member' : second ∈ trace)
    {mutation : PlannedMutation} (reads : readback first = some mutation)
    (reads' : readback second = some mutation) : first = second := by
  induction trace with
  | nil => cases member
  | cons exchange rest ih =>
      have later (other : Exchange Answer) (present : other ∈ rest)
          (same : readback other = some mutation) : mutation ∈ rest.filterMap readback :=
        List.mem_filterMap.mpr ⟨other, present, same⟩
      cases read : readback exchange with
      | none =>
          rw [List.filterMap_cons_none read] at nodup
          have here (other : Exchange Answer) (present : other ∈ exchange :: rest)
              (same : readback other = some mutation) : other ∈ rest := by
            rcases List.mem_cons.mp present with rfl | present
            · simp [read] at same
            · exact present
          exact ih nodup (here first member reads) (here second member' reads')
      | some found =>
          rw [List.filterMap_cons_some read, List.nodup_cons] at nodup
          rcases List.mem_cons.mp member with rfl | inside <;>
            rcases List.mem_cons.mp member' with rfl | inside'
          · rfl
          · rw [read, Option.some.injEq] at reads
            exact absurd (reads ▸ later second inside' reads') nodup.1
          · rw [read, Option.some.injEq] at reads'
            exact absurd (reads' ▸ later first inside reads) nodup.1
          · exact ih nodup.2 inside inside'

/-- What compare-and-restore promises of the calls and the result of a pass. -/
structure ComparesAndRestores (record : SessionRecord) (trace : Trace)
    (outcome : Except SysboostError SessionState × SessionRecord) : Prop where
  /-- A restore follows the readback of the owned value. -/
  guarded : Guarded record.operations trace
  /-- Whatever is answered, every restorable operation is read back, in reverse plan order. -/
  ordered : trace.filterMap readback =
    ((record.operations.filter Restorable).map OperationRecord.mutation).reverse
  /-- A target with a third value is not written, and the pass fails. -/
  refused : ∀ operation ∈ record.operations, Conflicts record.sessionId operation trace →
    (∀ exchange ∈ trace, ∀ sessionId snapshot owned,
      exchange.request ≠ .restore sessionId operation.mutation snapshot owned) ∧
    Refused outcome

theorem Conflicts.mem {sessionId : SessionId} {operation : OperationRecord} {trace : Trace}
    (conflicts : Conflicts sessionId operation trace) :
    operation.mutation ∈ trace.filterMap readback := by
  obtain ⟨snapshot, receipt, observed, -, -, -, -, member⟩ := conflicts
  exact List.mem_filterMap.mpr ⟨_, member, rfl⟩

theorem Possible.distinct_operations {log : List Entry} {record : SessionRecord}
    (possible : Possible log record) : Distinct record.operations :=
  possible.nodup

/-- A session with an operation to restore is not restored. -/
theorem Possible.unrestored {log : List Entry} {record : SessionRecord}
    (possible : Possible log record) {operation : OperationRecord}
    (member : operation ∈ record.operations) (restorable : Restorable operation = true) :
    record.session.state ≠ .restored := by
  intro restored
  have proven := List.all_eq_true.mp (possible.restorationProven restored) operation member
  simp only [Restorable, Bool.and_eq_true] at restorable
  simp only [OperationRecord.needsRestore, restorable.1.1, Bool.true_and, Bool.and_eq_true,
    Bool.not_eq_true', bne_eq_false_iff_eq] at proven
  simp [proven.1.1, OperationState.canTransition] at restorable

/-- **Compare and restore.**  Every pass over a record of the engine writes a
target only right after it was read back with the session-owned value, goes
through all operations in reverse plan order whatever happens to each, and fails
when a target has been changed by somebody else. -/
theorem compare_and_restore {log : List Entry} {record : SessionRecord}
    (possible : Possible log record) :
    Every (ComparesAndRestores record) (restoreRecord record) := by
  have distinct := possible.distinct_operations
  refine (restoreRecord_traces distinct).mono fun trace outcome known => ?_
  obtain ⟨answer, visited, last, rfl, visits, silent, refused⟩ := known
  have ordered : (⟨.now, answer⟩ :: (visited ++ last) : Trace).filterMap readback =
      ((record.operations.filter Restorable).map OperationRecord.mutation).reverse := by
    rw [List.filterMap_cons_none rfl, List.filterMap_append, visits.filterMap_readback,
      silent.filterMap_readback, List.append_nil, List.filter_reverse, List.map_reverse]
  have guarded : Guarded record.operations (⟨.now, answer⟩ :: (visited ++ last)) :=
    (guarded_now _ answer).append ((visits.guarded.mono (by simp)).append silent.guarded)
  refine ⟨guarded, ordered, fun operation member conflicts => ?_⟩
  have nodup : ((⟨.now, answer⟩ :: (visited ++ last) : Trace).filterMap readback).Nodup := by
    rw [ordered, List.nodup_reverse]
    have sub := List.Sublist.map OperationRecord.mutation
      (List.filter_sublist (p := Restorable) (l := record.operations))
    refine List.Nodup.sublist sub ?_
    exact List.Nodup.of_map PlannedMutation.mutationId (by rw [List.map_map]; exact distinct)
  obtain ⟨other, present, same⟩ :
      ∃ other ∈ record.operations.filter Restorable, other.mutation = operation.mutation := by
    have member := conflicts.mem
    rw [ordered, List.mem_reverse] at member
    exact List.mem_map.mp member
  obtain ⟨present, restorable⟩ := List.mem_filter.mp present
  refine ⟨?_, ?_⟩
  · rintro ⟨call, result⟩ written sessionId snapshot owned rfl
    obtain ⟨snapshot', receipt', observed, has', received', original, unowned, read⟩ := conflicts
    obtain ⟨earlier, later, split⟩ := List.append_of_mem written
    obtain ⟨⟨before, previous⟩, found, member', same', has, receipt, received, rfl⟩ :=
      guarded earlier later sessionId _ snapshot owned result split
    have identical : found = operation :=
      possible.distinct found member' operation member (by rw [same'])
    subst found
    rw [received, Option.some.injEq] at received'
    rw [has, Option.some.injEq] at has'
    subst received' has'
    have previously : ⟨.verify sessionId .restore operation.mutation snapshot.originalFingerprint
        snapshot.targetIdentity, .ok receipt.ownershipFingerprint⟩ ∈
        (⟨.now, answer⟩ :: (visited ++ last) : Trace) := by
      rw [split, previous]
      simp
    have twice := eq_of_readback_nodup nodup read previously rfl rfl
    cases twice
    exact unowned rfl
  · refine refused (possible.unrestored present restorable) operation member ?_
    obtain ⟨snapshot, receipt, observed, has, received, original, unowned, read⟩ := conflicts
    refine ⟨snapshot, receipt, observed, has, received, original, unowned, ?_⟩
    rcases List.mem_cons.mp read with impossible | read
    · cases impossible
    rcases List.mem_append.mp read with read | read
    · exact read
    · exact absurd (silent.readback_eq_none read) (by simp [readback])

theorem compare_and_restore_governor :
    ∃ record ∈ (appliedWorld steadyKit).files, record.session.state = .active ∧
      Every (ComparesAndRestores record) (restoreRecord record) := by
  have stored : ∃ record ∈ (appliedWorld steadyKit).files, record.session.state = .active := by
    decide +kernel
  obtain ⟨record, member, active⟩ := stored
  have coherent := (appliedWorld_reachable steadyKit).coherent
  exact ⟨record, member, active, compare_and_restore (coherent.possible record member)⟩

end Sysboost.Platform
