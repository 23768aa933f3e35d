import Sysboost.Platform.World
import Sysboost.Core.Validate

/-!
# The record of a prepared session

What `prepare` hands to the store: every operation of the plan carries the
snapshot captured for it and is durably intended, and nothing else has
happened.
-/

namespace Sysboost.Platform

open Sysboost.Core Interaction ByteCodec Results

/-- The snapshot passed every check against its mutation. -/
structure Captured (mutation : PlannedMutation) (snapshot : Snapshot) : Prop where
  mutationId : snapshot.mutationId = mutation.mutationId
  target : snapshot.target = mutation.target
  equality : snapshot.equality = mutation.equality
  original : snapshot.originalFingerprint = mutation.precondition
  identity : snapshot.targetIdentity.bytes ≠ .fill 16 0

/-- An operation before the intent is recorded. -/
inductive Drafted : OperationRecord → Prop where
  | planned (mutation : PlannedMutation) : Drafted (.planned mutation)
  | snapshotted {mutation : PlannedMutation} {snapshot : Snapshot}
      (captured : Captured mutation snapshot) :
      Drafted ⟨mutation, .snapshotted, some snapshot, none, none, none, none⟩

/-- An operation of a prepared record. -/
inductive Intended : OperationRecord → Prop where
  | intro {mutation : PlannedMutation} {snapshot : Snapshot}
      (captured : Captured mutation snapshot) :
      Intended ⟨mutation, .intentRecorded, some snapshot, none, none, none, none⟩

/-- The transitions of a prepared record. -/
def preparedTransitions (sessionId : SessionId) (now : Timestamp) : List TransitionRecord :=
  [⟨1, sessionId, .new, .detected, now, "capability evidence accepted"⟩,
    ⟨2, sessionId, .detected, .planned, now, "complete typed plan accepted"⟩,
    ⟨3, sessionId, .planned, .snapshotted, now, "all original states captured"⟩,
    ⟨4, sessionId, .snapshotted, .intentDurable, now,
      "snapshots and mutation intent are durable"⟩]

/-- What is known of a prepared record. -/
structure PreparedFor (plan : Plan) (now : Timestamp) (sessionId : SessionId)
    (record : SessionRecord) : Prop where
  session : record.session = { Session.new sessionId plan now with state := .intentDurable }
  mutations : record.operations.map OperationRecord.mutation = plan.mutations
  intended : ∀ operation ∈ record.operations, Intended operation
  nonempty : plan.mutations ≠ []
  bounded : plan.mutations.length ≤ maxOperations
  nodup : (plan.mutations.map PlannedMutation.mutationId).Nodup
  transitions : record.transitions = preparedTransitions sessionId now
  failures : record.failures = []

/-! ## Building it -/

theorem advance_eq_ok_iff {outcome : Except SysboostError Unit × SessionRecord}
    {record : SessionRecord} : advance outcome = .ok record ↔ outcome = (.ok (), record) := by
  rcases outcome with ⟨_ | _, left⟩ <;> simp [advance, Except.map]

theorem planOperations_eq_ok {seen : List MutationId} {mutations : List PlannedMutation}
    {operations : List OperationRecord}
    (ok : SessionRecord.planOperations seen mutations = .ok operations) :
    operations = mutations.map .planned ∧ (mutations.map PlannedMutation.mutationId).Nodup ∧
      ∀ mutation ∈ mutations, mutation.mutationId ∉ seen := by
  induction mutations generalizing seen operations with
  | nil =>
      cases ok
      simp
  | cons mutation rest ih =>
      by_cases repeated : mutation.mutationId ∈ seen
      · simp [SessionRecord.planOperations, repeated] at ok
      · simp only [SessionRecord.planOperations, repeated, if_false, bind_eq_ok_iff] at ok
        obtain ⟨later, laterOk, same⟩ := ok
        obtain ⟨rfl, nodup, unseen⟩ := ih laterOk
        cases same
        refine ⟨rfl, ?_, ?_⟩
        · refine List.nodup_cons.mpr ⟨fun again => ?_, nodup⟩
          obtain ⟨other, member, same⟩ := List.mem_map.mp again
          exact unseen other member (by simp [same])
        · intro other member
          rcases List.mem_cons.mp member with rfl | member
          · exact repeated
          · exact fun earlier => unseen other member (List.mem_cons_of_mem _ earlier)

theorem new_eq_ok {session : Session} {mutations : List PlannedMutation} {record : SessionRecord}
    (ok : SessionRecord.new session mutations = .ok record) :
    record = ⟨session, mutations.map .planned, [], []⟩ ∧ mutations ≠ [] ∧
      mutations.length ≤ maxOperations ∧ (mutations.map PlannedMutation.mutationId).Nodup := by
  by_cases none : mutations.isEmpty = true
  · simp [SessionRecord.new, none] at ok
  by_cases many : mutations.length > maxOperations
  · simp [SessionRecord.new, none, many] at ok
  simp only [SessionRecord.new, none, many, Bool.false_eq_true, if_false, bind_eq_ok_iff] at ok
  obtain ⟨operations, planned, same⟩ := ok
  obtain ⟨rfl, nodup, -⟩ := planOperations_eq_ok planned
  cases same
  refine ⟨rfl, ?_, Nat.le_of_not_lt many, nodup⟩
  rintro rfl
  exact none rfl

/-- Two records that differ in their operations only, mutation by mutation. -/
structure SamePlan (before after : SessionRecord) : Prop where
  session : after.session = before.session
  transitions : after.transitions = before.transitions
  failures : after.failures = before.failures
  mutations : after.operations.map OperationRecord.mutation =
    before.operations.map OperationRecord.mutation

theorem SamePlan.trans {first second third : SessionRecord} (one : SamePlan first second)
    (two : SamePlan second third) : SamePlan first third where
  session := two.session.trans one.session
  transitions := two.transitions.trans one.transitions
  failures := two.failures.trans one.failures
  mutations := two.mutations.trans one.mutations

/-- A method of one operation that keeps its mutation. -/
theorem SamePlan.onOperation {record after : SessionRecord} {mutationId : MutationId}
    {update : OperationRecord → Except SysboostError Unit × OperationRecord}
    (keeps : ∀ operation operation', update operation = (.ok (), operation') →
      operation'.mutation = operation.mutation)
    (ok : record.onOperation mutationId update = (.ok (), after)) : SamePlan record after := by
  obtain ⟨front, operation, back, operation', split, rfl, -, updated⟩ :=
    SessionRecord.onOperation_eq_ok ok
  refine ⟨rfl, rfl, rfl, ?_⟩
  simp [split, keeps _ _ updated]

theorem captureSnapshot_drafted {record after : SessionRecord} {snapshot : Snapshot}
    (drafted : ∀ operation ∈ record.operations, Drafted operation)
    (ok : record.captureSnapshot snapshot = (.ok (), after)) :
    (∀ operation ∈ after.operations, Drafted operation) ∧ SamePlan record after := by
  obtain ⟨front, operation, back, operation', split, rfl, own, updated⟩ :=
    SessionRecord.onOperation_eq_ok ok
  rw [split] at drafted
  have captured : Drafted operation' ∧ operation'.mutation = operation.mutation := by
    split at updated
    · simp at updated
    · rename_i valid
      split at updated
      · simp at updated
      · rename_i pristine
        obtain ⟨-, rfl⟩ := OperationRecord.eq_of_transition updated
        simp only [Bool.or_eq_true, decide_eq_true_eq, not_or, not_not] at valid pristine
        cases drafted operation (by simp) with
        | planned mutation =>
            exact ⟨.snapshotted ⟨own.symm, valid.1.1.1, valid.1.1.2, valid.1.2, valid.2⟩, rfl⟩
        | snapshotted captured => simp at pristine
  refine ⟨?_, rfl, rfl, rfl, ?_⟩
  · intro other member
    rcases List.mem_append.mp member with member | member
    · exact drafted other (by simp [member])
    rcases List.mem_cons.mp member with rfl | member
    · exact captured.1
    · exact drafted other (by simp [member])
  · simp [split, captured.2]

theorem captureAll_drafted {snapshots : List Snapshot} {record after : SessionRecord}
    (drafted : ∀ operation ∈ record.operations, Drafted operation)
    (ok : snapshots.foldlM (fun record snapshot => advance (record.captureSnapshot snapshot))
      record = .ok after) :
    (∀ operation ∈ after.operations, Drafted operation) ∧ SamePlan record after := by
  induction snapshots generalizing record with
  | nil =>
      cases ok
      exact ⟨drafted, rfl, rfl, rfl, rfl⟩
  | cons snapshot rest ih =>
      rw [List.foldlM_cons, bind_eq_ok_iff] at ok
      obtain ⟨middle, first, later⟩ := ok
      obtain ⟨drafted', one⟩ := captureSnapshot_drafted drafted (advance_eq_ok_iff.mp first)
      obtain ⟨drafted'', two⟩ := ih drafted' later
      exact ⟨drafted'', one.trans two⟩

theorem intendAll_snapshotted {operations : List OperationRecord}
    (ready : ∀ operation ∈ operations, operation.state = .snapshotted) :
    SessionRecord.intendAll operations =
      (.ok (), operations.map fun operation => { operation with state := .intentRecorded }) := by
  induction operations with
  | nil => rfl
  | cons operation rest ih =>
      have here := ready operation (by simp)
      have legal : operation.state.canTransition .intentRecorded = true := by rw [here]; rfl
      have later := ih fun other member => ready other (by simp [member])
      simp [SessionRecord.intendAll, OperationRecord.transition_of_legal legal, later]

theorem recordIntent_intended {record after : SessionRecord}
    (drafted : ∀ operation ∈ record.operations, Drafted operation)
    (ok : record.recordIntent = (.ok (), after)) :
    (∀ operation ∈ after.operations, Intended operation) ∧ SamePlan record after := by
  unfold SessionRecord.recordIntent at ok
  split at ok
  · simp at ok
  · rename_i complete
    have ready : ∀ operation ∈ record.operations, operation.state = .snapshotted := by
      simpa using complete
    rw [intendAll_snapshotted ready, Prod.mk.injEq] at ok
    obtain ⟨-, rfl⟩ := ok
    refine ⟨?_, rfl, rfl, rfl, by simp⟩
    intro other member
    obtain ⟨operation, present, rfl⟩ := List.mem_map.mp member
    have state := ready operation present
    cases drafted operation present with
    | planned mutation => simp [OperationRecord.planned] at state
    | snapshotted captured => exact .intro captured

/-- A record `prepare` has built is prepared for its plan. -/
theorem preparedFor_of_preparedRecord {plan : Plan} {now : Timestamp} {snapshots : List Snapshot}
    {sessionId : SessionId} {record : SessionRecord}
    (ok : preparedRecord plan now snapshots sessionId = .ok record) :
    PreparedFor plan now sessionId record := by
  unfold preparedRecord at ok
  simp only [bind_eq_ok_iff, advance_eq_ok_iff] at ok
  obtain ⟨fresh, freshOk, detected, detectedOk, planned, plannedOk, captured, capturedOk,
    snapshotted, snapshottedOk, intended, intendedOk, durableOk⟩ := ok
  obtain ⟨rfl, nonempty, bounded, nodup⟩ := new_eq_ok freshOk
  obtain ⟨-, rfl⟩ := SessionRecord.moved_of_transition detectedOk
  obtain ⟨-, rfl⟩ := SessionRecord.moved_of_transition plannedOk
  have drafts : ∀ operation ∈ plan.mutations.map OperationRecord.planned, Drafted operation := by
    intro operation member
    obtain ⟨mutation, -, rfl⟩ := List.mem_map.mp member
    exact .planned mutation
  obtain ⟨drafted, one⟩ := captureAll_drafted (by exact drafts) capturedOk
  obtain ⟨-, rfl⟩ := SessionRecord.moved_of_transition snapshottedOk
  obtain ⟨intends, two⟩ := recordIntent_intended (by exact drafted) intendedOk
  obtain ⟨-, rfl⟩ := SessionRecord.moved_of_transition durableOk
  obtain ⟨session, transitions, failures, mutations⟩ := two
  have plan_mutations :
      intended.operations.map OperationRecord.mutation = plan.mutations := by
    refine mutations.trans (one.mutations.trans ?_)
    simp [SessionRecord.moved, Function.comp_def, OperationRecord.planned]
  have start : captured.session = { Session.new sessionId plan now with state := .planned } :=
    one.session
  have chain : captured.transitions = (preparedTransitions sessionId now).take 2 :=
    one.transitions
  refine ⟨?_, plan_mutations, intends, nonempty, bounded, nodup, ?_, ?_⟩
  · simp [SessionRecord.moved, session, start]
  · simp [SessionRecord.moved, SessionRecord.nextSequence, SessionRecord.sessionId, transitions,
      session, start, chain, preparedTransitions, Session.new]
  · exact failures.trans one.failures

end Sysboost.Platform
