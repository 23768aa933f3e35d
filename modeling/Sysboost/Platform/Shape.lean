import Sysboost.Platform.Evolution

/-!
# The shape of possible records

The mutations and the header never change, the parts of an operation are those
its state requires, and the transitions form one legal chain from `new`.
-/

namespace Sysboost.Platform

open Sysboost.Core Interaction ByteCodec

/-! ## Operations -/

/-- The parts that the state of an operation requires or excludes. -/
def Shaped (operation : OperationRecord) : Prop :=
  match operation.state with
  | .planned | .snapshotted => False
  | .intentRecorded | .applying =>
      operation.applyReceipt = none ∧ operation.verification = none ∧
        operation.restoreReceipt = none
  | .applied =>
      operation.applyReceipt.isSome ∧ operation.verification = none ∧
        operation.restoreReceipt = none
  | .verified =>
      operation.applyReceipt.isSome ∧ operation.restoreReceipt = none ∧
        ∃ verification, operation.verification = some verification ∧ verification.matched = true
  | .restoring | .restoreFailed =>
      operation.applyReceipt.isSome ∧ operation.restoreReceipt = none
  | .restored => operation.applyReceipt.isSome ∧ operation.restoreReceipt.isSome
  | .failed =>
      operation.restoreReceipt = none ∧
        ∀ verification ∈ operation.verification, verification.matched = false

/-- The receipts of an operation belong to it and say what they are kept for. -/
structure Formed (operation : OperationRecord) : Prop where
  snapshot : ∃ snapshot, operation.snapshot = some snapshot ∧
    Captured operation.mutation snapshot
  receipt : ∀ receipt ∈ operation.applyReceipt,
    receipt.mutationId = operation.mutation.mutationId
  verification : ∀ verification ∈ operation.verification,
    verification.mutationId = operation.mutation.mutationId ∧
      (∃ receipt, operation.applyReceipt = some receipt ∧
        verification.expected = receipt.ownershipFingerprint) ∧
      verification.matched = decide (verification.observed = some verification.expected)
  restored : ∀ receipt ∈ operation.restoreReceipt,
    receipt.mutationId = operation.mutation.mutationId ∧ receipt.verified = true ∧
      receipt.restoredFingerprint = operation.mutation.precondition
  shaped : Shaped operation

theorem Intended.formed {operation : OperationRecord} (intended : Intended operation) :
    Formed operation := by
  cases intended with
  | intro captured =>
      exact ⟨⟨_, rfl, captured⟩, by simp, by simp, by simp, by simp [Shaped]⟩

namespace OperationStep

variable {log : List Entry} {sessionId : SessionId} {before after : OperationRecord}

theorem mutation (step : OperationStep log sessionId before after) :
    after.mutation = before.mutation := by
  cases step <;> rfl

theorem snapshot (step : OperationStep log sessionId before after) :
    after.snapshot = before.snapshot := by
  cases step <;> rfl

theorem formed (step : OperationStep log sessionId before after) (old : Formed before) :
    Formed after := by
  have shaped := old.shaped
  cases step with
  | begin intended =>
      refine ⟨old.snapshot, old.receipt, old.verification, old.restored, ?_⟩
      simpa [Shaped, intended] using shaped
  | @receive receipt applying own received =>
      simp only [Shaped, applying] at shaped
      refine ⟨old.snapshot, ?_, ?_, old.restored, ?_⟩
      · simpa using own
      · simp [shaped.2.1]
      · simp [Shaped, shaped]
  | reject applying failed reported =>
      simp only [Shaped, applying] at shaped
      exact ⟨old.snapshot, old.receipt, old.verification, old.restored, by simp [Shaped, shaped]⟩
  | refuse applied reported =>
      simp only [Shaped, applied] at shaped
      exact ⟨old.snapshot, old.receipt, old.verification, old.restored, by simp [Shaped, shaped]⟩
  | @verify receipt verification applied has own expected matched =>
      simp only [Shaped, applied] at shaped
      refine ⟨old.snapshot, old.receipt, ?_, old.restored, ?_⟩
      · simpa [has, own, expected] using matched
      · cases result : verification.matched <;> simp [Shaped, shaped, result]
  | annotate failed reported =>
      refine ⟨old.snapshot, old.receipt, old.verification, old.restored, ?_⟩
      simpa [Shaped, failed] using shaped
  | beginRestore has legal =>
      refine ⟨old.snapshot, old.receipt, old.verification, old.restored, ?_⟩
      refine ⟨has, ?_⟩
      cases state : before.state <;> simp [Shaped, state, OperationState.canTransition] at shaped legal <;>
        simp [shaped]
  | @prove receipt snapshot entry older restoring has own verified original latest proves =>
      simp only [Shaped, restoring] at shaped
      obtain ⟨captured, held, capture⟩ := old.snapshot
      rw [has, Option.some.injEq] at held
      subst held
      refine ⟨⟨_, has, capture⟩, old.receipt, old.verification, ?_, ⟨shaped.1, rfl⟩⟩
      simp [own, verified, original, capture.original]
  | failRestore restoring reported =>
      simp only [Shaped, restoring] at shaped
      exact ⟨old.snapshot, old.receipt, old.verification, old.restored, shaped⟩

end OperationStep

/-! ## Records -/

/-- The parts of a record that are fixed when it is prepared. -/
structure PlannedAs (plan : Plan) (now : Timestamp) (record : SessionRecord) : Prop where
  header : record.session.header = (Session.new record.sessionId plan now).header
  mutations : record.operations.map OperationRecord.mutation = plan.mutations
  nonempty : plan.mutations ≠ []
  bounded : plan.mutations.length ≤ maxOperations
  nodup : (plan.mutations.map PlannedMutation.mutationId).Nodup

/-- Session states of a prepared record. -/
def Started : SessionState → Prop
  | .new | .detected | .planned | .snapshotted => False
  | _ => True

theorem Started.next {state next : SessionState} (started : Started state)
    (legal : state.canTransition next = true) : Started next ∧ next ≠ .intentDurable := by
  cases state <;> cases next <;> simp [Started, SessionState.canTransition] at *

theorem Busy.ne {state : SessionState} (busy : Busy state) :
    state ≠ .intentDurable ∧ state ≠ .restored := by
  rcases busy with rfl | rfl | rfl <;> decide

namespace Edit

variable {log : List Entry} {record after : SessionRecord}

theorem header (edit : Edit log record after) : after.session.header = record.session.header := by
  cases edit <;> rfl

theorem sessionId (edit : Edit log record after) : after.sessionId = record.sessionId :=
  congrArg SessionHeader.sessionId edit.header

theorem mutations (edit : Edit log record after) :
    after.operations.map OperationRecord.mutation =
      record.operations.map OperationRecord.mutation := by
  cases edit with
  | operation busy split step => simp [split, step.mutation]
  | failure reported => rfl
  | move good legal proven => rfl

/-- A property of operations that every step preserves. -/
theorem forall_operations {property : OperationRecord → Prop} (edit : Edit log record after)
    (steps : ∀ {before after}, OperationStep log record.sessionId before after →
      property before → property after)
    (old : ∀ operation ∈ record.operations, property operation) :
    ∀ operation ∈ after.operations, property operation := by
  cases edit with
  | @operation front back before after busy split step =>
      rw [split] at old
      intro other member
      rcases List.mem_append.mp member with member | member
      · exact old other (by simp [member])
      rcases List.mem_cons.mp member with rfl | member
      · exact steps step (old before (by simp))
      · exact old other (by simp [member])
  | failure reported => exact old
  | move good legal proven => exact old

end Edit

namespace Possible

variable {log : List Entry} {record : SessionRecord}

theorem plannedAs (possible : Possible log record) :
    ∃ engine plan now, .requested engine (.prepare plan) ∈ log ∧ PlannedAs plan now record := by
  induction possible with
  | prepared prepared unapplied =>
      obtain ⟨engine, plan, now, requested, built⟩ := prepared
      refine ⟨engine, plan, now, requested, ?_, built.mutations, built.nonempty, built.bounded,
        built.nodup⟩
      simp [built.session]
  | edit possible edit ih =>
      obtain ⟨engine, plan, now, requested, planned⟩ := ih
      refine ⟨engine, plan, now, requested, ?_, edit.mutations.trans planned.mutations,
        planned.nonempty, planned.bounded, planned.nodup⟩
      rw [edit.header, edit.sessionId, planned.header]
  | grow possible admits ih =>
      obtain ⟨engine, plan, now, requested, planned⟩ := ih
      exact ⟨engine, plan, now, List.mem_cons_of_mem _ requested, planned⟩

theorem nodup (possible : Possible log record) :
    (record.operations.map fun operation => operation.mutation.mutationId).Nodup := by
  obtain ⟨-, plan, now, -, planned⟩ := possible.plannedAs
  have distinct := planned.nodup
  rw [← planned.mutations, List.map_map] at distinct
  exact distinct

theorem formed (possible : Possible log record) :
    ∀ operation ∈ record.operations, Formed operation := by
  induction possible with
  | prepared prepared unapplied =>
      obtain ⟨engine, plan, now, requested, built⟩ := prepared
      exact fun operation member => (built.intended operation member).formed
  | edit possible edit ih => exact edit.forall_operations OperationStep.formed ih
  | grow possible admits ih => exact ih

theorem started (possible : Possible log record) : Started record.session.state := by
  induction possible with
  | prepared prepared unapplied =>
      obtain ⟨engine, plan, now, requested, built⟩ := prepared
      simp [built.session, Started]
  | edit possible edit ih =>
      cases edit with
      | operation busy split step => exact ih
      | failure reported => exact ih
      | move good legal proven => exact (ih.next legal).1
  | grow possible admits ih => exact ih

/-- Nothing has been applied before the session leaves its durable intent. -/
theorem intended (possible : Possible log record)
    (durable : record.session.state = .intentDurable) :
    ∀ operation ∈ record.operations, operation.state = .intentRecorded := by
  induction possible with
  | prepared prepared unapplied =>
      obtain ⟨engine, plan, now, requested, built⟩ := prepared
      intro operation member
      cases built.intended operation member
      rfl
  | edit possible edit ih =>
      cases edit with
      | operation busy split step => exact absurd durable busy.ne.1
      | failure reported => exact ih durable
      | move good legal proven => exact absurd durable (possible.started.next legal).2
  | grow possible admits ih => exact ih durable

/-- The durable intent stays in the chain of transitions. -/
theorem intentDurable_mem (possible : Possible log record) :
    ∃ transition ∈ record.transitions, transition.toState = .intentDurable := by
  induction possible with
  | prepared prepared unapplied =>
      obtain ⟨engine, plan, now, requested, built⟩ := prepared
      simp [built.transitions, preparedTransitions]
  | edit possible edit ih =>
      cases edit with
      | operation busy split step => exact ih
      | failure reported => exact ih
      | move good legal proven =>
          obtain ⟨transition, member, durable⟩ := ih
          exact ⟨transition, List.mem_append_left _ member, durable⟩
  | grow possible admits ih => exact ih

/-- A restored session has proven the original of every operation. -/
theorem restorationProven (possible : Possible log record)
    (restored : record.session.state = .restored) : record.restorationProven = true := by
  induction possible with
  | prepared prepared unapplied =>
      obtain ⟨engine, plan, now, requested, built⟩ := prepared
      simp [built.session] at restored
  | edit possible edit ih =>
      cases edit with
      | operation busy split step => exact absurd restored busy.ne.2
      | failure reported => exact ih restored
      | move good legal proven => exact proven restored
  | grow possible admits ih => exact ih restored

end Possible

end Sysboost.Platform
