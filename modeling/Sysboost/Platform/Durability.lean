import Sysboost.Platform.Requests
import Sysboost.Platform.Testkit

/-!
# Durable intent and honest restoration

The two safety properties of a run of any length, with crashes between any two
port calls: `backend.apply` is called for a durable intent only, and a session
is called restored only when the original of every target is proven.
-/

namespace Sysboost.Platform

open Sysboost.Core Interaction

/-- The record of the session last persisted successfully. -/
def lastPersisted (sessionId : SessionId) : List Entry → Option SessionRecord
  | [] => none
  | .port _ ⟨.create record, .ok (), _⟩ :: older =>
      if record.sessionId = sessionId then some record else lastPersisted sessionId older
  | .port _ ⟨.replace record, .ok (), _⟩ :: older =>
      if record.sessionId = sessionId then some record else lastPersisted sessionId older
  | _ :: older => lastPersisted sessionId older

theorem lastPersisted_of_written {log : List Entry} {record : SessionRecord}
    (written : Written log record) : lastPersisted record.sessionId log = some record := by
  obtain ⟨engine, changed, older, rfl⟩ := written
  simp [lastPersisted]

/-- What must be durable when `backend.apply` is called. -/
structure DurableIntent (older : List Entry) (sessionId : SessionId) (mutation : PlannedMutation)
    (snapshot : Snapshot) (record : SessionRecord) : Prop where
  persisted : lastPersisted sessionId older = some record
  /-- The operations are those of a requested plan, each with its snapshot. -/
  planned : ∃ engine plan now, .requested engine (.prepare plan) ∈ older ∧
    PlannedAs plan now record
  captured : ∀ operation ∈ record.operations, ∃ original, operation.snapshot = some original ∧
    Captured operation.mutation original
  applying : record.session.state = .applying
  intent : ∃ transition ∈ record.transitions, transition.toState = .intentDurable
  /-- The operation of the call is in state `applying`, and no other is. -/
  operation : ∃ operation ∈ record.operations, operation.mutation = mutation ∧
    operation.snapshot = some snapshot ∧ operation.state = .applying ∧
    ∀ other ∈ record.operations, other.state = .applying → other = operation

theorem Intends.durableIntent {older : List Entry} {sessionId : SessionId}
    {mutation : PlannedMutation} {snapshot : Snapshot} {record : SessionRecord}
    (intends : Intends older sessionId mutation snapshot record) :
    DurableIntent older sessionId mutation snapshot record where
  persisted := intends.session ▸ lastPersisted_of_written intends.written
  planned := intends.possible.plannedAs
  captured := fun operation member => (intends.possible.formed operation member).snapshot
  applying := intends.applying
  intent := intends.possible.intentDurable_mem
  operation := intends.operation

/-- **Write-ahead intent.**  Whenever `backend.apply` has been called in a run,
the record last persisted before the call was a durable intent for it. -/
theorem write_ahead_intent {run : Run} (reachable : Reachable run) {newer older : List Entry}
    {entry : Entry} {sessionId : SessionId} {mutation : PlannedMutation} {snapshot : Snapshot}
    (split : run.world.log = newer ++ entry :: older)
    (isApply : entry.IsApply sessionId mutation snapshot) :
    ∃ record, DurableIntent older sessionId mutation snapshot record := by
  have lawful := reachable.coherent.lawful
  rw [split] at lawful
  have permitted := lawful.entry
  obtain ⟨engine, answer, changed, rfl⟩ := isApply
  obtain ⟨record, intends⟩ := permitted.1
  exact ⟨record, intends.durableIntent⟩

/-- The snapshot of the governor fixture. -/
def governorSnapshot : Snapshot :=
  Testkit.snapshot [] governorMutation (.fromUnixMillis 7)

theorem write_ahead_intent_governor :
    ∃ newer entry older, (appliedWorld steadyKit).log = newer ++ entry :: older ∧
      entry.IsApply steadyKit.sessionId governorMutation governorSnapshot ∧
      ∃ record, DurableIntent older steadyKit.sessionId governorMutation governorSnapshot
        record := by
  have called : ∃ entry ∈ (appliedWorld steadyKit).log,
      entry.IsApply steadyKit.sessionId governorMutation governorSnapshot := by decide +kernel
  obtain ⟨entry, member, isApply⟩ := called
  obtain ⟨newer, older, split⟩ := List.append_of_mem member
  exact ⟨newer, entry, older, split, isApply,
    write_ahead_intent (appliedWorld_reachable steadyKit) split isApply⟩

/-- The entry returns or persists a restored session. -/
def Entry.Declares (sessionId : SessionId) : Entry → Prop
  | .port _ ⟨.create record, _, _⟩ =>
      record.session.state = .restored ∧ record.sessionId = sessionId
  | .port _ ⟨.replace record, _, _⟩ =>
      record.session.state = .restored ∧ record.sessionId = sessionId
  | .returned _ request reply => Platform.Declares request reply sessionId
  | _ => False

theorem accounted_of_declares {older : List Entry} {entry : Entry} {sessionId : SessionId}
    (permitted : entry.Permitted older) (declares : entry.Declares sessionId) :
    Accounted older sessionId := by
  cases entry with
  | requested engine request => exact declares.elim
  | returned engine request reply => exact permitted sessionId declares
  | port engine event =>
      obtain ⟨call, answer, changed⟩ := event
      cases call with
      | create record =>
          obtain ⟨restored, rfl⟩ := declares
          obtain ⟨-, plan, now, -, built⟩ := permitted.1
          simp [built.session] at restored
      | replace record =>
          obtain ⟨restored, rfl⟩ := declares
          exact Possible.accounted permitted.1 restored
      | _ => exact declares.elim

/-- **No false Restored.**  When a session is returned or persisted as
restored, every earlier apply for it had a durable snapshot, and is a reported
failure that left its target unchanged or is followed by a proof that the
target equals the original of that snapshot. -/
theorem no_false_restored {run : Run} (reachable : Reachable run) {newer older : List Entry}
    {entry : Entry} {sessionId : SessionId} (split : run.world.log = newer ++ entry :: older)
    (declares : entry.Declares sessionId) {between earlier : List Entry} {applied : Entry}
    {mutation : PlannedMutation} {snapshot : Snapshot}
    (before : older = between ++ applied :: earlier)
    (isApply : applied.IsApply sessionId mutation snapshot) :
    (∃ record, lastPersisted sessionId earlier = some record ∧
      ∃ operation ∈ record.operations, operation.mutation = mutation ∧
        operation.snapshot = some snapshot) ∧
      (applied.ReportedFailure ∨
        ∃ proof ∈ between, proof.Proves sessionId mutation snapshot) := by
  have lawful := reachable.coherent.lawful
  rw [split] at lawful
  have settled := accounted_of_declares lawful.entry declares between applied earlier mutation
    snapshot before isApply
  rw [before, ← List.cons_append, ← List.append_assoc] at lawful
  have permitted := lawful.entry
  obtain ⟨engine, answer, changed, rfl⟩ := isApply
  obtain ⟨record, intends⟩ := permitted.1
  have durable := intends.durableIntent
  obtain ⟨operation, member, same, has, -⟩ := durable.operation
  exact ⟨⟨record, durable.persisted, operation, member, same, has⟩, settled⟩

theorem no_false_restored_governor :
    ∃ outcome, outcome = steadyKit.outcome 0 (.restore steadyKit.sessionId)
        (appliedWorld steadyKit) ∧ outcome.1 = .state (.ok .restored) ∧
      ∃ between applied earlier, outcome.2.log = between ++ applied :: earlier ∧
        applied.IsApply steadyKit.sessionId governorMutation governorSnapshot ∧
        (∃ record, lastPersisted steadyKit.sessionId earlier = some record ∧
          ∃ operation ∈ record.operations, operation.mutation = governorMutation ∧
            operation.snapshot = some governorSnapshot) ∧
        (applied.ReportedFailure ∨ ∃ proof ∈ between,
          proof.Proves steadyKit.sessionId governorMutation governorSnapshot) := by
  obtain ⟨outcome, same⟩ : ∃ outcome, outcome =
      steadyKit.outcome 0 (.restore steadyKit.sessionId) (appliedWorld steadyKit) := ⟨_, rfl⟩
  have restored : outcome.1 = .state (.ok .restored) := by
    rw [same]
    decide +kernel
  have called : ∃ applied ∈ outcome.2.log,
      applied.IsApply steadyKit.sessionId governorMutation governorSnapshot := by
    rw [same]
    decide +kernel
  have reachable := steadyKit.reachable_outcome (appliedWorld_reachable steadyKit) 0
    (.restore steadyKit.sessionId)
  rw [← same] at reachable
  obtain ⟨applied, member, isApply⟩ := called
  obtain ⟨between, earlier, before⟩ := List.append_of_mem member
  have split : (outcome.2.note (.returned 0 (.restore steadyKit.sessionId) outcome.1)).log =
      [] ++ .returned 0 (.restore steadyKit.sessionId) outcome.1 :: outcome.2.log := rfl
  have declares : (Entry.returned 0 (.restore steadyKit.sessionId) outcome.1).Declares
      steadyKit.sessionId := by
    rw [restored]
    rfl
  exact ⟨outcome, same, restored, between, applied, earlier, before, isApply,
    no_false_restored reachable split declares before isApply⟩

end Sysboost.Platform
