import Sysboost.Platform.Shape

/-!
# Accounting for every apply

An operation is unsettled while its target may hold a value of the session.
For a possible record, every apply in the log is a reported failure, is
followed by a proof of the original, or belongs to an unsettled operation; a
restored record has no unsettled operation.
-/

namespace Sysboost.Platform

open Sysboost.Core Interaction

/-- The target of the operation may hold a value of the session. -/
def Unsettled (operation : OperationRecord) : Prop :=
  operation.state = .applying ∨ operation.needsRestore = true

/-- The apply is a reported failure or is followed by a proof of the original. -/
def Settled (newer : List Entry) (entry : Entry) (sessionId : SessionId)
    (mutation : PlannedMutation) (snapshot : Snapshot) : Prop :=
  entry.ReportedFailure ∨ ∃ proof ∈ newer, proof.Proves sessionId mutation snapshot

/-- Every apply of the session is settled. -/
def Accounted (log : List Entry) (sessionId : SessionId) : Prop :=
  ∀ newer entry older mutation snapshot, log = newer ++ entry :: older →
    entry.IsApply sessionId mutation snapshot → Settled newer entry sessionId mutation snapshot

theorem Entry.IsApply.not_proves {entry : Entry} {sessionId : SessionId}
    {mutation : PlannedMutation} {snapshot : Snapshot}
    (isApply : entry.IsApply sessionId mutation snapshot) {session : SessionId}
    {proven : PlannedMutation} {original : Snapshot} :
    ¬ entry.Proves session proven original := by
  obtain ⟨engine, answer, changed, rfl⟩ := isApply
  exact id

/-- An apply belongs to one session, mutation and snapshot only. -/
theorem Entry.IsApply.inj {entry : Entry} {first second : SessionId}
    {mutation mutation' : PlannedMutation} {snapshot snapshot' : Snapshot}
    (one : entry.IsApply first mutation snapshot)
    (two : entry.IsApply second mutation' snapshot') :
    first = second ∧ mutation = mutation' ∧ snapshot = snapshot' := by
  obtain ⟨engine, answer, changed, rfl⟩ := one
  obtain ⟨engine', answer', changed', same⟩ := two
  injection same with _ same
  injection same with same
  injection same with one two three
  exact ⟨one, two, three⟩

theorem Settled.grow {newer : List Entry} {entry last : Entry} {sessionId : SessionId}
    {mutation : PlannedMutation} {snapshot : Snapshot}
    (settled : Settled newer entry sessionId mutation snapshot) :
    Settled (last :: newer) entry sessionId mutation snapshot := by
  rcases settled with reported | ⟨proof, member, proves⟩
  · exact .inl reported
  · exact .inr ⟨proof, List.mem_cons_of_mem _ member, proves⟩

/-- The account stays complete while nothing is applied for the session. -/
theorem Accounted.grow {log : List Entry} {sessionId : SessionId} {last : Entry}
    (accounted : Accounted log sessionId)
    (quiet : ∀ mutation snapshot, ¬ last.IsApply sessionId mutation snapshot) :
    Accounted (last :: log) sessionId := by
  intro newer entry older mutation snapshot split isApply
  rcases newer with _ | ⟨first, newer⟩
  · rw [List.nil_append, List.cons.injEq] at split
    exact absurd (split.1 ▸ isApply) (quiet mutation snapshot)
  · rw [List.cons_append, List.cons.injEq] at split
    exact (accounted newer entry older mutation snapshot split.2 isApply).grow

/-! ## One step -/

namespace OperationStep

variable {log : List Entry} {sessionId : SessionId} {before after : OperationRecord}

theorem not_intended (step : OperationStep log sessionId before after) :
    after.state ≠ .intentRecorded := by
  cases step with
  | @verify receipt verification applied has own expected matched =>
      cases result : verification.matched <;> simp
  | annotate failed reported => simp [failed]
  | _ => simp

/-- A step leaves an operation unsettled unless it settles every apply. -/
theorem settles (step : OperationStep log sessionId before after) {newer older : List Entry}
    {entry : Entry} {snapshot : Snapshot} (split : log = newer ++ entry :: older)
    (isApply : entry.IsApply sessionId before.mutation snapshot)
    (has : before.snapshot = some snapshot)
    (old : Settled newer entry sessionId before.mutation snapshot ∨ Unsettled before) :
    Settled newer entry sessionId before.mutation snapshot ∨ Unsettled after := by
  rcases old with settled | unsettled
  · exact .inl settled
  have restores {state : OperationState} (here : before.state = state)
      (other : state ≠ .applying) : before.applyReceipt.isSome = true := by
    rcases unsettled with applying | needs
    · exact absurd (here.symm.trans applying) other
    · simp only [OperationRecord.needsRestore, Bool.and_eq_true] at needs
      exact needs.1
  cases step with
  | begin intended => exact .inr (.inl rfl)
  | receive applying own received => exact .inr (.inr rfl)
  | reject applying failed reported =>
      exact .inl (.inl (failed entry (by simp [split]) snapshot isApply))
  | refuse applied reported =>
      exact .inr (.inr (by simp [OperationRecord.needsRestore, restores applied]))
  | @verify receipt verification applied has own expected matched =>
      refine .inr (.inr ?_)
      cases result : verification.matched <;>
        simp [OperationRecord.needsRestore, restores applied]
  | annotate failed reported =>
      exact .inr (.inr (by simp [OperationRecord.needsRestore, restores failed, failed]))
  | beginRestore received legal =>
      exact .inr (.inr (by simp [OperationRecord.needsRestore, received]))
  | @prove receipt held proof rest restoring holds own verified original latest proves =>
      rw [has, Option.some.injEq] at holds
      subst holds
      left
      right
      rw [latest] at split
      rcases newer with _ | ⟨first, newer⟩
      · rw [List.nil_append, List.cons.injEq] at split
        rw [← split.1] at isApply
        exact absurd proves isApply.not_proves
      · rw [List.cons_append, List.cons.injEq] at split
        exact ⟨proof, by simp [split.1], proves⟩
  | failRestore restoring reported =>
      exact .inr (.inr (by simp [OperationRecord.needsRestore, restores restoring]))

end OperationStep

/-! ## Every record -/

/-- What a record says about the applies of its session. -/
structure Tracks (log : List Entry) (record : SessionRecord) : Prop where
  untouched : ∀ operation ∈ record.operations, operation.state = .intentRecorded →
    Unapplied log record.sessionId operation.mutation
  covered : ∀ newer entry older mutation snapshot, log = newer ++ entry :: older →
    entry.IsApply record.sessionId mutation snapshot →
    ∃ operation ∈ record.operations, operation.mutation = mutation ∧
      operation.snapshot = some snapshot ∧
      (Settled newer entry record.sessionId mutation snapshot ∨ Unsettled operation)

namespace Tracks

variable {log : List Entry} {record after : SessionRecord}

theorem edit (tracks : Tracks log record) (edit : Edit log record after) : Tracks log after := by
  cases edit with
  | @operation front back before after busy split step =>
      obtain ⟨untouched, covered⟩ := tracks
      rw [split] at untouched covered
      refine ⟨?_, ?_⟩
      · intro other member intended
        rcases List.mem_append.mp member with member | member
        · exact untouched other (by simp [member]) intended
        rcases List.mem_cons.mp member with rfl | member
        · exact absurd intended step.not_intended
        · exact untouched other (by simp [member]) intended
      · intro newer entry older mutation snapshot position isApply
        obtain ⟨operation, member, rfl, has, settled⟩ :=
          covered newer entry older mutation snapshot position isApply
        rcases List.mem_append.mp member with member | member
        · exact ⟨operation, by simp [member], rfl, has, settled⟩
        rcases List.mem_cons.mp member with rfl | member
        · exact ⟨after, by simp, step.mutation, step.snapshot.trans has,
            step.settles position isApply has settled⟩
        · exact ⟨operation, by simp [member], rfl, has, settled⟩
  | failure reported => exact ⟨tracks.untouched, tracks.covered⟩
  | move good legal proven => exact ⟨tracks.untouched, tracks.covered⟩

theorem grow {entry : Entry} (tracks : Tracks log record)
    (distinct : ∀ first ∈ record.operations, ∀ second ∈ record.operations,
      first.mutation = second.mutation → first = second)
    (admits : Admits log record entry) : Tracks (entry :: log) record := by
  refine ⟨?_, ?_⟩
  · intro operation member intended other present snapshot isApply
    rcases List.mem_cons.mp present with rfl | present
    · obtain ⟨-, applied, member', same, -, applying⟩ := admits _ snapshot isApply
      have equal := distinct operation member applied member' same.symm
      rw [equal, applying] at intended
      cases intended
    · exact tracks.untouched operation member intended other present snapshot isApply
  · intro newer first older mutation snapshot split isApply
    rcases newer with _ | ⟨last, newer⟩
    · rw [List.nil_append, List.cons.injEq] at split
      rw [← split.1] at isApply
      obtain ⟨-, operation, member, same, has, applying⟩ := admits mutation snapshot isApply
      exact ⟨operation, member, same, has, .inr (.inl applying)⟩
    · rw [List.cons_append, List.cons.injEq] at split
      obtain ⟨operation, member, same, has, settled⟩ :=
        tracks.covered newer first older mutation snapshot split.2 isApply
      exact ⟨operation, member, same, has, settled.imp Settled.grow id⟩

end Tracks

namespace Possible

variable {log : List Entry} {record : SessionRecord}

/-- The mutation ID tells the operations of a record apart. -/
theorem distinct (possible : Possible log record) :
    ∀ first ∈ record.operations, ∀ second ∈ record.operations,
      first.mutation.mutationId = second.mutation.mutationId → first = second := by
  intro first member second member' same
  exact List.inj_on_of_nodup_map possible.nodup member member' same

theorem tracks (possible : Possible log record) : Tracks log record := by
  induction possible with
  | prepared prepared unapplied =>
      refine ⟨fun operation member intended => unapplied _, ?_⟩
      intro newer entry older mutation snapshot split isApply
      exact absurd isApply (unapplied mutation entry (by simp [split]) snapshot)
  | edit possible edit ih => exact ih.edit edit
  | grow possible admits ih =>
      exact ih.grow (fun first member second member' same =>
        possible.distinct first member second member' (by rw [same])) admits

/-- Every apply of a restored session is accounted for. -/
theorem accounted (possible : Possible log record)
    (restored : record.session.state = .restored) : Accounted log record.sessionId := by
  intro newer entry older mutation snapshot split isApply
  obtain ⟨operation, member, -, -, settled | unsettled⟩ :=
    possible.tracks.covered newer entry older mutation snapshot split isApply
  · exact settled
  · have proven := List.all_eq_true.mp (possible.restorationProven restored) operation member
    simp only [Bool.and_eq_true, Bool.not_eq_true', bne_iff_ne, ne_eq] at proven
    rcases unsettled with applying | needs
    · exact absurd applying proven.1.2
    · simp [needs] at proven

/-- Nothing has been applied for a session whose operations are all intended. -/
theorem unapplied (possible : Possible log record)
    (intended : ∀ operation ∈ record.operations, operation.state = .intentRecorded)
    (mutation : PlannedMutation) : Unapplied log record.sessionId mutation := by
  intro entry member snapshot isApply
  obtain ⟨newer, older, split⟩ := List.append_of_mem member
  obtain ⟨operation, member, rfl, -⟩ :=
    possible.tracks.covered newer entry older mutation snapshot split isApply
  exact possible.tracks.untouched operation member (intended operation member) entry
    (by simp [split]) snapshot isApply

end Possible

end Sysboost.Platform
