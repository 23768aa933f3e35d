import Sysboost.Platform.CutOff
import Sysboost.Platform.Encodable

/-!
# Applies without a usable result

An apply that fails in an unknown way, or returns a receipt that does not match its
mutation, has no result that the store takes.  Its operation stays `applying` on the
disk, and no request can finish the session any more.
-/

namespace Sysboost.Platform

open Sysboost.Core Sysboost.State Interaction

/-- The engine cannot record this answer to an apply. -/
def Unusable (mutation : PlannedMutation) : Except SysboostError ApplyReceipt → Prop
  | .ok receipt => ¬receipt.Bound mutation
  | .error error => error.retryability = .unknown

/-! ## One apply for each mutation -/

theorem Lawful.unapplied {newer older : List Entry} {entry : Entry} {sessionId : SessionId}
    {mutation : PlannedMutation} {snapshot : Snapshot}
    (lawful : Lawful (newer ++ entry :: older))
    (isApply : entry.IsApply sessionId mutation snapshot) :
    Unapplied older sessionId mutation := by
  rcases isApply with ⟨engine, answer, changed, rfl⟩
  rcases lawful.entry.1 with ⟨record, intends⟩
  exact intends.unapplied

theorem Lawful.apply_unique {log : List Entry} (lawful : Lawful log) {first second : Entry}
    (member : first ∈ log) (member' : second ∈ log) {sessionId : SessionId}
    {mutation : PlannedMutation} {snapshot snapshot' : Snapshot}
    (isApply : first.IsApply sessionId mutation snapshot)
    (isApply' : second.IsApply sessionId mutation snapshot') : first = second := by
  rcases List.append_of_mem member with ⟨newer, older, rfl⟩
  rcases List.mem_append.mp member' with later | here
  · rcases List.append_of_mem later with ⟨newest, between, rfl⟩
    rw [List.append_assoc, List.cons_append] at lawful
    have unapplied := lawful.unapplied isApply'
    exact absurd isApply (unapplied first (by simp) snapshot)
  · rcases List.mem_cons.mp here with same | earlier
    · exact same.symm
    · exact absurd isApply' (lawful.unapplied isApply second earlier snapshot')

/-! ## The operation of an apply -/

/-- An operation that was applied without a reported failure has a receipt or is
still `applying`. -/
def Awaits (log : List Entry) (sessionId : SessionId) (operation : OperationRecord) : Prop :=
  ∀ entry ∈ log, ∀ snapshot, entry.IsApply sessionId operation.mutation snapshot →
    ¬entry.ReportedFailure → operation.state = .applying ∨ operation.applyReceipt.isSome

theorem OperationStep.awaits {log : List Entry} {sessionId : SessionId}
    {before after : OperationRecord} (step : OperationStep log sessionId before after)
    (old : Awaits log sessionId before) : Awaits log sessionId after := by
  intro entry member snapshot isApply unreported
  rw [step.mutation] at isApply
  have known := old entry member snapshot isApply unreported
  have received {state : OperationState} (here : before.state = state) (other : state ≠ .applying) :
      before.applyReceipt.isSome := by
    rcases known with applying | received
    · exact absurd (here.symm.trans applying) other
    · exact received
  cases step with
  | begin intended => exact .inl rfl
  | receive applying own received => exact .inr rfl
  | reject applying failed reported =>
      exact absurd (failed entry member snapshot isApply) unreported
  | refuse applied reported => exact .inr (received applied nofun)
  | verify applied has own expected matched => exact .inr (received applied nofun)
  | annotate failed reported => exact .inr (received failed nofun)
  | beginRestore has legal => exact .inr has
  | prove restoring has own verified original latest proves => exact .inr (received restoring nofun)
  | failRestore restoring reported => exact .inr (received restoring nofun)

theorem Possible.awaits {log : List Entry} {record : SessionRecord}
    (possible : Possible log record) :
    ∀ operation ∈ record.operations, Awaits log record.sessionId operation := by
  induction possible with
  | prepared prepared unapplied =>
      intro operation member entry present snapshot isApply
      exact absurd isApply (unapplied _ entry present snapshot)
  | edit possible edit ih =>
      rw [edit.sessionId]
      exact edit.forall_operations OperationStep.awaits ih
  | grow possible admits ih =>
      intro operation member entry present snapshot isApply unreported
      rcases List.mem_cons.mp present with rfl | earlier
      · rcases admits _ snapshot isApply with ⟨-, applied, member', same, -, applying⟩
        rw [possible.distinct operation member applied member' (by rw [same])]
        exact .inl applying
      · exact ih operation member entry earlier snapshot isApply unreported

/-- A valid record has no trace of an apply without a usable result. -/
theorem Possible.stranded {log : List Entry} {record : SessionRecord} {engine : EngineId}
    {mutation : PlannedMutation} {snapshot : Snapshot} {changed : Bool}
    {answer : Except SysboostError ApplyReceipt} (possible : Possible log record)
    (lawful : Lawful log) (valid : record.validateForSerialization = .ok ())
    (answered : .port engine ⟨.apply record.sessionId mutation snapshot, answer, changed⟩ ∈ log)
    (unusable : Unusable mutation answer) :
    ∃ operation ∈ record.operations, operation.mutation = mutation ∧
      operation.snapshot = some snapshot ∧ operation.state = .applying ∧
        operation.applyReceipt = none := by
  have isApply : Entry.IsApply (.port engine ⟨.apply record.sessionId mutation snapshot, answer,
      changed⟩) record.sessionId mutation snapshot := ⟨engine, answer, changed, rfl⟩
  have unreported : ¬Entry.ReportedFailure
      (.port engine ⟨.apply record.sessionId mutation snapshot, answer, changed⟩) := by
    cases answer with
    | error error => exact fun reported => reported.1 unusable
    | ok receipt => exact id
  rcases List.append_of_mem answered with ⟨newer, older, split⟩
  rcases possible.tracks.covered newer _ older mutation snapshot split isApply with
    ⟨operation, member, rfl, taken, -⟩
  have unreceived : operation.applyReceipt = none := by
    by_contra has
    rcases Option.ne_none_iff_exists'.mp has with ⟨receipt, has⟩
    rcases possible.regular.received operation member receipt has with
      ⟨other, snapshot', changed', received⟩
    have same := lawful.apply_unique answered received isApply ⟨other, .ok receipt, changed', rfl⟩
    cases same
    exact unusable ((possible.regular.validate_iff.mp valid).2 operation member receipt has)
  refine ⟨operation, member, rfl, taken, ?_, unreceived⟩
  rcases possible.awaits operation member _ answered snapshot isApply unreported with
    applying | received
  · exact applying
  · rw [unreceived] at received
    cases received

/-! ## On the disk -/

/-- Whoever reads the disk finds a session that is unfinished, in the middle of
this apply. -/
structure Stranded (store : FileStateStore) (disk : Storage.Disk) (sessionId : SessionId)
    (mutation : PlannedMutation) (snapshot : Snapshot) (record : SessionRecord) : Prop where
  unrestored : record.session.state ≠ .restored
  operation : ∃ operation ∈ record.operations, operation.mutation = mutation ∧
    operation.snapshot = some snapshot ∧ operation.state = .applying ∧
      operation.applyReceipt = none
  loaded : ∀ reader : Storage.Process,
    (store.load sessionId).run.exec reader.respond disk = (.ok record, disk)
  listed : ∀ reader : Storage.Process, ∃ records,
    store.loadUnfinished.run.exec reader.respond disk = (.ok records, disk) ∧ record ∈ records

/-- What is on the disk is valid. -/
theorem Carries.valid {policy : RuntimeStatePolicy} {system : System} {world : World}
    (carries : Carries policy system world) {record : SessionRecord}
    (stored : record ∈ world.files) : record.validateForSerialization = .ok () := by
  rcases carries.held with ⟨possible, held, -⟩
  have kept := held.live.records record.sessionId
  rw [filed_of_mem carries.oneEach stored] at kept
  generalize system.disk.live.lookup (stateName record.sessionId) = node at kept
  cases kept with
  | some keeps => exact (SessionRecord.encode_eq_ok_iff.mp keeps.encoded).1

/-- **Stranded for ever.**  Once the backend has answered an apply with an unknown
failure, or with a receipt that does not match, the state file of the session says
for ever that this apply has begun and not ended, and the session is never restored. -/
theorem stranded_for_ever (store : FileStateStore) (process : EngineId → Storage.Process)
    (disk : Storage.Disk) (conforms : ∀ engine, Process.Conforms (process engine) store.policy)
    (rooted : Rooted store.policy disk) (empty : disk.live = ∅) (settled : disk.older = [])
    (state : Service.Serial SystemAnswer EngineId CheckedRequest Reply System)
    (reachable : (systemService store process).SerialReachable (.start disk) state)
    (engine : EngineId) (sessionId : SessionId) (mutation : PlannedMutation) (snapshot : Snapshot)
    (answer : Except SysboostError ApplyReceipt) (changed : Bool)
    (answered : .port engine ⟨.apply sessionId mutation snapshot, answer, changed⟩ ∈
      state.world.log)
    (unusable : Unusable mutation answer) :
    ∃ record, Stranded store state.world.disk sessionId mutation snapshot record := by
  rcases (system_explained conforms rooted empty settled reachable).related with
    ⟨above, reachable, carries⟩
  have coherent := (reachable_of_checked reachable).coherent
  rw [carries.log, List.mem_filter] at answered
  have present := coherent.stored _ answered.1 sessionId mutation snapshot
    ⟨engine, answer, changed, rfl⟩
  simp only [Fresh, not_forall, not_not] at present
  rcases present with ⟨record, stored, rfl⟩
  have possible := coherent.possible record stored
  have stranded := possible.stranded coherent.lawful (carries.valid stored) answered.1 unusable
  have unrestored : record.session.state ≠ .restored := by
    intro restored
    rcases stranded with ⟨operation, member, -, -, applying, unreceived⟩
    have proven := possible.restorationProven restored
    rw [CutOff.unproven (.inl ⟨applying, unreceived⟩) member] at proven
    cases proven
  have readable : store.Readable state.world.disk (filed above.world.files) := by
    rcases carries.held with ⟨possible, held, -⟩
    exact FileStateStore.readable_of_held held
  have found := filed_of_mem coherent.oneEach stored
  refine ⟨record, unrestored, stranded, ?_, ?_⟩
  · exact fun reader => (readable reader).2 _ record found
  · intro reader
    rcases (readable reader).1 with ⟨records, returned, lists⟩
    exact ⟨records, returned, (lists.mem_iff record).mpr ⟨found, unrestored⟩⟩

/-- A session whose backend answered with a receipt that does not match. -/
def strandedSystem : System :=
  let prepared := (kitService.program preparingRequest).exec (carelessKit.respondSystem 0)
    (kitService.issue 0 preparingRequest (.start emptyRoot))
  let applied := (kitService.program applyingRequest).exec (carelessKit.respondSystem 0)
    (kitService.issue 0 applyingRequest (kitService.reply 0 preparingRequest prepared.1 prepared.2))
  kitService.reply 0 applyingRequest applied.1 applied.2

theorem strandedSystem_reachable :
    kitService.SerialReachable (.start emptyRoot) ⟨strandedSystem, none⟩ :=
  Service.SerialReachable.serve
    (Service.SerialReachable.serve .refl (Executes.exec (carelessKit.system_law 0) _ _))
    (Executes.exec (carelessKit.system_law 0) _ _)

/-- An apply whose receipt does not say what was read back. -/
def Entry.strands : Entry → Bool
  | .port _ ⟨.apply _ _ _, .ok receipt, _⟩ =>
      receipt.observedPostcondition != receipt.ownershipFingerprint
  | _ => false

theorem Entry.strands_iff {entry : Entry} :
    entry.strands = true ↔ ∃ engine sessionId mutation snapshot receipt changed,
      entry = .port engine ⟨.apply sessionId mutation snapshot, .ok receipt, changed⟩ ∧
        receipt.observedPostcondition ≠ receipt.ownershipFingerprint := by
  constructor
  · intro strands
    rcases entry with ⟨engine, call, answer, changed⟩ | _ | _
    · cases call with
      | apply sessionId mutation snapshot =>
          cases answer with
          | error error => cases strands
          | ok receipt => exact ⟨engine, sessionId, mutation, snapshot, receipt, changed, rfl,
              bne_iff_ne.mp strands⟩
      | _ => cases strands
    · cases strands
    · cases strands
  · rintro ⟨engine, sessionId, mutation, snapshot, receipt, changed, rfl, mismatch⟩
    exact bne_iff_ne.mpr mismatch

theorem stranded_for_ever_mismatched :
    ∃ sessionId mutation snapshot record,
      Stranded kitStore strandedSystem.disk sessionId mutation snapshot record := by
  have strands : ∃ entry ∈ strandedSystem.log, entry.strands = true := by decide +kernel
  rcases strands with ⟨entry, answered, strands⟩
  rcases Entry.strands_iff.mp strands with
    ⟨engine, sessionId, mutation, snapshot, receipt, changed, rfl, mismatch⟩
  refine ⟨sessionId, mutation, snapshot, ?_⟩
  exact stranded_for_ever kitStore (fun _ => rootProcess) emptyRoot
    (fun _ => rootProcess_conforms) emptyRoot_rooted rfl rfl ⟨strandedSystem, none⟩
    strandedSystem_reachable engine sessionId mutation snapshot (.ok receipt) changed answered
    (fun bound => mismatch bound.postcondition)

end Sysboost.Platform
