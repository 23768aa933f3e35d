import Sysboost.Core.Encodable
import Sysboost.Core.Transitions
import Sysboost.Platform.FileStore

/-!
# Which records an engine can persist

The encoder validates a record before it writes it.  Of all that it checks, an
engine can only miss the bounds of the journal, the texts of errors that ports
answer, and the receipt of a backend that does not match its mutation.
-/

namespace Sysboost.Platform

open Sysboost.Core Interaction ByteCodec Results

/-! ## Operations -/

namespace Formed

variable {operation : OperationRecord}

theorem validateReceiptOwners_eq (formed : Formed operation) :
    validateReceiptOwners operation = .ok () := by
  rcases formed.snapshot with ⟨snapshot, taken, captured⟩
  simp only [validateReceiptOwners, bind_eq_ok_iff, rejectIf_eq_ok_iff, Unique.exists_iff,
    PUnit.default_eq_unit, Option.any_eq_false]
  refine ⟨?_, ?_, ?_, ?_⟩
  · intro other member
    obtain rfl : snapshot = other := Option.some.inj (taken.symm.trans member)
    simp [captured.mutationId, captured.target, captured.equality]
  · intro receipt member
    simp [formed.receipt receipt member]
  · intro verification member
    simp [(formed.verification verification member).1]
  · intro receipt member
    simp [(formed.restored receipt member).1]

theorem validateVerification_eq (formed : Formed operation) :
    validateVerification operation.applyReceipt operation.verification = .ok () := by
  cases verified : operation.verification with
  | none => rfl
  | some verification =>
      rcases formed.verification verification verified with ⟨-, ⟨receipt, has, expected⟩, matched⟩
      rw [has, validateVerification, rejectIf_eq_ok_iff, matched, expected]
      by_cases same : verification.observed = some receipt.ownershipFingerprint <;> simp [same]

theorem validateRestore_eq (formed : Formed operation) : validateRestore operation = .ok () := by
  cases restored : operation.restoreReceipt with
  | none => simp [validateRestore, restored]
  | some restore =>
      rcases formed.snapshot with ⟨snapshot, taken, captured⟩
      rcases formed.restored restore restored with ⟨-, verified, original⟩
      have received : operation.applyReceipt.isSome := by
        have shaped := formed.shaped
        cases state : operation.state <;> simp_all [Shaped]
      rw [← captured.original] at original
      simp [validateRestore, restored, taken, verified, original, received]

theorem validateShape_eq (formed : Formed operation) : validateShape operation = .ok () := by
  rcases formed.snapshot with ⟨snapshot, taken, -⟩
  have shaped := formed.shaped
  cases state : operation.state with
  | planned => simp [Shaped, state] at shaped
  | snapshotted => simp [Shaped, state] at shaped
  | verified =>
      simp only [Shaped, state] at shaped
      rcases shaped with ⟨received, unrestored, verification, verified, matched⟩
      simp [validateShape, state, taken, received, unrestored, verified, matched]
  | failed =>
      simp only [Shaped, state] at shaped
      have mismatched : operation.verification.any (fun value => value.matched) = false :=
        (Option.any_eq_false _ _).mpr shaped.2
      simp [validateShape, state, taken, shaped.1, mismatched]
  | _ =>
      simp only [Shaped, state] at shaped
      simp [validateShape, state, taken, shaped]

/-- The journal takes an operation unless its receipt does not match it. -/
theorem validate_iff (formed : Formed operation) :
    validateOperationRecord operation = .ok () ↔
      ∀ receipt ∈ operation.applyReceipt, receipt.Bound operation.mutation := by
  rcases formed.snapshot with ⟨snapshot, taken, captured⟩
  have preserved : (operation.snapshot.any fun snapshot =>
      snapshot.originalFingerprint != operation.mutation.precondition ||
        snapshot.targetIdentity.bytes == .fill 16 0) = false := by
    simp [taken, captured.original, captured.identity]
  have rest : validateOperationRecord operation = .ok () ↔
      (operation.applyReceipt.any fun receipt => operation.snapshot.isNone ||
        receipt.observedPrecondition != operation.mutation.precondition ||
        receipt.observedPostcondition != receipt.ownershipFingerprint) = false := by
    simp only [validateOperationRecord, rejectIf_bind_eq_ok_iff, preserved, true_and,
      formed.validateVerification_eq, formed.validateRestore_eq, formed.validateShape_eq]
    exact and_iff_left rfl
  rw [rest, Option.any_eq_false]
  constructor
  · intro matches_ receipt received
    have own := matches_ receipt received
    simp only [taken, Option.isNone_some, Bool.false_or, Bool.or_eq_false_iff, bne_eq_false_iff_eq]
      at own
    exact ⟨formed.receipt receipt received, own.1, own.2⟩
  · intro bound receipt received
    have own := bound receipt received
    simp [taken, own.precondition, own.postcondition]

end Formed

/-! ## Records -/

/-- What every record of an engine keeps, whatever the ports have answered. -/
structure Regular (log : List Entry) (record : SessionRecord) : Prop where
  planned : ∃ plan now, PlannedAs plan now record
  formed : ∀ operation ∈ record.operations, Formed operation
  chained : record.transitions.length ≤ maxVecLength → record.Chained
  owned : ∀ transition ∈ record.transitions, transition.sessionId = record.sessionId
  reasons : ∀ transition ∈ record.transitions, SessionRecord.GoodReason transition.reason
  failures : ∀ failure ∈ record.failures, ∃ error, Reported log error ∧ failure = .fromError error
  failed : ∀ operation ∈ record.operations, ∀ failure ∈ operation.failure,
    ∃ error, Reported log error ∧ failure = .fromError error
  received : ∀ operation ∈ record.operations, ∀ receipt ∈ operation.applyReceipt,
    Received log record.sessionId operation.mutation receipt

theorem Reported.grow {log : List Entry} {error : SysboostError} (reported : Reported log error)
    (entry : Entry) : Reported (entry :: log) error := by
  rcases reported with clean | ⟨other, member, same⟩
  · exact .inl clean
  · exact .inr ⟨other, List.mem_cons_of_mem _ member, same⟩

section Step

variable {log : List Entry} {sessionId : SessionId} {before after : OperationRecord}

/-- The failure of an operation was reported. -/
theorem OperationStep.failed (step : OperationStep log sessionId before after)
    (old : ∀ failure ∈ before.failure, ∃ error, Reported log error ∧ failure = .fromError error) :
    ∀ failure ∈ after.failure, ∃ error, Reported log error ∧ failure = .fromError error := by
  have reports {error : SysboostError} (reported : Reported log error) :
      ∀ failure ∈ some (FailureRecord.fromError error),
        ∃ error, Reported log error ∧ failure = .fromError error := by
    rintro _ ⟨⟩
    exact ⟨error, reported, rfl⟩
  cases step with
  | reject applying failed reported => exact reports reported
  | refuse applied reported => exact reports reported
  | annotate failed reported => exact reports reported
  | failRestore restoring reported => exact reports reported
  | _ => exact old

/-- The receipt of an operation was answered by the backend. -/
theorem OperationStep.received (step : OperationStep log sessionId before after)
    (old : ∀ receipt ∈ before.applyReceipt, Received log sessionId before.mutation receipt) :
    ∀ receipt ∈ after.applyReceipt, Received log sessionId after.mutation receipt := by
  cases step with
  | receive applying own received =>
      rintro _ ⟨⟩
      exact received
  | _ => exact old

end Step

namespace Regular

variable {log : List Entry} {record after : SessionRecord}

theorem of_prepared {plan : Plan} {now : Timestamp}
    (built : PreparedFor plan now record.sessionId record) : Regular log record where
  planned := by
    refine ⟨plan, now, ?_, built.mutations, built.nonempty, built.bounded, built.nodup⟩
    rw [built.session]
  formed operation member := (built.intended operation member).formed
  chained _ := by
    constructor
    · intro index transition found
      rw [built.transitions, preparedTransitions] at found
      rcases index with _ | _ | _ | _ | index <;> simp at found <;> rw [← found] <;> rfl
    · intro transition found
      rw [built.transitions] at found
      cases found
      rfl
    · intro index earlier later found next
      rw [built.transitions, preparedTransitions] at found next
      rcases index with _ | _ | _ | index <;> simp at found next <;> rw [← found, ← next]
    · rw [built.transitions]
      simp [preparedTransitions, SessionState.canTransition]
    · rw [built.transitions, built.session]
      rfl
  owned := by
    rw [built.transitions]
    simp [preparedTransitions]
  reasons := by
    rw [built.transitions]
    simp only [preparedTransitions, List.forall_mem_cons]
    decide
  failures := by
    rw [built.failures]
    exact List.forall_mem_nil _
  failed operation member := by
    cases built.intended operation member
    intro failure known
    cases known
  received operation member := by
    cases built.intended operation member
    intro receipt known
    cases known

theorem edit (regular : Regular log record) (edit : Edit log record after) :
    Regular log after := by
  have planned : ∃ plan now, PlannedAs plan now after := by
    rcases regular.planned with ⟨plan, now, planned⟩
    refine ⟨plan, now, ?_, edit.mutations.trans planned.mutations, planned.nonempty,
      planned.bounded, planned.nodup⟩
    rw [edit.header, edit.sessionId, planned.header]
  have formed := edit.forall_operations OperationStep.formed regular.formed
  have failed := edit.forall_operations OperationStep.failed regular.failed
  have received := edit.forall_operations OperationStep.received regular.received
  cases edit with
  | operation busy split step =>
      refine ⟨planned, formed, ?_, regular.owned, regular.reasons, regular.failures, failed,
        received⟩
      intro fits
      rcases regular.chained fits with ⟨numbered, starts, linked, legal, ends⟩
      exact ⟨numbered, starts, linked, legal, ends⟩
  | failure reported =>
      refine ⟨planned, formed, ?_, regular.owned, regular.reasons, ?_, failed, received⟩
      · intro fits
        rcases regular.chained fits with ⟨numbered, starts, linked, legal, ends⟩
        exact ⟨numbered, starts, linked, legal, ends⟩
      · intro failure member
        rcases List.mem_append.mp member with old | new
        · exact regular.failures failure old
        · exact ⟨_, reported, List.mem_singleton.mp new⟩
  | move good legal proven =>
      refine ⟨planned, formed, ?_, ?_, ?_, regular.failures, failed, received⟩
      · intro fits
        have shorter : record.transitions.length ≤ maxVecLength := by
          rw [SessionRecord.moved, List.length_append, List.length_singleton] at fits
          omega
        exact (regular.chained shorter).moved shorter legal _ _
      · intro transition member
        rcases List.mem_append.mp member with old | new
        · exact regular.owned transition old
        · rw [List.mem_singleton.mp new]
          rfl
      · intro transition member
        rcases List.mem_append.mp member with old | new
        · exact regular.reasons transition old
        · rw [List.mem_singleton.mp new]
          exact good

theorem grow (regular : Regular log record) (entry : Entry) : Regular (entry :: log) record where
  planned := regular.planned
  formed := regular.formed
  chained := regular.chained
  owned := regular.owned
  reasons := regular.reasons
  failures failure member := by
    rcases regular.failures failure member with ⟨error, reported, same⟩
    exact ⟨error, reported.grow entry, same⟩
  failed operation member failure known := by
    rcases regular.failed operation member failure known with ⟨error, reported, same⟩
    exact ⟨error, reported.grow entry, same⟩
  received operation member receipt known := by
    rcases regular.received operation member receipt known with ⟨engine, snapshot, changed, made⟩
    exact ⟨engine, snapshot, changed, List.mem_cons_of_mem _ made⟩

end Regular

theorem Possible.regular {log : List Entry} {record : SessionRecord}
    (possible : Possible log record) : Regular log record := by
  induction possible with
  | prepared prepared unapplied =>
      rcases prepared with ⟨engine, plan, now, requested, built⟩
      exact .of_prepared built
  | edit possible edit ih => exact ih.edit edit
  | grow possible admits ih => exact ih.grow _

/-! ## Validation -/

namespace Regular

variable {log : List Entry} {record : SessionRecord}

theorem targets_eq (regular : Regular log record) :
    record.session.header.targets =
      record.operations.map fun operation => operation.mutation.target := by
  rcases regular.planned with ⟨plan, now, planned⟩
  rw [planned.header, Session.new, ← planned.mutations, List.map_map]
  rfl

/-- A record of the engine is valid when it has not outgrown the journal and every
receipt matches its mutation. -/
theorem validate_iff (regular : Regular log record) :
    record.validateForSerialization = .ok () ↔
      (record.transitions.length ≤ maxTransitions ∧ record.failures.length ≤ maxFailures) ∧
        ∀ operation ∈ record.operations, ∀ receipt ∈ operation.applyReceipt,
          receipt.Bound operation.mutation := by
  rcases regular.planned with ⟨plan, now, planned⟩
  have counted : record.operations.length = plan.mutations.length := by
    rw [← planned.mutations, List.length_map]
  have nonempty : record.operations ≠ [] := by
    intro empty
    rw [empty] at counted
    exact planned.nonempty (List.length_eq_zero_iff.mp counted.symm)
  have few : record.operations.length ≤ maxOperations := by
    rw [counted]
    exact planned.bounded
  have targets : record.session.header.targets.length = record.operations.length := by
    rw [regular.targets_eq, List.length_map]
  have distinct : (record.operations.map fun operation => operation.mutation.mutationId).Nodup := by
    have known := planned.nodup
    rw [← planned.mutations, List.map_map] at known
    exact known
  have operations : validateOperations [] record.operations = .ok () ↔
      ∀ operation ∈ record.operations, ∀ receipt ∈ operation.applyReceipt,
        receipt.Bound operation.mutation := by
    rw [validateOperations_eq_ok_iff]
    constructor
    · rintro ⟨-, valid⟩ operation member
      exact (regular.formed operation member).validate_iff.mp (valid operation member).2.2
    · intro bound
      refine ⟨distinct, ?_⟩
      intro operation member
      have formed := regular.formed operation member
      exact ⟨List.not_mem_nil, formed.validateReceiptOwners_eq,
        formed.validate_iff.mpr (bound operation member)⟩
  have leased : validateTargets record.session.header.targets record.operations = .ok () := by
    rw [regular.targets_eq]
    exact validateTargets_map _
  have own : (record.transitions.any fun transition =>
      transition.sessionId != record.sessionId) = false := by
    rw [List.any_eq_false]
    intro transition member
    simp [regular.owned transition member]
  simp only [SessionRecord.validateForSerialization, bind_eq_ok_iff, rejectIf_eq_ok_iff,
    Unique.exists_iff, PUnit.default_eq_unit, operations, leased, own]
  constructor
  · rintro ⟨-, fits, -, bound, -⟩
    rw [Bool.or_eq_false_iff, decide_eq_false_iff_not, decide_eq_false_iff_not] at fits
    exact ⟨⟨Nat.not_lt.mp fits.1, Nat.not_lt.mp fits.2⟩, bound⟩
  · rintro ⟨⟨transitions, failures⟩, bound⟩
    have chained := regular.chained (transitions.trans (by decide))
    refine ⟨?_, ?_, ?_, bound, ?_, trivial, trivial, _,
      chained.validateChain_eq (transitions.trans (by decide)), bne_self_eq_false _⟩
    · simpa [nonempty] using few
    · rw [Bool.or_eq_false_iff, decide_eq_false_iff_not, decide_eq_false_iff_not]
      exact ⟨Nat.not_lt.mpr transitions, Nat.not_lt.mpr failures⟩
    · rw [decide_eq_false_iff_not, Nat.not_lt, targets]
      exact few
    · rw [targets, bne_self_eq_false]

end Regular

/-! ## Encoding -/

/-- The record has not outgrown the journal. -/
structure Fits (record : SessionRecord) : Prop where
  transitions : record.transitions.length ≤ maxTransitions
  failures : record.failures.length ≤ maxFailures
  listable : ∀ operation ∈ record.operations, operation.Listable
  size : ∀ payload, encodePayload record = .ok payload →
    46 + payload.length ≤ maxSessionRecordBytes

/-- What is asked of a record of the engine before it can be persisted. -/
structure Storable (record : SessionRecord) : Prop extends Fits record where
  bound : ∀ operation ∈ record.operations, ∀ receipt ∈ operation.applyReceipt,
    receipt.Bound operation.mutation
  clean : ∀ failure ∈ record.failures, CleanText failure.message
  failed : ∀ operation ∈ record.operations, ∀ failure ∈ operation.failure,
    CleanText failure.message

/-- An answer with a text that the journal takes, or with a receipt that matches. -/
def Entry.Obliging : Entry → Prop
  | .port _ ⟨.apply _ mutation _, .ok receipt, _⟩ => receipt.Bound mutation
  | entry => ∀ message, entry.Says message → CleanText message

theorem fieldText_iff_of_fromError {failure : FailureRecord} {log : List Entry}
    (reported : ∃ error, Reported log error ∧ failure = .fromError error) :
    FieldText maxReasonBytes failure.message ↔ CleanText failure.message := by
  rcases reported with ⟨error, -, rfl⟩
  constructor
  · intro text
    exact ⟨text.nonempty, text.noNul⟩
  · intro clean
    exact ⟨clean.1, truncateText_size _ _, clean.2⟩

namespace Regular

variable {log : List Entry} {record : SessionRecord}

theorem writes_payload_iff (regular : Regular log record) (checked : record.Checked) :
    Writes (encodePayload record) ↔
      (record.transitions.length ≤ maxTransitions ∧ record.failures.length ≤ maxFailures) ∧
      (∀ operation ∈ record.operations, operation.Listable ∧
        ∀ failure ∈ operation.failure, CleanText failure.message) ∧
      ∀ failure ∈ record.failures, CleanText failure.message := by
  rcases regular.planned with ⟨plan, now, planned⟩
  have few : record.operations.length ≤ maxOperations := by
    rw [← List.length_map OperationRecord.mutation, planned.mutations]
    exact planned.bounded
  have leased : record.session.header.targets.length ≤ maxTargets := by
    rw [regular.targets_eq, List.length_map]
    exact few
  have operations : (∀ operation ∈ record.operations, Writes (encodeOperation operation)) ↔
      ∀ operation ∈ record.operations, operation.Listable ∧
        ∀ failure ∈ operation.failure, CleanText failure.message := by
    apply forall₂_congr
    intro operation member
    rw [writes_operation_iff (checked operation member)]
    apply and_congr_right'
    apply forall₂_congr
    intro failure known
    exact fieldText_iff_of_fromError (regular.failed operation member failure known)
  have transitions : ∀ transition ∈ record.transitions, Writes (encodeTransition transition) := by
    intro transition member
    have good := regular.reasons transition member
    exact writes_transition_iff.mpr ⟨good.1, good.2.1, good.2.2⟩
  have failures : (∀ failure ∈ record.failures, Writes (encodeFailure failure)) ↔
      ∀ failure ∈ record.failures, CleanText failure.message := by
    apply forall₂_congr
    intro failure member
    rw [writes_failure_iff]
    exact fieldText_iff_of_fromError (regular.failures failure member)
  rw [encodePayload, writes_seq_iff]
  simp only [List.forall_mem_cons, writes_session_iff,
    writes_list_iff (show maxOperations ≤ 4294967295 by decide),
    writes_list_iff (show maxTransitions ≤ 4294967295 by decide),
    writes_list_iff (show maxFailures ≤ 4294967295 by decide), leased, few, operations, failures]
  constructor
  · rintro ⟨-, ⟨-, listable⟩, ⟨moves, -⟩, ⟨fails, clean⟩, -⟩
    exact ⟨⟨moves, fails⟩, listable, clean⟩
  · rintro ⟨⟨moves, fails⟩, listable, clean⟩
    exact ⟨trivial, ⟨trivial, listable⟩, ⟨moves, transitions⟩, ⟨fails, clean⟩,
      List.forall_mem_nil _⟩

theorem encodes_iff (regular : Regular log record) (checked : record.Checked) :
    (∃ bytes, record.encode = .ok bytes) ↔ Storable record := by
  constructor
  · rintro ⟨bytes, encoded⟩
    rcases SessionRecord.encode_eq_ok_iff.mp encoded with ⟨valid, payload, written, fits, -⟩
    rcases regular.validate_iff.mp valid with ⟨⟨transitions, failures⟩, bound⟩
    rcases (regular.writes_payload_iff checked).mp ⟨payload, written⟩ with ⟨-, operations, clean⟩
    refine ⟨⟨transitions, failures, ?_, ?_⟩, bound, clean, ?_⟩
    · exact fun operation member => (operations operation member).1
    · intro other same
      rw [written] at same
      cases same
      exact fits
    · exact fun operation member => (operations operation member).2
  · intro storable
    have valid := regular.validate_iff.mpr
      ⟨⟨storable.transitions, storable.failures⟩, storable.bound⟩
    have operations : ∀ operation ∈ record.operations, operation.Listable ∧
        ∀ failure ∈ operation.failure, CleanText failure.message :=
      fun operation member =>
        ⟨storable.listable operation member, storable.failed operation member⟩
    rcases (regular.writes_payload_iff checked).mpr
      ⟨⟨storable.transitions, storable.failures⟩, operations, storable.clean⟩ with
      ⟨payload, written⟩
    exact ⟨_, SessionRecord.encode_eq_ok_iff.mpr
      ⟨valid, payload, written, storable.size payload written, rfl⟩⟩

/-- With obliging ports only the bounds of the journal are in the way. -/
theorem storable_of_obliging (regular : Regular log record)
    (obliging : ∀ entry ∈ log, entry.Obliging) (fits : Fits record) : Storable record := by
  have clean {failure : FailureRecord}
      (reported : ∃ error, Reported log error ∧ failure = .fromError error) :
      CleanText failure.message := by
    rcases reported with ⟨error, clean | ⟨entry, member, same⟩, rfl⟩
    · exact truncateText_clean (by decide) clean.1 clean.2
    · have clean : CleanText error.message := by
        have own := obliging entry member
        rcases entry with ⟨engine, call, answer, changed⟩ | _ | _
        · cases call <;> cases answer <;> first | exact same.elim | exact own _ same
        · exact same.elim
        · exact same.elim
      exact truncateText_clean (by decide) clean.1 clean.2
  refine ⟨fits, ?_, ?_, ?_⟩
  · intro operation member receipt known
    rcases regular.received operation member receipt known with ⟨engine, snapshot, changed, made⟩
    exact obliging _ made
  · exact fun failure member => clean (regular.failures failure member)
  · exact fun operation member failure known =>
      clean (regular.failed operation member failure known)

end Regular

/-- What is about to be persisted is regular. -/
theorem Permitted.regular {log : List Entry} {call : Call} {record : SessionRecord}
    (permitted : Permitted log call) (persists : call = .create record ∨ call = .replace record) :
    Regular log record := by
  rcases persists with rfl | rfl
  · rcases permitted with ⟨engine, plan, now, requested, built⟩
    exact .of_prepared built
  · exact Possible.regular permitted

theorem Call.Hands.checked {call : Call} {record : SessionRecord} (hands : call.Hands)
    (persists : call = .create record ∨ call = .replace record) : record.Checked := by
  rcases persists with rfl | rfl
  · exact hands
  · exact hands

/-- **What an engine can persist.**  Whenever a record is handed to the store, it can
be encoded exactly when it fits, its receipts match and its texts are clean; as long
as the ports were obliging, exactly when it fits. -/
theorem record_encodes_iff {world : World} {engine : EngineId} {request : CheckedRequest}
    {call : Call} {next : Answer call → Engine Reply} {record : SessionRecord}
    (reachable : checkedService.SerialReachable World.empty
      ⟨world, some (engine, request, .call call next)⟩)
    (persists : call = .create record ∨ call = .replace record) :
    ((∃ bytes, record.encode = .ok bytes) ↔ Storable record) ∧
      ((∀ entry ∈ world.log, entry.Obliging) →
        ((∃ bytes, record.encode = .ok bytes) ↔ Fits record)) := by
  rcases checkedService_calls reachable rfl with ⟨-, permitted, hands⟩
  have regular := permitted.regular persists
  have encodes := regular.encodes_iff (hands.checked persists)
  refine ⟨encodes, ?_⟩
  intro obliging
  rw [encodes]
  exact ⟨fun storable => storable.toFits, regular.storable_of_obliging obliging⟩

/-! ## A receipt that does not match -/

/-- The ports of the test kit, which take no snapshot of a value that no constructor
makes. -/
def Testkit.respondChecked (kit : Testkit) (engine : EngineId) (world : World) :
    (call : Call) → Answer call × World
  | .snapshot mutation now =>
      if mutation.desired.checked then kit.respond engine world (.snapshot mutation now)
      else
        (.error (.new .snapshotError "fixture value is not valid"),
          world.note (.port engine ⟨.snapshot mutation now,
            .error (.new .snapshotError "fixture value is not valid"), false⟩))
  | call => kit.respond engine world call

theorem Testkit.checked_law (kit : Testkit) (engine : EngineId) (world : World) (call : Call) :
    checkedService.env engine world call (kit.respondChecked engine world call).1
      (kit.respondChecked engine world call).2 := by
  cases call with
  | snapshot mutation now =>
      by_cases checked : mutation.desired.checked = true
      · simp only [respondChecked, if_pos checked]
        exact ⟨kit.law (.snapshot mutation now), checked⟩
      · simp only [respondChecked, if_neg checked]
        exact ⟨⟨rfl, rfl, false, trivial, rfl⟩, trivial⟩
  | _ => exact ⟨kit.law _, trivial⟩

/-- A backend whose receipts do not say what it has read back. -/
def carelessKit : Testkit :=
  { steadyKit with
    receipt := fun mutation =>
      .ok ⟨mutation.mutationId, mutation.precondition, mutation.precondition, fixtureOwned⟩ }

/-- The record that is about to be persisted. -/
def persisted {α : Type} : Engine α → Option SessionRecord
  | .call (.create record) _ => some record
  | .call (.replace record) _ => some record
  | _ => none

theorem exists_of_persisted {α : Type} {program : Engine α} {record : SessionRecord}
    (found : persisted program = some record) :
    ∃ call next, program = .call call next ∧ (call = .create record ∨ call = .replace record) := by
  cases program with
  | ret value => cases found
  | call call next =>
      cases call <;> cases found
      · exact ⟨_, next, rfl, .inl rfl⟩
      · exact ⟨_, next, rfl, .inr rfl⟩

/-- A session is prepared. -/
def refusingStart : World :=
  let done := (checkedService.program preparingRequest).exec (carelessKit.respondChecked 0)
    (checkedService.issue 0 preparingRequest World.empty)
  checkedService.reply 0 preparingRequest done.1 done.2

/-- It is applied, and its refused receipt is about to be persisted. -/
def refusing : Engine Reply × World :=
  (checkedService.program applyingRequest).advance (carelessKit.respondChecked 0) 6
    (checkedService.issue 0 applyingRequest refusingStart)

theorem refusing_reachable : checkedService.SerialReachable World.empty
    ⟨refusing.2, some (0, applyingRequest, refusing.1)⟩ := by
  have prepared : checkedService.SerialReachable World.empty
      ⟨refusingStart, none⟩ :=
    Service.SerialReachable.serve .refl (Executes.exec (carelessKit.checked_law 0) _ _)
  exact (prepared.start 0 applyingRequest).advance (carelessKit.checked_law 0) 6

theorem record_encodes_iff_refused :
    ∃ record, persisted refusing.1 = some record ∧ ¬∃ bytes, record.encode = .ok bytes := by
  have refused : ∃ record ∈ persisted refusing.1, ∃ operation ∈ record.operations,
      ∃ receipt ∈ operation.applyReceipt,
        receipt.observedPostcondition ≠ receipt.ownershipFingerprint := by
    decide +kernel
  rcases refused with ⟨record, found, operation, member, receipt, received, mismatch⟩
  rcases exists_of_persisted found with ⟨call, next, about, persists⟩
  have reachable := refusing_reachable
  rw [about] at reachable
  refine ⟨record, found, ?_⟩
  intro encodes
  have storable := (record_encodes_iff reachable persists).1.mp encodes
  exact mismatch (storable.bound operation member receipt received).postcondition

end Sysboost.Platform
