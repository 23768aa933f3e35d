import Sysboost.Core.Journal

/-!
# Which records can be written

The encoder refuses a text that is empty, too long or has a NUL in it, and a
collection that is longer than its bound.  Everything else that a record of checked
values holds can be written.
-/

namespace Sysboost.Core

open ByteCodec Results

/-! ## Writers -/

/-- The encoder does not fail. -/
def Writes (encoder : Encoder) : Prop :=
  ∃ bytes, encoder = .ok bytes

theorem writes_ok (bytes : Bytes) : Writes (.ok bytes) :=
  ⟨bytes, rfl⟩

theorem writes_seq_cons_iff {field : Encoder} {rest : List Encoder} :
    Writes (Put.seq (field :: rest)) ↔ Writes field ∧ Writes (Put.seq rest) := by
  constructor
  · rintro ⟨bytes, ok⟩
    rcases Put.seq_cons_eq_ok_iff.mp ok with ⟨front, back, frontOk, backOk, rfl⟩
    exact ⟨⟨front, frontOk⟩, back, backOk⟩
  · rintro ⟨⟨front, frontOk⟩, back, backOk⟩
    exact ⟨_, Put.seq_cons_eq_ok_iff.mpr ⟨front, back, frontOk, backOk, rfl⟩⟩

theorem writes_seq_iff {fields : List Encoder} :
    Writes (Put.seq fields) ↔ ∀ field ∈ fields, Writes field := by
  induction fields with
  | nil => exact iff_of_true (writes_ok []) (List.forall_mem_nil _)
  | cons field rest ih => rw [writes_seq_cons_iff, ih, List.forall_mem_cons]

theorem writes_each_iff {α : Type} {write : α → Encoder} {values : List α} :
    Writes (Put.each write values) ↔ ∀ value ∈ values, Writes (write value) := by
  rw [Put.each, writes_seq_iff, List.forall_mem_map]

theorem writes_optional_iff {α : Type} {write : α → Encoder} {value : Option α} :
    Writes (Put.optional write value) ↔ ∀ inner ∈ value, Writes (write inner) := by
  cases value with
  | none => exact iff_of_true (writes_ok [0]) nofun
  | some inner => simp [Put.optional, writes_seq_iff, writes_ok]

theorem writes_list_iff {α : Type} {max : Nat} {write : α → Encoder} {values : List α}
    (fits : max ≤ 4294967295) :
    Writes (Encoder.list max write values) ↔
      values.length ≤ max ∧ ∀ value ∈ values, Writes (write value) := by
  have counted : Writes (putCount values.length max) ↔ values.length ≤ max := by
    constructor
    · rintro ⟨bytes, ok⟩
      exact ((putCount_eq_ok_iff fits).mp ok).1
    · intro bounded
      exact ⟨_, (putCount_eq_ok_iff fits).mpr ⟨bounded, rfl⟩⟩
  rw [Encoder.list, writes_seq_cons_iff, writes_seq_cons_iff, counted, writes_each_iff]
  simp [writes_ok]

theorem writes_bytes {value : Bytes} (bounded : value.length ≤ 4294967295) :
    Writes (Encoder.bytes value) :=
  ⟨_, encoder_bytes_eq_ok bounded⟩

theorem writes_string_iff {value : String} {max : Nat} (fits : max ≤ 4294967295) :
    Writes (Encoder.string value max) ↔ FieldText max value := by
  constructor
  · rintro ⟨bytes, ok⟩
    exact fieldText_of_encoder_string ok
  · intro text
    rw [encoder_string_of_fieldText text]
    apply writes_bytes
    rw [utf8_length]
    exact text.bounded.trans fits

theorem writes_text {value : String} {max : Nat} (le : max ≤ maxStringBytes)
    (text : FieldText max value) : Writes (Encoder.text value) :=
  (writes_string_iff (by decide)).mpr (text.mono le)

theorem writes_textId {name : String} (id : TextId name) : Writes (Encoder.text id.asStr) :=
  writes_text (by decide) id.fieldText

/-! ## Values -/

/-- A processor set that the journal has room for. -/
def CpuSet.Listable (cpus : CpuSet) : Prop :=
  cpus.asSlice.length ≤ maxDependencies

def TypedValue.Listable : TypedValue → Prop
  | .cgroupCpuset cpus | .irqAffinity cpus => cpus.Listable
  | _ => True

theorem writes_cgroup (cgroup : CgroupId) : Writes (encodeCgroup cgroup) := by
  simp [encodeCgroup, writes_seq_iff, writes_textId, Encoder.u64, Put.word, writes_ok]

theorem writes_frequency (frequency : Option FrequencyKHz) :
    Writes (encodeFrequency frequency) := by
  simp [encodeFrequency, writes_optional_iff, Encoder.u64, Put.word, writes_ok]

theorem writes_process (process : ProcessId) : Writes (encodeProcess process) := by
  simp [encodeProcess, writes_seq_iff, Encoder.u32, Encoder.u64, Put.word, writes_ok]

theorem writes_uclamp (value : UclampValue) : Writes (encodeUclamp value) := by
  cases value <;>
    simp [encodeUclamp, writes_seq_iff, Encoder.u8, Encoder.u16, Put.word, writes_ok]

theorem writes_quota (quota : CpuQuota) : Writes (encodeQuota quota) := by
  cases quota <;>
    simp [encodeQuota, writes_seq_iff, Encoder.u8, Encoder.u64, Put.word, writes_ok]

theorem writes_ioprio (priority : IoPriority) : Writes (encodeIoprio priority) := by
  simp [encodeIoprio, writes_seq_iff, Encoder.u8, writes_ok]

theorem writes_cpuset_iff {cpus : CpuSet} : Writes (encodeCpuset cpus) ↔ cpus.Listable := by
  rw [encodeCpuset, writes_list_iff (by decide), CpuSet.Listable]
  simp [Encoder.u32, Put.word, writes_ok]

theorem writes_governor (governor : GovernorId) : Writes (Encoder.text governor.get) :=
  writes_text (by decide) governor.fieldText

theorem writes_profile (profile : PlatformProfileId) : Writes (Encoder.text profile.get) :=
  writes_text (by decide) profile.fieldText

theorem writes_cgroupName (name : CgroupName) : Writes (Encoder.text name.get) :=
  writes_text (by decide) name.fieldText

/-- Among the values only a processor set can be too long. -/
theorem writes_typedValue_iff {value : TypedValue} :
    Writes (encodeTypedValue value) ↔ value.Listable := by
  cases value <;>
    simp [encodeTypedValue, TypedValue.Listable, writes_seq_iff, Encoder.u8, Encoder.u16,
      Encoder.u32, Encoder.u64, Encoder.i64, Encoder.bool, Put.word, writes_ok, writes_frequency,
      writes_governor, writes_profile, writes_quota, writes_cpuset_iff, writes_uclamp,
      writes_cgroupName, writes_cgroup, writes_ioprio]

theorem writes_mutationKind_iff {kind : MutationKind} :
    Writes (encodeMutationKind kind) ↔ kind.typedValue.Listable := by
  cases kind <;>
    simp [encodeMutationKind, MutationKind.typedValue, TypedValue.Listable, writes_seq_iff,
      Encoder.u8, Encoder.u16, Encoder.u32, Encoder.u64, Encoder.i64, Put.word, writes_ok,
      writes_frequency, writes_governor, writes_profile, writes_quota, writes_cpuset_iff,
      writes_uclamp, writes_cgroupName, writes_cgroup, writes_ioprio, writes_process]

/-! ## Parts of a record -/

/-- The collections of an operation are short enough for the journal. -/
structure OperationRecord.Listable (operation : OperationRecord) : Prop where
  desired : operation.mutation.desired.Listable
  dependencies : operation.mutation.dependencies.length ≤ maxDependencies
  original : ∀ snapshot ∈ operation.snapshot, snapshot.originalTyped.Listable

theorem writes_mutation_iff {mutation : PlannedMutation} (checked : mutation.Checked) :
    Writes (encodeMutation mutation) ↔
      mutation.desired.Listable ∧ mutation.dependencies.length ≤ maxDependencies := by
  have same : mutation.kind.typedValue = mutation.desired :=
    (PlannedMutation.eq_of_new checked.new_eq).2
  have fits : maxDependencies ≤ 4294967295 := by decide
  simp [encodeMutation, writes_seq_iff, Encoder.mutationId, Encoder.fingerprint, Encoder.fixed,
    Encoder.u8, Encoder.u32, Put.word, writes_ok, writes_textId, writes_mutationKind_iff,
    writes_typedValue_iff, writes_list_iff fits, same]

theorem writes_snapshot_iff {snapshot : Snapshot} :
    Writes (encodeSnapshot snapshot) ↔ snapshot.originalTyped.Listable := by
  have small : snapshot.originalRaw.get.length ≤ 4294967295 :=
    snapshot.originalRaw.length_le.trans (by decide)
  simp [encodeSnapshot, writes_seq_iff, Encoder.mutationId, Encoder.fingerprint, Encoder.fixed,
    Encoder.timestamp, Encoder.u8, Encoder.u32, Encoder.u128, Put.word, writes_ok, writes_textId,
    writes_bytes small, writes_typedValue_iff]

theorem writes_applyReceipt (receipt : ApplyReceipt) : Writes (encodeApplyReceipt receipt) := by
  simp [encodeApplyReceipt, writes_seq_iff, Encoder.mutationId, Encoder.fingerprint,
    Encoder.fixed, Encoder.u32, Put.word, writes_ok]

theorem writes_verification (verification : VerificationResult) :
    Writes (encodeVerification verification) := by
  simp [encodeVerification, writes_seq_iff, writes_optional_iff, Encoder.mutationId,
    Encoder.fingerprint, Encoder.fixed, Encoder.bool, Encoder.u8, Encoder.u32, Put.word, writes_ok]

theorem writes_restoreReceipt (receipt : RestoreReceipt) :
    Writes (encodeRestoreReceipt receipt) := by
  simp [encodeRestoreReceipt, writes_seq_iff, Encoder.mutationId, Encoder.fingerprint,
    Encoder.fixed, Encoder.bool, Encoder.u8, Encoder.u32, Put.word, writes_ok]

theorem writes_transition_iff {transition : TransitionRecord} :
    Writes (encodeTransition transition) ↔ FieldText maxReasonBytes transition.reason := by
  have fits : maxReasonBytes ≤ 4294967295 := by decide
  simp [encodeTransition, writes_seq_iff, Encoder.sessionId, Encoder.fixed, Encoder.timestamp,
    Encoder.u8, Encoder.u64, Encoder.u128, Put.word, writes_ok, writes_string_iff fits]

theorem writes_failure_iff {failure : FailureRecord} :
    Writes (encodeFailure failure) ↔ FieldText maxReasonBytes failure.message := by
  have fits : maxReasonBytes ≤ 4294967295 := by decide
  simp [encodeFailure, writes_seq_iff, writes_optional_iff, Encoder.mutationId, Encoder.u8,
    Encoder.u16, Encoder.u32, Put.word, writes_ok, writes_string_iff fits]

theorem writes_operation_iff {operation : OperationRecord} (checked : operation.Checked) :
    Writes (encodeOperation operation) ↔ operation.Listable ∧
      ∀ failure ∈ operation.failure, FieldText maxReasonBytes failure.message := by
  have listable : operation.Listable ↔ (operation.mutation.desired.Listable ∧
      operation.mutation.dependencies.length ≤ maxDependencies) ∧
        ∀ snapshot ∈ operation.snapshot, snapshot.originalTyped.Listable := by
    constructor
    · rintro ⟨desired, dependencies, original⟩
      exact ⟨⟨desired, dependencies⟩, original⟩
    · rintro ⟨⟨desired, dependencies⟩, original⟩
      exact ⟨desired, dependencies, original⟩
  rw [listable]
  simp [encodeOperation, writes_seq_iff, writes_optional_iff, Encoder.u8, writes_ok,
    writes_mutation_iff checked.mutation, writes_snapshot_iff, writes_applyReceipt,
    writes_verification, writes_restoreReceipt, writes_failure_iff, and_assoc]

theorem writes_session_iff {session : Session} :
    Writes (encodeSession session) ↔ session.header.targets.length ≤ maxTargets := by
  have fits : maxTargets ≤ 4294967295 := by decide
  simp [encodeSession, writes_seq_iff, Encoder.sessionId, Encoder.fixed, Encoder.timestamp,
    Encoder.u8, Encoder.u128, Put.word, writes_ok, writes_list_iff fits, writes_textId]

/-! ## Texts of failures -/

theorem takeBytes_size (chars : List Char) (maxBytes : Nat) :
    (String.ofList (takeBytes maxBytes chars)).utf8ByteSize ≤ maxBytes := by
  induction chars generalizing maxBytes with
  | nil => exact Nat.zero_le _
  | cons char rest ih =>
      rw [takeBytes]
      split
      next fits =>
        have left := ih (maxBytes - char.utf8Size)
        rw [String.ofList_cons, String.utf8ByteSize_append, String.utf8ByteSize_singleton]
        omega
      next => exact Nat.zero_le _

theorem truncateText_size (value : String) (maxBytes : Nat) :
    (truncateText value maxBytes).utf8ByteSize ≤ maxBytes := by
  unfold truncateText
  split
  next fits => exact fits
  next => exact takeBytes_size _ _

theorem utf8_append (first second : String) :
    utf8 (first ++ second) = utf8 first ++ utf8 second := by
  simp [utf8]

theorem takeBytes_prefix (chars : List Char) (maxBytes : Nat) :
    ∃ back, chars = takeBytes maxBytes chars ++ back := by
  induction chars generalizing maxBytes with
  | nil => exact ⟨[], rfl⟩
  | cons char rest ih =>
      rw [takeBytes]
      split
      next fits =>
        rcases ih (maxBytes - char.utf8Size) with ⟨back, same⟩
        exact ⟨back, congrArg (char :: ·) same⟩
      next => exact ⟨char :: rest, rfl⟩

/-- A text that is cut to length stays a text without NUL, and does not become
empty when a character fits. -/
theorem truncateText_clean {value : String} {maxBytes : Nat} (room : 4 ≤ maxBytes)
    (nonempty : value.isEmpty = false) (noNul : containsNul value = false) :
    (truncateText value maxBytes).isEmpty = false ∧
      containsNul (truncateText value maxBytes) = false := by
  unfold truncateText
  split
  next => exact ⟨nonempty, noNul⟩
  next =>
    rcases takeBytes_prefix value.toList maxBytes with ⟨back, same⟩
    constructor
    · cases chars : value.toList with
      | nil =>
          rw [String.toList_eq_nil_iff] at chars
          rw [chars] at nonempty
          cases nonempty
      | cons char rest =>
          have small : char.utf8Size ≤ maxBytes := char.utf8Size_le_four.trans room
          rw [takeBytes, if_pos small, String.isEmpty_eq_false_iff, ne_eq,
            String.ofList_eq_empty_iff]
          exact List.cons_ne_nil _ _
    · have split : value = String.ofList (takeBytes maxBytes value.toList) ++
          String.ofList back := by
        rw [← String.ofList_append, ← same, String.ofList_toList]
      rw [split, containsNul, utf8_append, List.contains_append, Bool.or_eq_false_iff] at noNul
      exact noNul.1

/-! ## Validation -/

/-- What the engine and the journal ask of an apply receipt. -/
structure ApplyReceipt.Bound (receipt : ApplyReceipt) (mutation : PlannedMutation) : Prop where
  mutationId : receipt.mutationId = mutation.mutationId
  precondition : receipt.observedPrecondition = mutation.precondition
  postcondition : receipt.observedPostcondition = receipt.ownershipFingerprint

theorem validateOperations_eq_ok_iff {ids : List MutationId} {operations : List OperationRecord} :
    validateOperations ids operations = .ok () ↔
      (operations.map fun operation => operation.mutation.mutationId).Nodup ∧
        ∀ operation ∈ operations, operation.mutation.mutationId ∉ ids ∧
          validateReceiptOwners operation = .ok () ∧
            validateOperationRecord operation = .ok () := by
  induction operations generalizing ids with
  | nil => simp [validateOperations]
  | cons operation rest ih =>
      have step : validateOperations ids (operation :: rest) = .ok () ↔
          operation.mutation.mutationId ∉ ids ∧ validateReceiptOwners operation = .ok () ∧
            validateOperationRecord operation = .ok () ∧
            validateOperations (operation.mutation.mutationId :: ids) rest = .ok () := by
        rw [validateOperations, rejectIf_bind_eq_ok_iff]
        simp only [decide_eq_false_iff_not, bind_eq_ok_iff, Unique.exists_iff,
          PUnit.default_eq_unit]
      rw [step, ih, List.map_cons, List.nodup_cons, List.forall_mem_cons]
      constructor
      · rintro ⟨fresh, owners, valid, distinct, others⟩
        refine ⟨⟨?_, distinct⟩, ⟨fresh, owners, valid⟩, ?_⟩
        · intro member
          rcases List.mem_map.mp member with ⟨other, later, same⟩
          exact (others other later).1 (List.mem_cons.mpr (.inl same))
        · intro other later
          rcases others other later with ⟨unseen, rest⟩
          exact ⟨fun member => unseen (List.mem_cons_of_mem _ member), rest⟩
      · rintro ⟨⟨unlike, distinct⟩, ⟨fresh, owners, valid⟩, others⟩
        refine ⟨fresh, owners, valid, distinct, ?_⟩
        intro other later
        rcases others other later with ⟨unseen, rest⟩
        refine ⟨?_, rest⟩
        intro member
        rcases List.mem_cons.mp member with same | seen
        · exact unlike (List.mem_map.mpr ⟨other, later, same⟩)
        · exact unseen seen

theorem validateTargets_map (operations : List OperationRecord) :
    validateTargets (operations.map fun operation => operation.mutation.target) operations =
      .ok () := by
  induction operations with
  | nil => rfl
  | cons operation rest ih =>
      rw [List.map_cons, validateTargets, rejectIf_bind_eq_ok_iff]
      exact ⟨bne_self_eq_false _, ih⟩

end Sysboost.Core
