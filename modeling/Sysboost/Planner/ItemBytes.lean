import Sysboost.Planner.Legible

/-!
# Reading an item back

A text and a block of bytes are written behind their length.  The dependencies
of an item are written behind each other without one: they end before the first
word that is zero, since the precondition behind them is shorter than `2 ^ 32`.
-/

namespace Sysboost.Planner

open Sysboost.Core ByteCodec

namespace DigestWriter

theorem word_append_inj {width first second : Nat} {rest rest' : Bytes}
    (bound : first < 256 ^ width) (bound' : second < 256 ^ width)
    (same : toBigEndian width first ++ rest = toBigEndian width second ++ rest') :
    first = second ∧ rest = rest' := by
  obtain ⟨words, rests⟩ := List.append_inj same (by simp)
  exact ⟨toBigEndian_inj bound bound' words, rests⟩

theorem u8_append_inj {first second : Nat} {rest rest' : Bytes}
    (same : u8 first ++ rest = u8 second ++ rest') :
    UInt8.ofNat first = UInt8.ofNat second ∧ rest = rest' := by
  simpa [u8] using same

theorem flag_append_inj {first second : Bool} {rest rest' : Bytes}
    (same : flag first ++ rest = flag second ++ rest') : first = second ∧ rest = rest' := by
  obtain ⟨bytes, rests⟩ := u8_append_inj same
  refine ⟨?_, rests⟩
  cases first <;> cases second <;> first | rfl | exact absurd bytes (by decide)

theorem u32_append_inj {first second : UInt32} {rest rest' : Bytes}
    (same : u32 first ++ rest = u32 second ++ rest') : first = second ∧ rest = rest' := by
  obtain ⟨words, rests⟩ := word_append_inj first.toNat_lt second.toNat_lt same
  exact ⟨UInt32.toNat_inj.mp words, rests⟩

theorem bytes_append_inj {first second rest rest' : Bytes} (short : first.length < 2 ^ 64)
    (short' : second.length < 2 ^ 64) (same : bytes first ++ rest = bytes second ++ rest') :
    first = second ∧ rest = rest' := by
  simp only [bytes, u64, List.append_assoc, UInt64.toNat_ofNat_of_lt' short,
    UInt64.toNat_ofNat_of_lt' short'] at same
  obtain ⟨lengths, texts⟩ := word_append_inj short short' same
  exact List.append_inj texts lengths

theorem block_append_inj {size : Nat} {first second : Block size} {rest rest' : Bytes}
    (same : bytes first.bytes ++ rest = bytes second.bytes ++ rest') :
    first = second ∧ rest = rest' := by
  have lengths : first.bytes.length = second.bytes.length := by
    rw [first.length_eq, second.length_eq]
  simp only [bytes, List.append_assoc, lengths] at same
  obtain ⟨blocks, rests⟩ := List.append_inj (List.append_cancel_left same) lengths
  refine ⟨?_, rests⟩
  cases first
  cases second
  cases blocks
  rfl

theorem utf8_injective : Function.Injective utf8 := by
  intro first second same
  exact String.toByteArray_inj.mp (ByteArray.ext (Array.toList_inj.mp same))

theorem str_append_inj {first second : String} {rest rest' : Bytes}
    (short : (utf8 first).length < 2 ^ 64) (short' : (utf8 second).length < 2 ^ 64)
    (same : str first ++ rest = str second ++ rest') : first = second ∧ rest = rest' := by
  obtain ⟨texts, rests⟩ := bytes_append_inj short short' same
  exact ⟨utf8_injective texts, rests⟩

theorem optionStr_append_inj {first second : Option String} {rest rest' : Bytes}
    (short : ∀ text ∈ first, (utf8 text).length < 2 ^ 64)
    (short' : ∀ text ∈ second, (utf8 text).length < 2 ^ 64)
    (same : optionStr first ++ rest = optionStr second ++ rest') :
    first = second ∧ rest = rest' := by
  cases first with
  | none =>
      cases second with
      | none => exact ⟨rfl, List.append_cancel_left same⟩
      | some text =>
          simp only [optionStr, List.append_assoc] at same
          exact absurd (flag_append_inj same).1 (by decide)
  | some text =>
      cases second with
      | none =>
          simp only [optionStr, List.append_assoc] at same
          exact absurd (flag_append_inj same).1 (by decide)
      | some text' =>
          simp only [optionStr, List.append_assoc] at same
          obtain ⟨-, texts⟩ := flag_append_inj same
          obtain ⟨rfl, rests⟩ := str_append_inj (short text rfl) (short' text' rfl) texts
          exact ⟨rfl, rests⟩

/-- The words end where the second word behind is a zero that no zero
follows. -/
theorem words_end {front : List UInt32} {word last last' mark : UInt32} {rest rest' : Bytes}
    (nonzero : ∀ word ∈ front, word ≠ 0) (marked : mark ≠ 0) :
    u32 last ++ (u32 0 ++ (u32 mark ++ rest)) ≠
      u32 word ++ (front.flatMap u32 ++ (u32 last' ++ (u32 0 ++ (u32 mark ++ rest')))) := by
  intro same
  obtain ⟨-, behind⟩ := u32_append_inj same
  cases front with
  | nil =>
      obtain ⟨-, behind⟩ := u32_append_inj behind
      exact marked (u32_append_inj behind).1
  | cons next front =>
      rw [List.flatMap_cons, List.append_assoc] at behind
      exact nonzero next List.mem_cons_self (u32_append_inj behind).1.symm

/-- Words that are not zero, up to a last word before a zero. -/
theorem words_append_inj {front front' : List UInt32} {last last' mark : UInt32}
    {rest rest' : Bytes} (nonzero : ∀ word ∈ front, word ≠ 0)
    (nonzero' : ∀ word ∈ front', word ≠ 0) (marked : mark ≠ 0)
    (same : front.flatMap u32 ++ (u32 last ++ (u32 0 ++ (u32 mark ++ rest))) =
      front'.flatMap u32 ++ (u32 last' ++ (u32 0 ++ (u32 mark ++ rest')))) :
    front = front' ∧ last = last' ∧ rest = rest' := by
  induction front generalizing front' with
  | nil =>
      cases front' with
      | nil =>
          obtain ⟨lasts, rests⟩ := u32_append_inj same
          exact ⟨rfl, lasts, List.append_cancel_left (List.append_cancel_left rests)⟩
      | cons word front' =>
          rw [List.forall_mem_cons] at nonzero'
          rw [List.flatMap_cons, List.append_assoc] at same
          exact absurd same (words_end nonzero'.2 marked)
  | cons word front ih =>
      rw [List.forall_mem_cons] at nonzero
      rw [List.flatMap_cons, List.append_assoc] at same
      cases front' with
      | nil => exact absurd same.symm (words_end nonzero.2 marked)
      | cons word' front' =>
          rw [List.forall_mem_cons] at nonzero'
          rw [List.flatMap_cons, List.append_assoc] at same
          obtain ⟨heads, tails⟩ := u32_append_inj same
          obtain ⟨fronts, lasts, rests⟩ := ih nonzero.2 nonzero'.2 tails
          exact ⟨by rw [heads, fronts], lasts, rests⟩

end DigestWriter

open DigestWriter

/-! ## Items -/

/-- The texts of an item are no longer than a `u64` can tell, as no text in
memory is. -/
structure Addressable (item : PlanItem) : Prop where
  feature : (utf8 (displayFeature item.feature)).length < 2 ^ 64
  current : ∀ text ∈ item.current.map renderValue, (utf8 text).length < 2 ^ 64
  desired : ∀ text ∈ item.desired.map renderValue, (utf8 text).length < 2 ^ 64
  rationale : (utf8 item.rationale).length < 2 ^ 64
  reason : ∀ text ∈ item.reason, (utf8 text).length < 2 ^ 64
  kind : ∀ mutation ∈ item.mutation, (utf8 (debugKind mutation.kind)).length < 2 ^ 64

instance (item : PlanItem) : Decidable (Addressable item) :=
  decidable_of_iff (_ ∧ _ ∧ _ ∧ _ ∧ _ ∧ _)
    ⟨fun ⟨feature, current, desired, rationale, reason, kind⟩ =>
        ⟨feature, current, desired, rationale, reason, kind⟩,
      fun fits =>
        ⟨fits.feature, fits.current, fits.desired, fits.rationale, fits.reason, fits.kind⟩⟩

/-- What is known of an item that a digest takes in. -/
structure Readable (item : PlanItem) : Prop extends Addressable item where
  executable : item.action = .mutation ↔ item.mutation.isSome = true
  independent : item.mutation = none → item.dependencies = []
  nonzero : ∀ dependency ∈ item.dependencies, dependency.get ≠ 0

/-- What the bytes of an item determine. -/
structure ReadAlike (item other : PlanItem) : Prop where
  capability : item.capability = other.capability
  operation : item.operation = other.operation
  backend : item.backend = other.backend
  target : item.target = other.target
  action : item.action = other.action
  dependencies : item.dependencies = other.dependencies
  mutation : (item.mutation.map fun mutation =>
      (mutation.mutationId, mutation.precondition, mutation.kind)) =
    other.mutation.map fun mutation =>
      (mutation.mutationId, mutation.precondition, mutation.kind)

theorem asStr_length {name : String} (id : TextId name) : (utf8 id.asStr).length < 2 ^ 64 := by
  have valid := id.valid
  unfold validateText at valid
  split at valid
  · cases valid
  · split at valid
    · cases valid
    next short =>
      have size : (utf8 id.asStr).length = id.asStr.utf8ByteSize := rfl
      omega

theorem action_of_byte {action other : PlanAction}
    (same : UInt8.ofNat action.ctorIdx = UInt8.ofNat other.ctorIdx) : action = other := by
  cases action <;> cases other <;> first | rfl | exact absurd same (by decide)

/-- A precondition begins with a word that is zero. -/
theorem bytes_block (block : Block 32) : bytes block.bytes = u32 0 ++ (u32 32 ++ block.bytes) := by
  rw [bytes, block.length_eq]
  rfl

/-- A mutation behind its dependencies. -/
theorem digestMutation_append_inj {mutation other : PlannedMutation}
    {dependencies dependencies' : List MutationId} {rest rest' : Bytes}
    (short : (utf8 (debugKind mutation.kind)).length < 2 ^ 64)
    (short' : (utf8 (debugKind other.kind)).length < 2 ^ 64)
    (nonzero : ∀ dependency ∈ dependencies, dependency.get ≠ 0)
    (nonzero' : ∀ dependency ∈ dependencies', dependency.get ≠ 0)
    (same : dependencies.flatMap (fun dependency => u32 dependency.get) ++
        (digestMutation mutation ++ rest) =
      dependencies'.flatMap (fun dependency => u32 dependency.get) ++
        (digestMutation other ++ rest')) :
    dependencies = dependencies' ∧ (mutation.mutationId, mutation.precondition, mutation.kind) =
      (other.mutationId, other.precondition, other.kind) ∧ rest = rest' := by
  have injective : Function.Injective MutationId.get := fun ⟨_⟩ ⟨_⟩ same => congrArg _ same
  simp only [digestMutation, writeKind, bytes_block, List.append_assoc,
    ← List.flatMap_map MutationId.get u32] at same
  obtain ⟨words, ids, same⟩ := words_append_inj (by simpa using nonzero) (by simpa using nonzero')
    (by decide) same
  obtain ⟨preconditions, same⟩ := List.append_inj same
    (by rw [mutation.precondition.bytes.length_eq, other.precondition.bytes.length_eq])
  have precondition : mutation.precondition = other.precondition := by
    generalize mutation.precondition = first at preconditions
    generalize other.precondition = second at preconditions
    obtain ⟨⟨first, _⟩⟩ := first
    obtain ⟨⟨second, _⟩⟩ := second
    cases preconditions
    rfl
  obtain ⟨operations, same⟩ := str_append_inj (asStr_length _) (asStr_length _) same
  obtain ⟨kinds, rests⟩ := str_append_inj short short' same
  have kind := debugKind_injective operations kinds
  exact ⟨List.map_injective_iff.mpr injective words,
    by rw [injective ids, precondition, kind], rests⟩

theorem digestItem_append_inj {item other : PlanItem} {rest rest' : Bytes}
    (readable : Readable item) (readable' : Readable other)
    (same : digestItem item ++ rest = digestItem other ++ rest') :
    ReadAlike item other ∧ rest = rest' := by
  simp only [digestItem, List.append_assoc] at same
  obtain ⟨capabilities, same⟩ := str_append_inj (asStr_length _) (asStr_length _) same
  obtain ⟨operations, same⟩ := str_append_inj (asStr_length _) (asStr_length _) same
  have named {name : String} (id : Option (TextId name)) :
      ∀ text ∈ id.map TextId.asStr, (utf8 text).length < 2 ^ 64 := by
    intro text known
    obtain ⟨id, -, rfl⟩ := Option.map_eq_some_iff.mp known
    exact asStr_length id
  obtain ⟨backends, same⟩ := optionStr_append_inj (named _) (named _) same
  obtain ⟨targets, same⟩ := optionStr_append_inj (named _) (named _) same
  obtain ⟨-, same⟩ := u8_append_inj same
  obtain ⟨actions, same⟩ := u8_append_inj same
  obtain ⟨-, same⟩ := str_append_inj readable.feature readable'.feature same
  obtain ⟨-, same⟩ := u8_append_inj same
  obtain ⟨-, same⟩ := u8_append_inj same
  obtain ⟨-, same⟩ := u8_append_inj same
  obtain ⟨-, same⟩ := flag_append_inj same
  obtain ⟨-, same⟩ := optionStr_append_inj readable.current readable'.current same
  obtain ⟨-, same⟩ := optionStr_append_inj readable.desired readable'.desired same
  obtain ⟨-, same⟩ := str_append_inj readable.rationale readable'.rationale same
  obtain ⟨-, same⟩ := optionStr_append_inj readable.reason readable'.reason same
  have action := action_of_byte actions
  have alike (dependencies : item.dependencies = other.dependencies)
      (mutation : (item.mutation.map fun mutation =>
          (mutation.mutationId, mutation.precondition, mutation.kind)) =
        other.mutation.map fun mutation =>
          (mutation.mutationId, mutation.precondition, mutation.kind)) : ReadAlike item other :=
    ⟨TextId.asStr_injective capabilities, TextId.asStr_injective operations,
      Option.map_injective TextId.asStr_injective backends,
      Option.map_injective TextId.asStr_injective targets, action, dependencies, mutation⟩
  have executable : item.mutation.isSome = true ↔ other.mutation.isSome = true := by
    rw [← readable.executable, ← readable'.executable, action]
  cases planned : item.mutation with
  | none =>
      have planned' : other.mutation = none := by simpa [planned] using executable
      rw [planned, planned', readable.independent planned, readable'.independent planned'] at same
      exact ⟨alike (by rw [readable.independent planned, readable'.independent planned'])
        (by rw [planned, planned']), same⟩
  | some mutation =>
      obtain ⟨mutation', planned'⟩ :=
        Option.isSome_iff_exists.mp (executable.mp (by simp [planned]))
      rw [planned, planned'] at same
      obtain ⟨dependencies, mutations, rests⟩ := digestMutation_append_inj
        (readable.kind mutation planned) (readable'.kind mutation' planned') readable.nonzero
        readable'.nonzero same
      exact ⟨alike dependencies (by rw [planned, planned']; exact congrArg some mutations), rests⟩

theorem digestItem_ne_nil (item : PlanItem) : digestItem item ≠ [] := by
  have start : 8 ≤ (digestItem item).length := by
    simp only [digestItem, str, bytes, u64, List.length_append, toBigEndian_length]
    omega
  intro empty
  simp [empty] at start

/-- Items with the same bytes are read alike, one by one. -/
theorem readAlike_of_flatMap {items others : List PlanItem}
    (readable : ∀ item ∈ items, Readable item) (readable' : ∀ item ∈ others, Readable item)
    (same : items.flatMap digestItem = others.flatMap digestItem) :
    List.Forall₂ ReadAlike items others := by
  induction items generalizing others with
  | nil =>
      cases others with
      | nil => exact .nil
      | cons other others => simp [digestItem_ne_nil] at same
  | cons item items ih =>
      cases others with
      | nil => simp [digestItem_ne_nil] at same
      | cons other others =>
          rw [List.forall_mem_cons] at readable readable'
          rw [List.flatMap_cons, List.flatMap_cons] at same
          obtain ⟨alike, rests⟩ := digestItem_append_inj readable.1 readable'.1 same
          exact .cons alike (ih readable.2 readable'.2 rests)

end Sysboost.Planner
