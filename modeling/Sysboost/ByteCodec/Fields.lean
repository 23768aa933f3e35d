import Sysboost.ByteCodec.BigEndian

/-!
# Writers, readers and the two laws between them

A writer either fails or yields the bytes it appends; a reader consumes a
prefix of its input.  `Reads` says that a reader gives back the value whose
bytes a writer produced, in front of every suffix.  `Rewrites` says that a
value a reader accepted can be written again, in no more bytes than were
consumed.  Both laws compose along the monadic structure of the reader, so a
format is checked field by field.
-/

namespace ByteCodec

universe u v w

variable {ε : Type u} {α : Type v} {β : Type v}

/-! ## Writers -/

/-- The bytes a writer appends, or the error that stops it. -/
abbrev Put (ε : Type u) := Except ε Bytes

namespace Put

/-- Write fields in order.  The first failing field decides the error. -/
def seq : List (Put ε) → Put ε
  | [] => .ok []
  | field :: rest =>
      match field with
      | .error error => .error error
      | .ok front =>
          match seq rest with
          | .error error => .error error
          | .ok back => .ok (front ++ back)

/-- Write every element of a list with the same writer. -/
def each (write : α → Put ε) (values : List α) : Put ε :=
  seq (values.map write)

@[simp]
theorem seq_nil : seq ([] : List (Put ε)) = .ok [] :=
  rfl

theorem seq_cons_eq_ok_iff {field : Put ε} {rest : List (Put ε)} {bytes : Bytes} :
    seq (field :: rest) = .ok bytes ↔
      ∃ front back, field = .ok front ∧ seq rest = .ok back ∧ bytes = front ++ back := by
  cases field with
  | error error => simp [seq]
  | ok front => cases h : seq rest <;> simp [seq, h, eq_comm]

/-- An absent value is a zero byte; a present one follows a one byte. -/
def optional (write : α → Put ε) : Option α → Put ε
  | none => .ok [0]
  | some value => seq [.ok [1], write value]

end Put

/-! ## Readers -/

/-- A reader returns a value and the bytes it left unread. -/
structure Get (ε : Type u) (α : Type v) where
  run : Bytes → Except ε (α × Bytes)

namespace Get

instance : Monad (Get ε) where
  pure value := ⟨fun bytes => .ok (value, bytes)⟩
  bind reader next := ⟨fun bytes => do
    let (value, rest) ← reader.run bytes
    (next value).run rest⟩

@[simp]
theorem run_pure (value : α) (bytes : Bytes) :
    (pure value : Get ε α).run bytes = .ok (value, bytes) :=
  rfl

theorem run_bind_eq_ok_iff {reader : Get ε α} {next : α → Get ε β} {bytes rest : Bytes}
    {result : β} :
    (reader >>= next).run bytes = .ok (result, rest) ↔
      ∃ value middle, reader.run bytes = .ok (value, middle) ∧
        (next value).run middle = .ok (result, rest) := by
  change (reader.run bytes).bind (fun outcome => (next outcome.1).run outcome.2) = _ ↔ _
  cases h : reader.run bytes with
  | error error => simp [Except.bind]
  | ok outcome =>
      obtain ⟨value, middle⟩ := outcome
      simp [Except.bind]

/-- A check on a value already read; nothing is consumed. -/
def lift (result : Except ε α) : Get ε α :=
  ⟨fun bytes => result.map fun value => (value, bytes)⟩

/-- The next `count` bytes. -/
def take (truncated : ε) (count : Nat) : Get ε Bytes :=
  ⟨fun bytes =>
    if bytes.length < count then .error truncated
    else .ok (bytes.take count, bytes.drop count)⟩

/-- Read `count` values one after another. -/
def times (count : Nat) (reader : Get ε α) : Get ε (List α) :=
  match count with
  | 0 => pure []
  | count + 1 => do
      let value ← reader
      let values ← times count reader
      pure (value :: values)

/-- Counterpart of `Put.optional`; every non-zero flag announces a value. -/
def optional (flag : Get ε UInt8) (reader : Get ε α) : Get ε (Option α) :=
  ⟨fun bytes =>
    match flag.run bytes with
    | .error error => .error error
    | .ok (byte, rest) =>
        if byte ≠ 0 then (reader.run rest).map fun (value, left) => (some value, left)
        else .ok (none, rest)⟩

end Get

/-! ## Reading back what was written -/

/-- `reader` gives back `value` from the bytes of `writer`, before every suffix. -/
def Reads (reader : Get ε α) (writer : Put ε) (value : α) : Prop :=
  ∀ bytes suffix, writer = .ok bytes → reader.run (bytes ++ suffix) = .ok (value, suffix)

namespace Reads

theorem pure (value : α) : Reads (pure value : Get ε α) (Put.seq []) value := by
  rintro bytes suffix ok
  cases ok
  rfl

/-- A reader of the first field followed by a reader of the remaining ones. -/
theorem bind {reader : Get ε α} {next : α → Get ε β} {field : Put ε} {rest : List (Put ε)}
    {value : α} {result : β} (first : Reads reader field value)
    (later : Reads (next value) (Put.seq rest) result) :
    Reads (reader >>= next) (Put.seq (field :: rest)) result := by
  intro bytes suffix ok
  obtain ⟨front, back, fieldOk, restOk, rfl⟩ := Put.seq_cons_eq_ok_iff.mp ok
  rw [Get.run_bind_eq_ok_iff]
  exact ⟨value, back ++ suffix, by rw [List.append_assoc]; exact first _ _ fieldOk,
    later _ _ restOk⟩

/-- A reader that computes its result from one field. -/
theorem bind_last {reader : Get ε α} {next : α → Get ε β} {field : Put ε} {value : α}
    {result : β} (first : Reads reader field value)
    (later : Reads (next value) (Put.seq []) result) :
    Reads (reader >>= next) field result := by
  intro bytes suffix ok
  rw [Get.run_bind_eq_ok_iff]
  exact ⟨value, suffix, first _ _ ok, later [] suffix rfl⟩

/-- The last field of a sequence. -/
theorem last {reader : Get ε α} {field : Put ε} {value : α} (known : Reads reader field value) :
    Reads reader (Put.seq [field]) value := by
  intro bytes suffix ok
  obtain ⟨front, back, fieldOk, backOk, rfl⟩ := Put.seq_cons_eq_ok_iff.mp ok
  cases backOk
  rw [List.append_nil]
  exact known _ _ fieldOk

theorem lift {result : Except ε α} {value : α} (ok : result = .ok value) :
    Reads (Get.lift result) (Put.seq []) value := by
  rintro bytes suffix written
  cases written
  simp [Get.lift, ok, Except.map]

/-- A check between two fields passes without consuming anything. -/
theorem lift_bind {check : Except ε α} {next : α → Get ε β} {writer : Put ε} {value : α}
    {result : β} (ok : check = .ok value) (later : Reads (next value) writer result) :
    Reads (Get.lift check >>= next) writer result := by
  intro bytes suffix written
  rw [Get.run_bind_eq_ok_iff]
  exact ⟨value, bytes ++ suffix, by simp [Get.lift, ok, Except.map], later _ _ written⟩

theorem times {reader : Get ε α} {write : α → Put ε} {values : List α}
    (each : ∀ value ∈ values, Reads reader (write value) value) :
    Reads (Get.times values.length reader) (Put.each write values) values := by
  induction values with
  | nil => exact pure []
  | cons value values ih =>
      refine bind (each value List.mem_cons_self) ?_
      refine bind_last (ih fun other member => each other (List.mem_cons_of_mem _ member)) ?_
      exact pure _

theorem optional {flag : Get ε UInt8} {reader : Get ε α} {write : α → Put ε}
    {value : Option α} (byte : ∀ b, Reads flag (.ok [b]) b)
    (present : ∀ inner ∈ value, Reads reader (write inner) inner) :
    Reads (Get.optional flag reader) (Put.optional write value) value := by
  intro bytes suffix ok
  cases value with
  | none =>
      cases ok
      have flagRun := byte 0 [0] suffix rfl
      simp only [List.singleton_append] at flagRun
      simp [Get.optional, flagRun]
  | some inner =>
      simp only [Put.optional] at ok
      obtain ⟨front, back, frontOk, backOk, rfl⟩ := Put.seq_cons_eq_ok_iff.mp ok
      obtain ⟨middle, tail, innerOk, tailOk, rfl⟩ := Put.seq_cons_eq_ok_iff.mp backOk
      cases frontOk
      cases tailOk
      have flagRun := byte 1 [1] (middle ++ suffix) rfl
      have innerRun := present inner rfl middle suffix innerOk
      simp only [List.singleton_append] at flagRun
      simp [Get.optional, flagRun, innerRun, Except.map]

end Reads

/-! ## Writing again what was read -/

/-- Whatever `reader` accepts has bytes satisfying `written`, no more of them
than the reader consumed. -/
def Rewrites (reader : Get ε α) (written : α → Bytes → Prop) : Prop :=
  ∀ ⦃bytes value rest⦄, reader.run bytes = .ok (value, rest) →
    ∃ again, written value again ∧ again.length + rest.length ≤ bytes.length

namespace Rewrites

theorem mono {reader : Get ε α} {written other : α → Bytes → Prop}
    (known : Rewrites reader written)
    (implies : ∀ value bytes, written value bytes → other value bytes) :
    Rewrites reader other := by
  intro bytes value rest ok
  obtain ⟨again, holds, fits⟩ := known ok
  exact ⟨again, implies _ _ holds, fits⟩

theorem pure {value : α} {written : α → Bytes → Prop} (holds : written value []) :
    Rewrites (pure value : Get ε α) written := by
  rintro bytes result rest ok
  cases ok
  exact ⟨[], holds, by simp⟩

theorem bind {reader : Get ε α} {next : α → Get ε β} {first : α → Bytes → Prop}
    {written : β → Bytes → Prop} (known : Rewrites reader first)
    (later : ∀ value front, first value front →
      Rewrites (next value) fun result back => written result (front ++ back)) :
    Rewrites (reader >>= next) written := by
  intro bytes result rest ok
  obtain ⟨value, middle, readOk, nextOk⟩ := Get.run_bind_eq_ok_iff.mp ok
  obtain ⟨front, frontHolds, frontFits⟩ := known readOk
  obtain ⟨back, backHolds, backFits⟩ := later value front frontHolds nextOk
  exact ⟨front ++ back, backHolds, by rw [List.length_append]; omega⟩

theorem lift {check : Except ε α} {written : α → Bytes → Prop}
    (holds : ∀ value, check = .ok value → written value []) :
    Rewrites (Get.lift check) written := by
  intro bytes value rest ok
  cases check with
  | error error => simp [Get.lift, Except.map] at ok
  | ok inner =>
      simp only [Get.lift, Except.map, Except.ok.injEq, Prod.mk.injEq] at ok
      obtain ⟨rfl, rfl⟩ := ok
      exact ⟨[], holds _ rfl, by simp⟩

/-- A check between two fields only restricts what is read later. -/
theorem lift_bind {check : Except ε α} {next : α → Get ε β} {written : β → Bytes → Prop}
    (later : ∀ value, check = .ok value → Rewrites (next value) written) :
    Rewrites (Get.lift check >>= next) written := by
  have passed : Rewrites (Get.lift check) fun value front => check = .ok value ∧ front = [] :=
    lift fun _ ok => ⟨ok, rfl⟩
  refine bind passed ?_
  rintro value front ⟨ok, rfl⟩
  simpa using later value ok

/-- Repeated reading; a property `valid` of every single value read holds of
all of them. -/
theorem times {reader : Get ε α} {write : α → Put ε} {valid : α → Prop} (count : Nat)
    (known : Rewrites reader fun value bytes => write value = .ok bytes ∧ valid value) :
    Rewrites (Get.times count reader) fun values bytes =>
      values.length = count ∧ Put.each write values = .ok bytes ∧ ∀ value ∈ values, valid value := by
  induction count with
  | zero => exact pure ⟨rfl, rfl, by simp⟩
  | succ count ih =>
      apply bind known
      rintro value front ⟨valueOk, valueValid⟩
      apply bind ih
      rintro values back ⟨length_eq, valuesOk, valuesValid⟩
      apply pure
      refine ⟨by simp [length_eq], ?_, ?_⟩
      · exact Put.seq_cons_eq_ok_iff.mpr ⟨front, back, valueOk, valuesOk, by simp⟩
      · rintro other member
        rcases List.mem_cons.mp member with rfl | later
        · exact valueValid
        · exact valuesValid other later

theorem optional {flag : Get ε UInt8} {reader : Get ε α} {write : α → Put ε} {valid : α → Prop}
    (byte : Rewrites flag fun value bytes => bytes = [value])
    (known : Rewrites reader fun value bytes => write value = .ok bytes ∧ valid value) :
    Rewrites (Get.optional flag reader) fun value bytes =>
      Put.optional write value = .ok bytes ∧ ∀ present ∈ value, valid present := by
  intro bytes value rest ok
  simp only [Get.optional] at ok
  cases flagRun : flag.run bytes with
  | error error => simp [flagRun] at ok
  | ok outcome =>
      obtain ⟨announced, middle⟩ := outcome
      obtain ⟨front, rfl, frontFits⟩ := byte flagRun
      simp only [List.length_singleton] at frontFits
      by_cases zero : announced = 0
      · simp only [flagRun, zero, ne_eq, not_true_eq_false, if_false, Except.ok.injEq,
          Prod.mk.injEq] at ok
        obtain ⟨rfl, rfl⟩ := ok
        exact ⟨[0], ⟨rfl, by simp⟩, by simpa using frontFits⟩
      · cases innerRun : reader.run middle with
        | error error => simp [flagRun, zero, innerRun, Except.map] at ok
        | ok inner =>
            obtain ⟨present, left⟩ := inner
            obtain ⟨back, ⟨backOk, backValid⟩, backFits⟩ := known innerRun
            simp only [flagRun, ne_eq, zero, not_false_eq_true, if_true, innerRun, Except.map,
              Except.ok.injEq, Prod.mk.injEq] at ok
            obtain ⟨rfl, rfl⟩ := ok
            refine ⟨1 :: back, ⟨?_, ?_⟩, by rw [List.length_cons]; omega⟩
            · simp [Put.optional, Put.seq, backOk]
            · rintro other same
              cases same
              exact backValid

end Rewrites

/-! ## Words, blocks and lengths -/

section Primitives

variable (truncated : ε)

/-- A word of `width` bytes. -/
def Put.word (width value : Nat) : Put ε := .ok (toBigEndian width value)

/-- A word of `width` bytes. -/
def Get.word (width : Nat) : Get ε Nat := do
  let bytes ← Get.take truncated width
  pure (ofBigEndian bytes)

/-- An array of `size` bytes. -/
def Get.block (size : Nat) : Get ε (Block size) :=
  ⟨fun bytes =>
    if fits : size ≤ bytes.length then
      .ok (⟨bytes.take size, by simp [fits]⟩, bytes.drop size)
    else .error truncated⟩

theorem Reads.take (bytes : Bytes) :
    Reads (Get.take truncated bytes.length) (.ok bytes) bytes := by
  rintro written suffix ok
  cases ok
  simp [Get.take]

theorem Rewrites.take (count : Nat) :
    Rewrites (Get.take truncated count) fun value bytes =>
      value.length = count ∧ bytes = value := by
  intro bytes value rest ok
  simp only [Get.take] at ok
  split at ok
  · cases ok
  · rename_i enough
    cases ok
    refine ⟨_, ⟨?_, rfl⟩, ?_⟩ <;> simp only [List.length_take, List.length_drop] <;> omega

theorem Reads.word {width value : Nat} (bound : value < 256 ^ width) :
    Reads (Get.word truncated width) (Put.word width value) value := by
  have known := Reads.take truncated (toBigEndian width value)
  rw [toBigEndian_length] at known
  refine Reads.bind_last known ?_
  rw [ofBigEndian_toBigEndian bound]
  exact Reads.pure _

theorem Rewrites.word (width : Nat) :
    Rewrites (Get.word truncated width) fun value bytes =>
      value < 256 ^ width ∧ bytes = toBigEndian width value := by
  refine Rewrites.bind (Rewrites.take truncated width) fun bytes front known => ?_
  obtain ⟨rfl, rfl⟩ := known
  exact Rewrites.pure ⟨ofBigEndian_lt _, by rw [toBigEndian_ofBigEndian, List.append_nil]⟩

theorem Reads.block {size : Nat} (block : Block size) :
    Reads (Get.block truncated size) (.ok block.bytes) block := by
  rintro written suffix ok
  cases ok
  obtain ⟨bytes, rfl⟩ := block
  simp [Get.block]

theorem Rewrites.block (size : Nat) :
    Rewrites (Get.block truncated size) fun value bytes => bytes = value.bytes := by
  intro bytes value rest ok
  simp only [Get.block] at ok
  split at ok
  · cases ok
    exact ⟨_, rfl, by simp only [List.length_take, List.length_drop]; omega⟩
  · cases ok

end Primitives

end ByteCodec
