import Sysboost.ByteCodec.Fields
import Sysboost.Core.Validate

/-!
# Primitive fields of the journal format

The encoder appends to a buffer and the decoder moves a cursor.  Here an
encoder is the list of bytes it appends and a decoder is a reader of a prefix,
so each pair is related by `Reads` and `Rewrites`.
-/

namespace Sysboost.Core

open ByteCodec

/-- What an `encode_*` function appends, or the error it stops with. -/
abbrev Encoder := Put SysboostError

/-- A `decode_*` function on the remaining bytes. -/
abbrev Decoder := Get SysboostError

/-- The error of `Decoder::take`. -/
def truncated : SysboostError :=
  corrupt "state record is truncated"

/-! ## Fixed-width fields -/

namespace Encoder

def u8 (value : UInt8) : Encoder := .ok [value]

def u16 (value : UInt16) : Encoder := Put.word 2 value.toNat

def u32 (value : UInt32) : Encoder := Put.word 4 value.toNat

def u64 (value : UInt64) : Encoder := Put.word 8 value.toNat

def u128 (value : BitVec 128) : Encoder := Put.word 16 value.toNat

def i64 (value : Int64) : Encoder := Put.word 8 value.toUInt64.toNat

def fixed {size : Nat} (value : Block size) : Encoder := .ok value.bytes

/-- `u8::from(value)` on a flag. -/
def bool (value : Bool) : Encoder := u8 (if value then 1 else 0)

end Encoder

namespace Decoder

def u8 : Decoder UInt8 :=
  ⟨fun
    | [] => .error truncated
    | byte :: rest => .ok (byte, rest)⟩

/-- A big-endian word of `width` bytes. -/
def word {α : Type} (width : Nat) (make : Nat → α) : Decoder α := do
  let value ← Get.word truncated width
  pure (make value)

def u16 : Decoder UInt16 := word 2 UInt16.ofNat

def u32 : Decoder UInt32 := word 4 UInt32.ofNat

def u64 : Decoder UInt64 := word 8 UInt64.ofNat

def u128 : Decoder (BitVec 128) := word 16 (BitVec.ofNat 128)

def i64 : Decoder Int64 := word 8 fun value => (UInt64.ofNat value).toInt64

def fixed {size : Nat} : Decoder (Block size) := Get.block truncated size

/-- `decoder.u8()? != 0`. -/
def bool : Decoder Bool := do
  let byte ← u8
  pure (byte != 0)

/-- A value that some constructor checks; its own error is replaced. -/
def checked {α β : Type} (message : String) (make : α → Except β γ) (value : α) : Decoder γ :=
  Get.lift ((make value).mapError fun _ => corrupt message)

/-- A one-byte tag of an enumeration. -/
def tag {α : Type} (decode : UInt8 → Except SysboostError α) : Decoder α := do
  let byte ← u8
  Get.lift (decode byte)

end Decoder

theorem reads_u8 (value : UInt8) : Reads Decoder.u8 (Encoder.u8 value) value := by
  rintro bytes suffix ok
  cases ok
  rfl

theorem rewrites_u8 : Rewrites Decoder.u8 fun value bytes => bytes = [value] := by
  intro bytes value rest ok
  cases bytes with
  | nil => cases ok
  | cons byte bytes =>
      cases ok
      exact ⟨_, rfl, by simp [Nat.add_comm]⟩

theorem reads_word {α : Type} {width value : Nat} {make : Nat → α} {result : α}
    (bound : value < 256 ^ width) (made : make value = result) :
    Reads (Decoder.word width make) (Put.word width value) result := by
  apply Reads.bind_last (Reads.word truncated bound)
  rw [made]
  exact Reads.pure result

theorem rewrites_word {α : Type} {width : Nat} {make : Nat → α} (toNat : α → Nat)
    (inverse : ∀ value, value < 256 ^ width → toNat (make value) = value) :
    Rewrites (Decoder.word width make) fun value bytes =>
      (Put.word width (toNat value) : Encoder) = .ok bytes := by
  apply Rewrites.bind (Rewrites.word truncated width)
  rintro value front ⟨bound, rfl⟩
  apply Rewrites.pure
  rw [inverse value bound, List.append_nil]
  rfl

theorem reads_u16 (value : UInt16) : Reads Decoder.u16 (Encoder.u16 value) value :=
  reads_word value.toNat_lt UInt16.ofNat_toNat

theorem rewrites_u16 : Rewrites Decoder.u16 fun value bytes => Encoder.u16 value = .ok bytes :=
  rewrites_word UInt16.toNat fun _ bound => UInt16.toNat_ofNat_of_lt' bound

theorem reads_u32 (value : UInt32) : Reads Decoder.u32 (Encoder.u32 value) value :=
  reads_word value.toNat_lt UInt32.ofNat_toNat

theorem rewrites_u32 : Rewrites Decoder.u32 fun value bytes => Encoder.u32 value = .ok bytes :=
  rewrites_word UInt32.toNat fun _ bound => UInt32.toNat_ofNat_of_lt' bound

theorem reads_u64 (value : UInt64) : Reads Decoder.u64 (Encoder.u64 value) value :=
  reads_word value.toNat_lt UInt64.ofNat_toNat

theorem rewrites_u64 : Rewrites Decoder.u64 fun value bytes => Encoder.u64 value = .ok bytes :=
  rewrites_word UInt64.toNat fun _ bound => UInt64.toNat_ofNat_of_lt' bound

theorem reads_u128 (value : BitVec 128) : Reads Decoder.u128 (Encoder.u128 value) value :=
  reads_word value.isLt (by simp)

theorem rewrites_u128 :
    Rewrites Decoder.u128 fun value bytes => Encoder.u128 value = .ok bytes :=
  rewrites_word BitVec.toNat fun value bound => by
    have small : value % 2 ^ 128 = value := Nat.mod_eq_of_lt bound
    rw [BitVec.toNat_ofNat, small]

theorem reads_i64 (value : Int64) : Reads Decoder.i64 (Encoder.i64 value) value := by
  have made : (UInt64.ofNat value.toUInt64.toNat).toInt64 = value := by
    rw [UInt64.ofNat_toNat, Int64.toInt64_toUInt64]
  exact reads_word value.toUInt64.toNat_lt made

theorem rewrites_i64 : Rewrites Decoder.i64 fun value bytes => Encoder.i64 value = .ok bytes := by
  have inverse (value : Nat) (bound : value < 256 ^ 8) :
      ((UInt64.ofNat value).toInt64).toUInt64.toNat = value := by
    rw [UInt64.toUInt64_toInt64]
    exact UInt64.toNat_ofNat_of_lt' bound
  exact rewrites_word (fun value : Int64 => value.toUInt64.toNat) inverse

theorem reads_fixed {size : Nat} (value : Block size) :
    Reads Decoder.fixed (Encoder.fixed value) value :=
  Reads.block truncated value

theorem rewrites_fixed {size : Nat} :
    Rewrites (Decoder.fixed : Decoder (Block size)) fun value bytes =>
      Encoder.fixed value = .ok bytes :=
  (Rewrites.block truncated size).mono fun _ _ same => by rw [same, Encoder.fixed]

theorem reads_bool (value : Bool) : Reads Decoder.bool (Encoder.bool value) value := by
  apply Reads.bind_last (reads_u8 _)
  cases value <;> exact Reads.pure _

theorem rewrites_bool :
    Rewrites Decoder.bool fun value bytes => Encoder.bool value = .ok bytes := by
  intro bytes value rest ok
  rcases Get.run_bind_eq_ok_iff.mp ok with ⟨byte, middle, byteOk, restOk⟩
  rcases rewrites_u8 byteOk with ⟨again, rfl, fits⟩
  cases restOk
  exact ⟨_, rfl, fits⟩

theorem reads_checked {α β γ : Type} {message : String} {make : α → Except β γ} {value : α}
    {result : γ} (ok : make value = .ok result) :
    Reads (Decoder.checked message make value) (Put.seq []) result := by
  apply Reads.lift
  rw [ok]
  rfl

/-- What a checked field holds was accepted by the constructor. -/
theorem rewrites_checked {α β γ : Type} {message : String} {make : α → Except β γ} {value : α}
    {written : γ → Bytes → Prop} (holds : ∀ result, make value = .ok result → written result []) :
    Rewrites (Decoder.checked message make value) written := by
  apply Rewrites.lift
  intro result ok
  cases made : make value with
  | error error =>
      rw [made] at ok
      cases ok
  | ok inner =>
      rw [made] at ok
      cases ok
      exact holds _ made

theorem reads_tag {α : Type} {decode : UInt8 → Except SysboostError α} {encode : α → UInt8}
    (inverse : ∀ value, decode (encode value) = .ok value) (value : α) :
    Reads (Decoder.tag decode) (Encoder.u8 (encode value)) value :=
  Reads.bind_last (reads_u8 _) (Reads.lift (inverse value))

/-- A tag is written in the one byte it was read from. -/
theorem rewrites_tag {α : Type} {decode : UInt8 → Except SysboostError α} (encode : α → UInt8) :
    Rewrites (Decoder.tag decode) fun value bytes => bytes = [encode value] := by
  intro bytes value rest ok
  rcases Get.run_bind_eq_ok_iff.mp ok with ⟨byte, middle, byteOk, decodeOk⟩
  rcases rewrites_u8 byteOk with ⟨again, rfl, fits⟩
  have kept : middle = rest := by
    cases decoded : decode byte with
    | error error => simp [Get.lift, decoded, Except.map] at decodeOk
    | ok inner =>
        simp only [Get.lift, decoded, Except.map, Except.ok.injEq, Prod.mk.injEq] at decodeOk
        exact decodeOk.2
  subst middle
  exact ⟨[encode value], rfl, fits⟩

/-! ## Counts, byte strings and text -/

/-- `put_count`: the number of elements of a bounded collection. -/
def putCount (count max : Nat) : Encoder :=
  if count > max || count > 4294967295 then .error (corrupt "state collection exceeds its bound")
  else Put.word 4 count

/-- `Decoder::count`. -/
def Decoder.count (max : Nat) : Decoder Nat := do
  let count ← Get.word truncated 4
  Get.lift (if count > max then .error (corrupt "state collection exceeds its bound")
    else .ok count)

/-- A counted collection. -/
def Encoder.list {α : Type} (max : Nat) (write : α → Encoder) (values : List α) : Encoder :=
  Put.seq [putCount values.length max, Put.each write values]

def Decoder.list {α : Type} (max : Nat) (reader : Decoder α) : Decoder (List α) := do
  let count ← Decoder.count max
  Get.times count reader

/-- `Encoder::bytes`: a length and the bytes. -/
def Encoder.bytes (value : Bytes) : Encoder :=
  if value.length > 4294967295 then
    .error (corrupt "encoded byte field exceeds the u32 bound")
  else Put.seq [Put.word 4 value.length, .ok value]

/-- `Decoder::bytes`. -/
def Decoder.bytes (max : Nat) : Decoder Bytes := do
  let length ← Get.word truncated 4
  Get.lift (if length > max then .error (corrupt "state byte field exceeds its bound")
    else .ok ())
  Get.take truncated length

/-- `Encoder::string`. -/
def Encoder.string (value : String) (max : Nat) : Encoder :=
  if value.isEmpty || value.utf8ByteSize > max || containsNul value then
    .error (corrupt "encoded string is empty, oversized, or contains NUL")
  else Encoder.bytes (utf8 value)

/-- `String::from_utf8`. -/
protected def fromUtf8 (bytes : Bytes) : Except SysboostError String :=
  match String.fromUTF8? ⟨bytes.toArray⟩ with
  | none => .error (corrupt "state string is not UTF-8")
  | some value => .ok value

/-- `Decoder::string`. -/
def Decoder.string (max : Nat) : Decoder String := do
  let bytes ← Decoder.bytes max
  let value ← Get.lift (Core.fromUtf8 bytes)
  Get.lift (if value.isEmpty || containsNul value then
    .error (corrupt "state string is empty or contains NUL") else .ok value)

theorem putCount_eq_ok_iff {count max : Nat} {bytes : Bytes} (fits : max ≤ 4294967295) :
    putCount count max = .ok bytes ↔ count ≤ max ∧ bytes = toBigEndian 4 count := by
  have word : (Put.word 4 count : Encoder) = .ok bytes ↔ bytes = toBigEndian 4 count := by
    simp only [Put.word, Except.ok.injEq, eq_comm]
  unfold putCount
  by_cases bounded : count ≤ max
  · rw [if_neg (by simp only [Bool.or_eq_true, decide_eq_true_eq]; omega), word]
    exact ⟨fun same => ⟨bounded, same⟩, And.right⟩
  · rw [if_pos (by simp only [Bool.or_eq_true, decide_eq_true_eq]; omega)]
    simp [bounded]

theorem reads_count {count max : Nat} (fits : max ≤ 4294967295) :
    Reads (Decoder.count max) (putCount count max) count := by
  intro bytes suffix ok
  rcases (putCount_eq_ok_iff fits).mp ok with ⟨bounded, rfl⟩
  have word : Reads (Decoder.count max) (Put.word 4 count) count := by
    apply Reads.bind_last (Reads.word truncated (by omega))
    exact Reads.lift (if_neg (by omega))
  exact word _ _ rfl

theorem rewrites_count {max : Nat} (fits : max ≤ 4294967295) :
    Rewrites (Decoder.count max) fun count bytes =>
      count ≤ max ∧ putCount count max = .ok bytes := by
  apply Rewrites.bind (Rewrites.word truncated 4)
  rintro count front ⟨-, rfl⟩
  apply Rewrites.lift
  intro value ok
  split at ok
  · cases ok
  · cases ok
    have bounded : count ≤ max := by omega
    exact ⟨bounded, (putCount_eq_ok_iff fits).mpr ⟨bounded, List.append_nil _⟩⟩

theorem reads_list {α : Type} {max : Nat} {write : α → Encoder} {reader : Decoder α}
    {values : List α} (fits : max ≤ 4294967295)
    (each : ∀ value ∈ values, Reads reader (write value) value) :
    Reads (Decoder.list max reader) (Encoder.list max write values) values := by
  apply Reads.bind (reads_count fits)
  exact Reads.last (Reads.times each)

theorem rewrites_list {α : Type} {max : Nat} {write : α → Encoder} {reader : Decoder α}
    {valid : α → Prop} (fits : max ≤ 4294967295)
    (known : Rewrites reader fun value bytes => write value = .ok bytes ∧ valid value) :
    Rewrites (Decoder.list max reader) fun values bytes =>
      Encoder.list max write values = .ok bytes ∧ ∀ value ∈ values, valid value := by
  apply Rewrites.bind (rewrites_count fits)
  rintro count front ⟨-, countOk⟩
  apply (Rewrites.times count known).mono
  rintro values back ⟨rfl, valuesOk, valid⟩
  refine ⟨?_, valid⟩
  exact Put.seq_cons_eq_ok_iff.mpr ⟨front, back, countOk,
    Put.seq_cons_eq_ok_iff.mpr ⟨back, [], valuesOk, rfl, (List.append_nil _).symm⟩, rfl⟩

theorem encoder_bytes_eq_ok {value : Bytes} (bound : value.length ≤ 4294967295) :
    Encoder.bytes value = .ok (toBigEndian 4 value.length ++ value) := by
  have small : ¬ value.length > 4294967295 := by omega
  simp [Encoder.bytes, small, Put.seq, Put.word]

theorem reads_bytes {value : Bytes} {max : Nat} (bounded : value.length ≤ max)
    (fits : max ≤ 4294967295) : Reads (Decoder.bytes max) (Encoder.bytes value) value := by
  intro bytes suffix ok
  rw [encoder_bytes_eq_ok (by omega)] at ok
  have fields : Reads (Decoder.bytes max) (Put.seq [Put.word 4 value.length, .ok value]) value := by
    apply Reads.bind (Reads.word truncated (by omega))
    apply Reads.lift_bind (if_neg (by omega))
    exact Reads.last (Reads.take truncated value)
  apply fields bytes suffix
  rw [← ok]
  simp [Put.seq, Put.word]

theorem rewrites_bytes {max : Nat} (fits : max ≤ 4294967295) :
    Rewrites (Decoder.bytes max) fun value bytes =>
      Encoder.bytes value = .ok bytes ∧ value.length ≤ max := by
  apply Rewrites.bind (Rewrites.word truncated 4)
  rintro length front ⟨-, rfl⟩
  apply Rewrites.lift_bind
  intro _ passed
  have bounded : length ≤ max := by
    by_contra above
    rw [if_pos (by omega)] at passed
    cases passed
  apply (Rewrites.take truncated length).mono
  rintro value back ⟨rfl, rfl⟩
  exact ⟨encoder_bytes_eq_ok (by omega), bounded⟩

theorem fromUtf8_utf8 (value : String) : Core.fromUtf8 (utf8 value) = .ok value := by
  have decoded : String.fromUTF8? ⟨(utf8 value).toArray⟩ = some value := by
    simp only [String.fromUTF8?, utf8, Array.toArray_toList]
    exact dif_pos value.isValidUTF8
  simp only [Core.fromUtf8, decoded]

theorem utf8_of_fromUtf8 {bytes : Bytes} {value : String} (ok : Core.fromUtf8 bytes = .ok value) :
    utf8 value = bytes := by
  unfold Core.fromUtf8 String.fromUTF8? at ok
  split at ok
  · cases ok
  · rename_i some_eq
    split at some_eq
    · cases some_eq
      cases ok
      rfl
    · cases some_eq

theorem encoder_string_of_fieldText {value : String} {max : Nat} (text : FieldText max value) :
    Encoder.string value max = Encoder.bytes (utf8 value) := by
  have bounded : ¬ value.utf8ByteSize > max := by
    have le := text.bounded
    omega
  simp [Encoder.string, text.nonempty, bounded, text.noNul]

theorem fieldText_of_encoder_string {value : String} {max : Nat} {bytes : Bytes}
    (ok : Encoder.string value max = .ok bytes) : FieldText max value := by
  unfold Encoder.string at ok
  split at ok
  · cases ok
  · rename_i accepted
    simp only [Bool.or_eq_true, decide_eq_true_eq, not_or, Bool.not_eq_true] at accepted
    exact ⟨accepted.1.1, by omega, accepted.2⟩

theorem reads_string {value : String} {max : Nat} (fits : max ≤ 4294967295) :
    Reads (Decoder.string max) (Encoder.string value max) value := by
  intro bytes suffix ok
  have text := fieldText_of_encoder_string ok
  rw [encoder_string_of_fieldText text] at ok
  have known : Reads (Decoder.string max) (Encoder.bytes (utf8 value)) value := by
    apply Reads.bind_last (reads_bytes (by rw [utf8_length]; exact text.bounded) fits)
    apply Reads.lift_bind (fromUtf8_utf8 value)
    apply Reads.lift
    simp [text.nonempty, text.noNul]
  exact known bytes suffix ok

theorem rewrites_string {max : Nat} (fits : max ≤ 4294967295) :
    Rewrites (Decoder.string max) fun value bytes =>
      Encoder.string value max = .ok bytes ∧ FieldText max value := by
  apply Rewrites.bind (rewrites_bytes fits)
  rintro front back ⟨frontOk, bounded⟩
  apply Rewrites.lift_bind
  intro value decoded
  apply Rewrites.lift
  intro result accepted
  split at accepted
  · cases accepted
  · rename_i passed
    cases accepted
    have same := utf8_of_fromUtf8 decoded
    have text : FieldText max value := by
      simp only [Bool.or_eq_true, not_or, Bool.not_eq_true] at passed
      exact ⟨passed.1, by rw [← utf8_length, same]; exact bounded, passed.2⟩
    rw [List.append_nil, encoder_string_of_fieldText text, same]
    exact ⟨frontOk, text⟩

end Sysboost.Core
