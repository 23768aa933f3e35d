import Mathlib.Tactic.IntervalCases
import Sysboost.Core.Ids

/-!
# Session IDs as text

A session ID is written with lowercase hexadecimal digits, two for each byte,
and read back from digits of either case.
-/

namespace Sysboost.Core

open ByteCodec

/-- `const HEX`. -/
def hexDigits : Bytes :=
  utf8 "0123456789abcdef"

/-- The digits of one byte, the high one first. -/
def hexPair (byte : UInt8) : Bytes :=
  [hexDigits.getD (byte >>> 4).toNat 0, hexDigits.getD (byte &&& 0x0f).toNat 0]

def encodeHex (bytes : Bytes) : Bytes :=
  bytes.flatMap hexPair

def hexValue (byte : UInt8) : Option UInt8 :=
  if 48 ≤ byte ∧ byte ≤ 57 then some (byte - 48)
  else if 97 ≤ byte ∧ byte ≤ 102 then some (byte - 97 + 10)
  else if 65 ≤ byte ∧ byte ≤ 70 then some (byte - 65 + 10)
  else none

/-- The loop of `decode_hex`; a digit without a partner is refused. -/
def decodeHexPairs : Bytes → Option Bytes
  | [] => some []
  | [_] => none
  | high :: low :: rest => do
      let high ← hexValue high
      let low ← hexValue low
      let bytes ← decodeHexPairs rest
      return ((high <<< 4) ||| low) :: bytes

def decodeHex (value : Bytes) : Option (Block 16) := do
  let bytes ← decodeHexPairs value
  if length_eq : bytes.length = 16 then return ⟨bytes, length_eq⟩ else none

namespace SessionId

/-- Render the ID as lowercase hexadecimal for logs and filenames. -/
def toHex (sessionId : SessionId) : Bytes :=
  encodeHex sessionId.bytes.bytes

/-- `SessionId::from_str`. -/
def fromStr (value : Bytes) : Except IdentifierError SessionId :=
  match decodeHex value with
  | some bytes => .ok ⟨bytes⟩
  | none => .error ⟨"SessionId", "must be 32 hexadecimal characters"⟩

end SessionId

/-! ## Reading back -/

/-- A digit denotes its place among the digits, and is a digit or a letter. -/
theorem hexDigits_spec : ∀ value < 16,
    hexValue (hexDigits.getD value 0) = some (UInt8.ofNat value) ∧
      48 ≤ hexDigits.getD value 0 ∧ hexDigits.getD value 0 < 128 := by
  decide

theorem high_half_lt (byte : UInt8) : (byte >>> 4).toNat < 16 := by
  have := byte.toNat_lt
  simp only [UInt8.toNat_shiftRight, Nat.shiftRight_eq_div_pow, UInt8.reduceToNat, Nat.reduceMod,
    Nat.reducePow]
  omega

theorem low_half_lt (byte : UInt8) : (byte &&& 0x0f).toNat < 16 := by
  rw [UInt8.toNat_and]
  exact Nat.lt_succ_of_le Nat.and_le_right

theorem join_halves (byte : UInt8) : (byte >>> 4) <<< 4 ||| byte &&& 0x0f = byte := by
  apply UInt8.toBitVec_inj.mp
  ext place bound
  simp only [UInt8.toBitVec_or, UInt8.toBitVec_shiftLeft, UInt8.toBitVec_shiftRight,
    UInt8.toBitVec_and]
  interval_cases place <;> simp

/-- The digits of a byte denote it; none of them is a dot. -/
theorem hexPair_spec (byte : UInt8) : ∃ high low, hexPair byte = [high, low] ∧
    (∃ first second, hexValue high = some first ∧ hexValue low = some second ∧
      (first <<< 4) ||| second = byte) ∧
    (high ≠ 46 ∧ high < 128) ∧ low ≠ 46 ∧ low < 128 := by
  obtain ⟨first, above, below⟩ := hexDigits_spec _ (high_half_lt byte)
  obtain ⟨second, above', below'⟩ := hexDigits_spec _ (low_half_lt byte)
  rw [UInt8.ofNat_toNat] at first second
  refine ⟨_, _, rfl, ⟨_, _, first, second, join_halves byte⟩, ⟨?_, below⟩, ?_, below'⟩
  · rintro same
    exact absurd above (same ▸ by decide)
  · rintro same
    exact absurd above' (same ▸ by decide)

/-- A hexadecimal digit is a digit or a letter. -/
theorem range_of_mem_encodeHex {bytes : Bytes} {digit : UInt8} (member : digit ∈ encodeHex bytes) :
    48 ≤ digit ∧ digit < 128 := by
  obtain ⟨byte, -, own⟩ := List.mem_flatMap.mp member
  simp only [hexPair, List.mem_cons, List.not_mem_nil, or_false] at own
  rcases own with rfl | rfl
  · exact (hexDigits_spec _ (high_half_lt byte)).2
  · exact (hexDigits_spec _ (low_half_lt byte)).2

theorem encodeHex_length (bytes : Bytes) : (encodeHex bytes).length = 2 * bytes.length := by
  induction bytes with
  | nil => rfl
  | cons byte rest ih =>
      rw [encodeHex] at ih
      simp only [encodeHex, List.flatMap_cons, List.length_append, ih, hexPair, List.length_cons,
        List.length_nil]
      omega

theorem decodeHexPairs_encodeHex (bytes : Bytes) :
    decodeHexPairs (encodeHex bytes) = some bytes := by
  induction bytes with
  | nil => rfl
  | cons byte rest ih =>
      obtain ⟨high, low, digits, ⟨first, second, firstOk, secondOk, whole⟩, -⟩ := hexPair_spec byte
      simp only [encodeHex, List.flatMap_cons, digits, List.cons_append, List.nil_append]
      rw [encodeHex] at ih
      simp [decodeHexPairs, firstOk, secondOk, ih, whole]

/-- The digits of an ID are ASCII and contain no dot. -/
theorem digit_of_mem_toHex {sessionId : SessionId} {digit : UInt8}
    (member : digit ∈ sessionId.toHex) : digit ≠ 46 ∧ digit < 128 := by
  obtain ⟨byte, -, own⟩ := List.mem_flatMap.mp member
  obtain ⟨high, low, digits, -, highOk, lowOk⟩ := hexPair_spec byte
  rw [digits] at own
  rcases List.mem_cons.mp own with rfl | own
  · exact highOk
  · rcases List.mem_singleton.mp own with rfl
    exact lowOk

/-- A session ID is read back from its text. -/
@[simp]
theorem SessionId.fromStr_toHex (sessionId : SessionId) :
    SessionId.fromStr sessionId.toHex = .ok sessionId := by
  have decoded : decodeHex sessionId.toHex = some sessionId.bytes := by
    simp only [decodeHex, toHex, decodeHexPairs_encodeHex, Option.bind_eq_bind, Option.bind_some]
    exact dif_pos sessionId.bytes.length_eq
  simp only [fromStr, decoded]

theorem SessionId.toHex_injective : Function.Injective SessionId.toHex := by
  intro first second same
  have read := SessionId.fromStr_toHex first
  rw [same, SessionId.fromStr_toHex] at read
  exact (Except.ok.inj read).symm

end Sysboost.Core
