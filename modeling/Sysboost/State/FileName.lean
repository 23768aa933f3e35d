import Sysboost.ByteCodec.Text
import Sysboost.Core.Hex

/-!
# The names of state files

A session's record has the hexadecimal session ID and `.state` for its name.  A
temporary file adds who made it and when, behind a leading dot; the lock file
is the only other object the state root may hold.
-/

namespace Sysboost.State

open Sysboost.Core ByteCodec

/-- The name of the lock file. -/
def lockName : Bytes := utf8 ".mutating.lock"

/-- `".state"`. -/
def stateSuffix : Bytes := utf8 ".state"

/-- `".state.tmp."`. -/
def temporaryMark : Bytes := utf8 ".state.tmp."

/-- The file name of `state_path`. -/
def stateName (sessionId : SessionId) : Bytes :=
  sessionId.toHex ++ stateSuffix

/-- The file name of `temporary_path`. -/
def temporaryName (sessionId : SessionId) (pid : UInt32) (tick : BitVec 128) : Bytes :=
  46 :: (sessionId.toHex ++ (temporaryMark ++ (decimal pid.toNat ++ 46 :: decimal tick.toNat)))

def isValidTemporaryName (name : Bytes) : Bool :=
  match name with
  | 46 :: name =>
      match splitOnce temporaryMark name with
      | some (sessionHex, suffix) =>
          match splitOnce [46] suffix with
          | some (pid, tick) =>
              (SessionId.fromStr sessionHex).toBool &&
                (parseUnsigned (2 ^ 32) pid).any (· ≠ 0) &&
                (parseUnsigned (2 ^ 128) tick).isSome
          | none => false
      | none => false
  | _ => false

/-! ## What the names look like -/

variable (sessionId : SessionId) (pid : UInt32) (tick : BitVec 128)

theorem dot_not_mem_toHex : 46 ∉ sessionId.toHex :=
  fun member => (digit_of_mem_toHex member).1 rfl

theorem dot_not_mem_decimal (value : Nat) : 46 ∉ decimal value := by
  intro member
  exact absurd (isAsciiDigit_of_mem_decimal member) (by decide)

theorem toHex_ne_nil : sessionId.toHex ≠ [] := by
  intro empty
  have read := SessionId.fromStr_toHex sessionId
  rw [empty] at read
  exact absurd read (by simp [SessionId.fromStr, decodeHex, decodeHexPairs])

theorem ascii_of_mem_decimal {value : Nat} {byte : UInt8} (member : byte ∈ decimal value) :
    byte < 128 := by
  have digit := isAsciiDigit_of_mem_decimal member
  simp only [isAsciiDigit, Bool.and_eq_true, decide_eq_true_eq] at digit
  exact UInt8.lt_of_le_of_lt digit.2 (by decide)

theorem isUtf8_lockName : isUtf8 lockName = true :=
  isUtf8_of_ascii (forall_mem_of_all (by decide))

theorem isUtf8_stateName : isUtf8 (stateName sessionId) = true := by
  refine isUtf8_of_ascii fun byte member => ?_
  rcases List.mem_append.mp member with hex | suffix
  · exact (digit_of_mem_toHex hex).2
  · have small : ∀ byte ∈ stateSuffix, byte < 128 := forall_mem_of_all (by decide)
    exact small byte suffix

theorem isUtf8_temporaryName : isUtf8 (temporaryName sessionId pid tick) = true := by
  refine isUtf8_of_ascii fun byte member => ?_
  simp only [temporaryName, List.mem_append, List.mem_cons] at member
  rcases member with rfl | hex | mark | number | rfl | number
  · decide
  · exact (digit_of_mem_toHex hex).2
  · have small : ∀ byte ∈ temporaryMark, byte < 128 := forall_mem_of_all (by decide)
    exact small byte mark
  · exact ascii_of_mem_decimal number
  · decide
  · exact ascii_of_mem_decimal number

/-- The name of a state file starts with a digit. -/
theorem stateName_head : ∃ digit rest, stateName sessionId = digit :: rest ∧ digit ≠ 46 := by
  obtain ⟨digit, rest, digits⟩ := List.exists_cons_of_ne_nil (toHex_ne_nil sessionId)
  refine ⟨digit, rest ++ stateSuffix, by rw [stateName, digits, List.cons_append], ?_⟩
  exact (digit_of_mem_toHex (by rw [digits]; exact List.mem_cons_self)).1

theorem stateName_ne_lockName : stateName sessionId ≠ lockName := by
  obtain ⟨digit, rest, name, different⟩ := stateName_head sessionId
  rw [name]
  intro same
  exact different (List.cons.inj same).1

theorem stateName_ne_temporaryName (other : SessionId) :
    stateName sessionId ≠ temporaryName other pid tick := by
  obtain ⟨digit, rest, name, different⟩ := stateName_head sessionId
  rw [name]
  intro same
  exact different (List.cons.inj same).1

theorem stateName_injective : Function.Injective stateName := by
  intro first second same
  exact SessionId.toHex_injective (List.append_cancel_right same)

/-- The digits of a state file's name are what is left without the suffix. -/
@[simp]
theorem trimEndMatches_stateName :
    trimEndMatches stateSuffix (stateName sessionId) = sessionId.toHex := by
  apply trimEndMatches_append (by decide)
  intro ends
  exact dot_not_mem_toHex sessionId (ends.subset (by decide))

/-- The first mark in a temporary name is where the session ID ends. -/
theorem splitOnce_temporaryName :
    splitOnce temporaryMark (sessionId.toHex ++ (temporaryMark ++ (decimal pid.toNat ++
      46 :: decimal tick.toNat))) =
      some (sessionId.toHex, decimal pid.toNat ++ 46 :: decimal tick.toNat) :=
  splitOnce_append (decimal pid.toNat ++ 46 :: decimal tick.toNat) (dot_not_mem_toHex sessionId)

/-- The temporary files of a process are recognised. -/
theorem isValidTemporaryName_temporaryName (nonzero : pid ≠ 0) :
    isValidTemporaryName (temporaryName sessionId pid tick) = true := by
  have number : parseUnsigned (2 ^ 32) (decimal pid.toNat) = some pid.toNat :=
    parseUnsigned_decimal pid.toNat_lt
  have time : parseUnsigned (2 ^ 128) (decimal tick.toNat) = some tick.toNat :=
    parseUnsigned_decimal tick.isLt
  have split : splitOnce [46] (decimal pid.toNat ++ 46 :: decimal tick.toNat) =
      some (decimal pid.toNat, decimal tick.toNat) :=
    splitOnce_append (decimal tick.toNat) (dot_not_mem_decimal pid.toNat)
  have positive : pid.toNat ≠ 0 := fun zero => nonzero (UInt32.toNat_inj.mp zero)
  simp only [isValidTemporaryName, temporaryName, splitOnce_temporaryName, split, number, time,
    SessionId.fromStr_toHex]
  simp [Except.toBool, positive]

theorem temporaryMark_infix_temporaryName :
    temporaryMark <:+: temporaryName sessionId pid tick :=
  ⟨46 :: sessionId.toHex, decimal pid.toNat ++ 46 :: decimal tick.toNat, by
    simp [temporaryName]⟩

end Sysboost.State
