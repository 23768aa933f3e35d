import Sysboost.ByteCodec.Unicode
import Sysboost.Core.Error
import Sysboost.Core.Hex

/-!
# Process identities

A PID is only a locator; the identity of a process also has the start time of
the process and the identity of the boot.
-/

namespace Sysboost.Platform

open Sysboost.Core ByteCodec

/-- Stable process identity of a peer. -/
structure ProcessIdentity where
  pid : UInt32
  generation : UInt64
  bootId : Block 16
deriving DecidableEq

namespace ProcessIdentity

/-- What every identity from platform evidence has. -/
structure Strong (identity : ProcessIdentity) : Prop where
  pid : identity.pid ≠ 0
  generation : identity.generation ≠ 0
  bootId : identity.bootId ≠ .fill 16 0

def withBootId (pid : UInt32) (generation : UInt64) (bootId : Block 16) :
    Except SysboostError ProcessIdentity :=
  if pid = 0 then .error (.new .invalidInput "process ID must be non-zero")
  else if generation = 0 ∨ bootId = .fill 16 0 then
    .error (.new .invalidInput
      "process identity requires a non-zero start and boot identity")
  else .ok ⟨pid, generation, bootId⟩

theorem withBootId_eq_ok_iff {pid : UInt32} {generation : UInt64} {bootId : Block 16}
    {identity : ProcessIdentity} :
    withBootId pid generation bootId = .ok identity ↔
      identity = ⟨pid, generation, bootId⟩ ∧ identity.Strong := by
  unfold withBootId
  constructor
  · intro ok
    split at ok
    · cases ok
    · split at ok
      · cases ok
      · cases ok
        rename_i positive weak
        exact ⟨rfl, positive, fun none => weak (.inl none), fun none => weak (.inr none)⟩
  · rintro ⟨rfl, positive, started, booted⟩
    rw [if_neg positive, if_neg (not_or.mpr ⟨started, booted⟩)]

/-- Whether two identities refer to the same process generation. -/
def sameGeneration (peer other : ProcessIdentity) : Bool :=
  peer.pid == other.pid && peer.generation != 0 && peer.generation == other.generation &&
    peer.bootId != .fill 16 0 && peer.bootId == other.bootId

/-- A generation determines the whole identity. -/
theorem eq_of_sameGeneration {peer other : ProcessIdentity}
    (same : peer.sameGeneration other = true) : peer = other := by
  obtain ⟨pid, generation, bootId⟩ := peer
  obtain ⟨pid', generation', bootId'⟩ := other
  simp only [sameGeneration, Bool.and_eq_true, beq_iff_eq] at same
  obtain ⟨⟨⟨⟨rfl, -⟩, rfl⟩, -⟩, rfl⟩ := same
  rfl

end ProcessIdentity

/-- `parse_start_time`: the comm field may hold spaces and parentheses. -/
def startTimeOf (stat : String) : Option UInt64 := do
  let value ← (splitWhitespace (← afterLast ')' stat))[19]?.bind (parseNumber (2 ^ 64))
  if value = 0 then none else return UInt64.ofNat value

theorem startTimeOf_ne_zero {stat : String} {generation : UInt64}
    (started : startTimeOf stat = some generation) : generation ≠ 0 := by
  simp only [startTimeOf, Option.bind_eq_bind, Option.bind_eq_some_iff] at started
  obtain ⟨_, -, value, ⟨_, -, number⟩, started⟩ := started
  split at started
  · cases started
  · cases started
    rename_i positive
    intro zero
    have below := parseUnsigned_lt number
    have read := congrArg UInt64.toNat zero
    rw [UInt64.toNat_ofNat_of_lt' below] at read
    exact positive read

/-- `read_boot_id` after the read. -/
def parseBootId (text : String) : Except SysboostError (Block 16) :=
  let value := (toUtf8 (trim text)).filter (· != 45)
  if value.length ≠ 32 then
    .error (.new .journalCorrupt "boot identity metadata has an invalid length")
  else match decodeHex value with
    | none => .error (.new .journalCorrupt "boot identity metadata is not hexadecimal")
    | some bootId =>
        if bootId = .fill 16 0 then
          .error (.new .journalCorrupt "boot identity metadata is zero")
        else .ok bootId

theorem parseBootId_ne_zero {text : String} {bootId : Block 16}
    (read : parseBootId text = .ok bootId) : bootId ≠ .fill 16 0 := by
  dsimp only [parseBootId] at read
  split at read
  · cases read
  · split at read
    · cases read
    · split at read
      · cases read
      · cases read
        assumption

end Sysboost.Platform
