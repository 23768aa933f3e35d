import Sysboost.ByteCodec.Mixing
import Mathlib.Data.List.Basic

/-!
# The journal checksum

Four 64-bit lanes are mixed in turn: exclusive or with the byte, a wrapping
multiplication, and a rotation by a position-dependent count.  Each of these
is invertible, so a lane never forgets a difference.
-/

namespace Sysboost.Core

open ByteCodec

/-- The state of the checksum. -/
abbrev Lanes := Vector UInt64 4

def initialLanes : Lanes :=
  #v[0xcbf29ce484222325, 0x84222325cbf29ce4, 0x9e3779b185ebca87, 0x517cc1b727220a95]

/-- One lane after it took in the byte at `index`. -/
def mixLane (index : Nat) (lane : UInt64) (byte : UInt8) : UInt64 :=
  rotateLeft ((lane ^^^ byte.toUInt64) * 0x100000001b3) (index % 63 + 1)

/-- The loop body of `checksum`. -/
def mixByte (index : Nat) (lanes : Lanes) (byte : UInt8) : Lanes :=
  have bound := mod_four_lt index
  lanes.set (index % 4) (mixLane index lanes[index % 4] byte)

/-- The lanes, each in big-endian order. -/
def laneBytes (lanes : Lanes) : Bytes :=
  (lanes.toList.map UInt64.toNat).flatMap (toBigEndian 8)

/-- The integrity checksum of a payload, 32 bytes long. -/
def checksum (bytes : Bytes) : Bytes :=
  laneBytes (foldBytes mixByte 0 initialLanes bytes)

theorem mixLane_lane_injective (index : Nat) (byte : UInt8) :
    Function.Injective fun lane => mixLane index lane byte := by
  intro first second same
  have mixed := mul_injective_of_inverse (by decide : (0x100000001b3 : UInt64) *
    0xce965057aff6957b = 1) (rotateLeft_injective _ same)
  have cancelled := congrArg (fun word => word ^^^ byte.toUInt64) mixed
  simpa [UInt64.xor_assoc] using cancelled

theorem mixLane_byte_injective (index : Nat) (lane : UInt64) :
    Function.Injective (mixLane index lane) := by
  intro first second same
  have mixed := mul_injective_of_inverse (by decide : (0x100000001b3 : UInt64) *
    0xce965057aff6957b = 1) (rotateLeft_injective _ same)
  have cancelled := congrArg (fun word => lane ^^^ word) mixed
  simp only [← UInt64.xor_assoc, UInt64.xor_self, UInt64.zero_xor] at cancelled
  simpa using congrArg UInt64.toUInt8 cancelled

theorem mixByte_state_injective (index : Nat) (byte : UInt8) :
    Function.Injective fun lanes => mixByte index lanes byte := by
  intro first second same
  have bound := mod_four_lt index
  apply Vector.ext
  intro lane laneBound
  have here := congrArg (fun lanes : Lanes => lanes[lane]) same
  by_cases mixed : index % 4 = lane
  · subst lane
    simp only [mixByte, Vector.getElem_set_self] at here
    exact mixLane_lane_injective index byte here
  · simpa [mixByte, Vector.getElem_set, mixed] using here

theorem mixByte_byte_injective (index : Nat) (lanes : Lanes) :
    Function.Injective (mixByte index lanes) := by
  intro first second same
  have bound := mod_four_lt index
  have here := congrArg (fun lanes : Lanes => lanes[index % 4]) same
  simp only [mixByte, Vector.getElem_set_self] at here
  exact mixLane_byte_injective index _ here

theorem laneBytes_injective : Function.Injective laneBytes := by
  intro first second same
  have bounded (lanes : Lanes) : ∀ word ∈ lanes.toList.map UInt64.toNat, word < 256 ^ 8 := by
    intro word member
    rcases List.mem_map.mp member with ⟨lane, -, rfl⟩
    exact lane.toNat_lt
  have words := flatMap_toBigEndian_inj (by simp) (bounded first) (bounded second) same
  have lanes := List.map_injective_iff.mpr (fun _ _ => UInt64.toNat_inj.mp) words
  exact Vector.toList_inj.mp lanes

theorem checksum_length (bytes : Bytes) : (checksum bytes).length = 32 := by
  have widths (words : List Nat) : (words.flatMap (toBigEndian 8)).length = 8 * words.length := by
    induction words with
    | nil => rfl
    | cons word words ih =>
        rw [List.flatMap_cons, List.length_append, ih, toBigEndian_length, List.length_cons]
        omega
  rw [checksum, laneBytes, widths, List.length_map, Vector.length_toList]

/-- The checksum separates payloads that differ in one byte. -/
theorem checksum_ne_of_oneByteApart {first second : Bytes} (apart : OneByteApart first second) :
    checksum first ≠ checksum second := by
  intro same
  exact foldBytes_ne_of_oneByteApart mixByte_state_injective mixByte_byte_injective apart 0
    initialLanes (laneBytes_injective same)

end Sysboost.Core
