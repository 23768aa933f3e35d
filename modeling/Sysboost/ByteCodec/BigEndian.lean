import Mathlib.Algebra.GroupWithZero.Nat
import Mathlib.Data.List.Induction

/-!
# Big-endian words and fixed-size byte blocks

A word of `width` bytes is written most significant byte first.  Positional
arithmetic gives both directions of the correspondence between words below
`256 ^ width` and byte lists of length `width`; no word size is enumerated.
-/

namespace ByteCodec

/-- A byte string. -/
abbrev Bytes := List UInt8

/-- The `width` low-order bytes of `value`, most significant first. -/
def toBigEndian : Nat → Nat → Bytes
  | 0, _ => []
  | width + 1, value => toBigEndian width (value / 256) ++ [UInt8.ofNat value]

/-- The number whose base-256 digits are `bytes`, most significant first. -/
def ofBigEndian (bytes : Bytes) : Nat :=
  bytes.foldl (fun high byte => high * 256 + byte.toNat) 0

@[simp]
theorem toBigEndian_length (width value : Nat) :
    (toBigEndian width value).length = width := by
  induction width generalizing value with
  | zero => rfl
  | succ width ih => simp [toBigEndian, ih]

@[simp]
theorem ofBigEndian_append_singleton (bytes : Bytes) (byte : UInt8) :
    ofBigEndian (bytes ++ [byte]) = ofBigEndian bytes * 256 + byte.toNat := by
  simp [ofBigEndian]

/-- A word that fits its width is read back. -/
theorem ofBigEndian_toBigEndian {width value : Nat} (bound : value < 256 ^ width) :
    ofBigEndian (toBigEndian width value) = value := by
  induction width generalizing value with
  | zero =>
      have value_eq : value = 0 := by simpa using bound
      subst value
      rfl
  | succ width ih =>
      have high : value / 256 < 256 ^ width := by
        rw [Nat.div_lt_iff_lt_mul (by decide), ← Nat.pow_succ]
        exact bound
      rw [toBigEndian, ofBigEndian_append_singleton, ih high]
      have digit : (UInt8.ofNat value).toNat = value % 256 := UInt8.toNat_ofNat'
      omega

/-- Every byte list denotes a word of its own width. -/
theorem ofBigEndian_lt (bytes : Bytes) : ofBigEndian bytes < 256 ^ bytes.length := by
  induction bytes using List.reverseRecOn with
  | nil => simp [ofBigEndian]
  | append_singleton bytes byte ih =>
      have digit := byte.toNat_lt
      rw [ofBigEndian_append_singleton, List.length_append, List.length_singleton,
        Nat.pow_succ]
      omega

/-- Writing the word a byte list denotes gives the byte list. -/
theorem toBigEndian_ofBigEndian (bytes : Bytes) :
    toBigEndian bytes.length (ofBigEndian bytes) = bytes := by
  induction bytes using List.reverseRecOn with
  | nil => rfl
  | append_singleton bytes byte ih =>
      have digit := byte.toNat_lt
      have quotient : (ofBigEndian bytes * 256 + byte.toNat) / 256 = ofBigEndian bytes := by
        omega
      have remainder : UInt8.ofNat (ofBigEndian bytes * 256 + byte.toNat) = byte := by
        apply UInt8.toNat_inj.mp
        rw [UInt8.toNat_ofNat']
        omega
      rw [List.length_append, List.length_singleton, toBigEndian,
        ofBigEndian_append_singleton, quotient, remainder, ih]

/-- Words that fit their width are separated by their bytes. -/
theorem toBigEndian_inj {width first second : Nat} (firstBound : first < 256 ^ width)
    (secondBound : second < 256 ^ width)
    (same : toBigEndian width first = toBigEndian width second) : first = second := by
  rw [← ofBigEndian_toBigEndian firstBound, same, ofBigEndian_toBigEndian secondBound]

/-- A field of known width is the word it denotes. -/
theorem field_eq_toBigEndian {bytes : Bytes} {start width value : Nat}
    (inside : start + width ≤ bytes.length)
    (denotes : ofBigEndian ((bytes.drop start).take width) = value) :
    (bytes.drop start).take width = toBigEndian width value := by
  have exact_width : ((bytes.drop start).take width).length = width := by
    rw [List.length_take, List.length_drop]
    omega
  have written := toBigEndian_ofBigEndian ((bytes.drop start).take width)
  rw [exact_width, denotes] at written
  exact written.symm

/-- An array of exactly `size` bytes. -/
structure Block (size : Nat) where
  bytes : Bytes
  length_eq : bytes.length = size
deriving DecidableEq

/-- Two words, one after the other. -/
def Block.words (first second : UInt64) : Block 16 :=
  ⟨toBigEndian 8 first.toNat ++ toBigEndian 8 second.toNat, by
    simp only [List.length_append, toBigEndian_length]⟩

/-- The block whose bytes are all `byte`. -/
def Block.fill (size : Nat) (byte : UInt8) : Block size :=
  ⟨List.replicate size byte, List.length_replicate⟩

end ByteCodec
