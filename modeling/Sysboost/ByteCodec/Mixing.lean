import Sysboost.ByteCodec.BigEndian

/-!
# Folds that lose no single-byte difference

A checksum that folds a step over the bytes separates two strings that differ
in one byte when the step is injective in the byte and, for the remaining
bytes, injective in the state.  Framing a string between a header and a
trailer keeps the difference in exactly one of the three parts.
-/

namespace ByteCodec

/-- The two strings differ in exactly one byte. -/
def OneByteApart (first second : Bytes) : Prop :=
  ∃ front old new back, old ≠ new ∧ first = front ++ old :: back ∧ second = front ++ new :: back

namespace OneByteApart

theorem length_eq {first second : Bytes} (apart : OneByteApart first second) :
    first.length = second.length := by
  rcases apart with ⟨front, old, new, back, -, rfl, rfl⟩
  simp

theorem ne {first second : Bytes} (apart : OneByteApart first second) : first ≠ second := by
  rcases apart with ⟨front, old, new, back, differ, rfl, rfl⟩
  intro same
  have tail := List.append_cancel_left same
  exact differ (List.cons.inj tail).1

/-- Splitting both strings at the same place leaves the difference in one part. -/
theorem split_append {first second first' second' : Bytes}
    (apart : OneByteApart (first ++ second) (first' ++ second'))
    (aligned : first.length = first'.length) :
    OneByteApart first first' ∧ second = second' ∨
      first = first' ∧ OneByteApart second second' := by
  rcases apart with ⟨front, old, new, back, differ, left, right⟩
  rcases List.append_eq_append_iff.mp left with
    ⟨more, front_eq, second_eq⟩ | ⟨more, first_eq, rest_eq⟩
  · -- The difference lies behind `first`.
    right
    subst front
    rw [List.append_assoc] at right
    rcases List.append_inj right aligned.symm with ⟨rfl, rfl⟩
    exact ⟨rfl, more, old, new, back, differ, second_eq, rfl⟩
  · cases more with
    | nil =>
        right
        rw [List.append_nil] at first_eq
        subst first
        rcases List.append_inj right aligned.symm with ⟨rfl, rfl⟩
        exact ⟨rfl, [], old, new, back, differ, rest_eq.symm, rfl⟩
    | cons head more =>
        left
        rcases List.cons.inj rest_eq with ⟨rfl, rfl⟩
        subst first
        have regrouped : first' ++ second' = (front ++ new :: more) ++ second :=
          right.trans (List.append_assoc front (new :: more) second).symm
        have same_length : first'.length = (front ++ new :: more).length := by
          rw [← aligned]
          simp
        rcases List.append_inj regrouped same_length with ⟨rfl, rfl⟩
        exact ⟨⟨front, _, new, more, differ, rfl, rfl⟩, rfl⟩

end OneByteApart

section Fold

universe u

variable {σ : Type u} (step : Nat → σ → UInt8 → σ)

/-- Fold a step that knows the position of its byte; `index` is the position
of the first one. -/
def foldBytes : Nat → σ → Bytes → σ
  | _, state, [] => state
  | index, state, byte :: bytes => foldBytes (index + 1) (step index state byte) bytes

theorem foldBytes_append (index : Nat) (state : σ) (front back : Bytes) :
    foldBytes step index state (front ++ back) =
      foldBytes step (index + front.length) (foldBytes step index state front) back := by
  induction front generalizing index state with
  | nil => rfl
  | cons byte front ih =>
      simp only [List.cons_append, foldBytes, List.length_cons]
      rw [ih, Nat.add_assoc, Nat.add_comm 1]

variable {step}

/-- Injectivity in the state is kept by every further byte. -/
theorem foldBytes_state_inj
    (stateInj : ∀ index byte, Function.Injective fun state => step index state byte)
    {index : Nat} {first second : σ} {bytes : Bytes}
    (same : foldBytes step index first bytes = foldBytes step index second bytes) :
    first = second := by
  induction bytes generalizing index first second with
  | nil => exact same
  | cons byte bytes ih => exact stateInj index byte (ih same)

/-- A single-byte difference is never lost. -/
theorem foldBytes_ne_of_oneByteApart
    (stateInj : ∀ index byte, Function.Injective fun state => step index state byte)
    (byteInj : ∀ index state, Function.Injective (step index state))
    {first second : Bytes} (apart : OneByteApart first second) (index : Nat) (state : σ) :
    foldBytes step index state first ≠ foldBytes step index state second := by
  rcases apart with ⟨front, old, new, back, differ, rfl, rfl⟩
  rw [foldBytes_append, foldBytes_append]
  intro same
  exact differ (byteInj _ _ (foldBytes_state_inj stateInj same))

end Fold

/-- The lane of a position. -/
theorem mod_four_lt (index : Nat) : index % 4 < 4 :=
  Nat.mod_lt index (by decide)

/-! ## Invertible word operations -/

/-- `u64::rotate_left`. -/
def rotateLeft (word : UInt64) (count : Nat) : UInt64 :=
  ⟨word.toBitVec.rotateLeft count⟩

theorem rotateLeft_injective (count : Nat) :
    Function.Injective fun word => rotateLeft word count := by
  intro first second same
  have same_bits : first.toBitVec.rotateLeft count = second.toBitVec.rotateLeft count :=
    congrArg UInt64.toBitVec same
  apply UInt64.toBitVec_inj.mp
  apply BitVec.eq_of_getLsbD_eq
  intro bit bound
  have moved := Nat.mod_lt count (show 64 > 0 by decide)
  by_cases low : bit < 64 - count % 64
  · have here := congrArg (fun word => word.getLsbD (bit + count % 64)) same_bits
    simp only [BitVec.getLsbD_rotateLeft] at here
    have kept : ¬ bit + count % 64 < count % 64 := by omega
    have inside : bit + count % 64 < 64 := by omega
    simpa [kept, inside] using here
  · have here := congrArg (fun word => word.getLsbD (bit - (64 - count % 64))) same_bits
    simp only [BitVec.getLsbD_rotateLeft] at here
    have wrapped : bit - (64 - count % 64) < count % 64 := by omega
    have position : 64 - count % 64 + (bit - (64 - count % 64)) = bit := by omega
    simpa [wrapped, position] using here

/-- Multiplication by an invertible word is injective. -/
theorem mul_injective_of_inverse {factor inverse : UInt64} (unit : factor * inverse = 1) :
    Function.Injective fun word : UInt64 => word * factor := by
  intro first second same
  have undone : first * factor * inverse = second * factor * inverse :=
    congrArg (· * inverse) same
  rw [UInt64.mul_assoc, UInt64.mul_assoc, unit, UInt64.mul_one, UInt64.mul_one] at undone
  exact undone

/-- Rotation moves every bit by the count. -/
theorem getLsbD_rotateLeft_mod (word : BitVec 64) (count position : Nat) :
    (word.rotateLeft count).getLsbD ((position + count) % 64) = word.getLsbD (position % 64) := by
  rw [BitVec.getLsbD_rotateLeft]
  by_cases wrapped : (position + count) % 64 < count % 64
  · have source : 64 - count % 64 + (position + count) % 64 = position % 64 := by omega
    rw [decide_eq_true wrapped, cond_true, source]
  · have source : (position + count) % 64 - count % 64 = position % 64 := by omega
    have inside : (position + count) % 64 < 64 := Nat.mod_lt _ (by decide)
    rw [decide_eq_false wrapped, cond_false, decide_eq_true inside, Bool.true_and, source]

theorem rotateLeft_xor (first second : UInt64) (count : Nat) :
    rotateLeft (first ^^^ second) count = rotateLeft first count ^^^ rotateLeft second count := by
  apply UInt64.toBitVec_inj.mp
  apply BitVec.eq_of_getLsbD_eq
  intro bit bound
  simp only [rotateLeft, UInt64.toBitVec_xor, BitVec.getLsbD_rotateLeft, BitVec.getLsbD_xor]
  by_cases wrapped : bit < count % 64 <;> simp [wrapped, bound]

@[simp]
theorem rotateLeft_zero (count : Nat) : rotateLeft 0 count = 0 := by
  apply UInt64.toBitVec_inj.mp
  apply BitVec.eq_of_getLsbD_eq
  intro bit _
  simp [rotateLeft, BitVec.getLsbD_rotateLeft]

theorem toBitVec_neg_one : (-1 : UInt64).toBitVec = BitVec.allOnes 64 := by decide

@[simp]
theorem rotateLeft_neg_one (count : Nat) : rotateLeft (-1) count = -1 := by
  apply UInt64.toBitVec_inj.mp
  apply BitVec.eq_of_getLsbD_eq
  intro bit bound
  have moved := Nat.mod_lt count (show 64 > 0 by decide)
  rw [rotateLeft, toBitVec_neg_one, BitVec.getLsbD_rotateLeft]
  simp only [BitVec.getLsbD_allOnes]
  by_cases wrapped : bit < count % 64
  · have inside : 64 - count % 64 + bit < 64 := by omega
    simp only [wrapped, inside, bound, decide_true, cond_true]
  · have inside : bit - count % 64 < 64 := by omega
    simp only [wrapped, inside, bound, decide_true, decide_false, cond_false, Bool.and_self]

/-- A rotation whose count is a unit modulo 64 brings every bit to every place,
so it keeps only the word without bits and the word of all bits. -/
theorem rotateLeft_eq_self_iff {word : UInt64} {count inverse : Nat}
    (unit : count * inverse % 64 = 1) :
    rotateLeft word count = word ↔ word = 0 ∨ word = -1 := by
  constructor
  · intro same
    have bits : word.toBitVec.rotateLeft count = word.toBitVec := congrArg UInt64.toBitVec same
    have step (position : Nat) : word.toBitVec.getLsbD ((position + count) % 64) =
        word.toBitVec.getLsbD (position % 64) := by
      rw [← getLsbD_rotateLeft_mod word.toBitVec count position, bits]
    have along (times : Nat) :
        word.toBitVec.getLsbD (count * times % 64) = word.toBitVec.getLsbD 0 := by
      induction times with
      | zero => rfl
      | succ times ih => rw [Nat.mul_succ, step, ih]
    have uniform (bit : Nat) (bound : bit < 64) :
        word.toBitVec.getLsbD bit = word.toBitVec.getLsbD 0 := by
      rw [← along (inverse * bit), ← Nat.mul_assoc, Nat.mul_mod, unit, Nat.one_mul, Nat.mod_mod,
        Nat.mod_eq_of_lt bound]
    cases lowest : word.toBitVec.getLsbD 0 with
    | false =>
        left
        apply UInt64.toBitVec_inj.mp
        apply BitVec.eq_of_getLsbD_eq
        intro bit bound
        rw [uniform bit bound, lowest]
        simp
    | true =>
        right
        apply UInt64.toBitVec_inj.mp
        apply BitVec.eq_of_getLsbD_eq
        intro bit bound
        rw [uniform bit bound, lowest, toBitVec_neg_one, BitVec.getLsbD_allOnes,
          decide_eq_true bound]
  · rintro (rfl | rfl)
    · exact rotateLeft_zero count
    · exact rotateLeft_neg_one count

/-- Two words differ in every bit just when they sum up to the word of all
bits. -/
theorem xor_eq_neg_one_iff {first second : UInt64} :
    first ^^^ second = -1 ↔ first + second = -1 := by
  have complement : first ^^^ -1 = -1 - first := by
    rw [UInt64.xor_neg_one, UInt64.not_eq_neg_sub]
    grind
  constructor
  · intro differ
    have other : second = first ^^^ -1 := by
      rw [← differ, ← UInt64.xor_assoc, UInt64.xor_self, UInt64.zero_xor]
    rw [other, complement]
    grind
  · intro sum
    have other : second = first ^^^ -1 := by
      rw [complement, ← sum]
      grind
    rw [other, ← UInt64.xor_assoc, UInt64.xor_self, UInt64.zero_xor]

/-- Exclusive or with the own rotation takes a word and its complement to the
same word. -/
theorem xor_rotateLeft_eq_iff {first second : UInt64} {count inverse : Nat}
    (unit : count * inverse % 64 = 1) :
    first ^^^ rotateLeft first count = second ^^^ rotateLeft second count ↔
      first = second ∨ first + second = -1 := by
  rw [← xor_eq_neg_one_iff, ← UInt64.xor_eq_zero_iff (a := first) (b := second),
    ← rotateLeft_eq_self_iff unit, rotateLeft_xor]
  constructor
  · intro same
    have own : rotateLeft first count = first ^^^ (second ^^^ rotateLeft second count) := by
      rw [← same, ← UInt64.xor_assoc, UInt64.xor_self, UInt64.zero_xor]
    rw [own]
    simp [UInt64.xor_assoc]
  · intro same
    have own : rotateLeft first count = first ^^^ second ^^^ rotateLeft second count := by
      rw [← same, UInt64.xor_assoc, UInt64.xor_self, UInt64.xor_zero]
    rw [own, UInt64.xor_assoc, ← UInt64.xor_assoc first, UInt64.xor_self, UInt64.zero_xor]

/-- Fixed-width words are separated by their concatenated bytes. -/
theorem flatMap_toBigEndian_inj {width : Nat} {first second : List Nat}
    (same_length : first.length = second.length)
    (firstBound : ∀ word ∈ first, word < 256 ^ width)
    (secondBound : ∀ word ∈ second, word < 256 ^ width)
    (same : first.flatMap (toBigEndian width) = second.flatMap (toBigEndian width)) :
    first = second := by
  induction first generalizing second with
  | nil =>
      cases second with
      | nil => rfl
      | cons word second => cases same_length
  | cons word first ih =>
      cases second with
      | nil => cases same_length
      | cons word' second =>
          rw [List.flatMap_cons, List.flatMap_cons] at same
          rcases List.append_inj same (by simp) with ⟨head, tail⟩
          have head_eq := toBigEndian_inj (firstBound word List.mem_cons_self)
            (secondBound word' List.mem_cons_self) head
          have tail_eq := ih (Nat.succ.inj same_length)
            (fun other member => firstBound other (List.mem_cons_of_mem _ member))
            (fun other member => secondBound other (List.mem_cons_of_mem _ member)) tail
          rw [head_eq, tail_eq]

end ByteCodec
