import Sysboost.Linux.Topology.Model

/-!
# What a round of the digest forgets

A round multiplies a lane and takes the exclusive or with the own rotation.  The
multiplication is invertible and the second step is not: it takes a word and its
complement to the same word.  So every word has exactly one partner with which a
round merges it, and two inputs that differ in one byte keep different digests
just as long as no round meets partners.
-/

namespace Sysboost.Planner

open ByteCodec

/-! ## One lane -/

/-- Different words that the multiplication takes to a word and its
complement. -/
def Merges (first second : UInt64) : Prop :=
  first + second = 0x3169afa850096a85

instance (first second : UInt64) : Decidable (Merges first second) :=
  inferInstanceAs (Decidable (_ = _))

/-- The sum of partners is odd, so that no word is its own partner. -/
theorem not_merges_self (word : UInt64) : ¬Merges word word := by
  intro merges
  have sum := congrArg (fun word : UInt64 => word.toNat % 2) merges
  simp only [UInt64.toNat_add] at sum
  have odd : (0x3169afa850096a85 : UInt64).toNat % 2 = 1 := by decide
  omega

theorem merges_iff_mul {first second : UInt64} :
    first * 0x100000001b3 + second * 0x100000001b3 = -1 ↔ Merges first second := by
  have inverse : (0x100000001b3 : UInt64) * 0xce965057aff6957b = 1 := by decide
  have partners : (0x3169afa850096a85 : UInt64) * 0x100000001b3 = -1 := by decide
  rw [← UInt64.add_mul, ← partners]
  exact (mul_injective_of_inverse inverse).eq_iff

/-- A round gives the same lane exactly for the same words and for partners. -/
theorem digestLane_eq_iff {index : Nat} {first second : UInt64} {byte byte' : UInt8} :
    digestLane index first byte = digestLane index second byte' ↔
      first ^^^ byte.toUInt64 = second ^^^ byte'.toUInt64 ∨
        Merges (first ^^^ byte.toUInt64) (second ^^^ byte'.toUInt64) := by
  have inverse : (0x100000001b3 : UInt64) * 0xce965057aff6957b = 1 := by decide
  rw [digestLane, digestLane, UInt64.add_left_inj,
    xor_rotateLeft_eq_iff (by decide : 27 * 19 % 64 = 1), merges_iff_mul]
  exact or_congr (mul_injective_of_inverse inverse).eq_iff Iff.rfl

theorem xor_toUInt64_inj {lane : UInt64} {byte byte' : UInt8} :
    lane ^^^ byte.toUInt64 = lane ^^^ byte'.toUInt64 ↔ byte = byte' := by
  rw [UInt64.xor_right_inj, UInt8.toUInt64_inj]

/-! ## All lanes -/

/-- The lanes agree but for the one at `place`. -/
def AgreeBut (place : Nat) (lanes lanes' : Vector UInt64 4) : Prop :=
  ∀ (lane : Nat) (bound : lane < 4), lane ≠ place → lanes[lane] = lanes'[lane]

section Round

variable {index place : Nat} {lanes lanes' : Vector UInt64 4} {byte byte' : UInt8}

/-- The word that the round at `index` starts from. -/
def roundWord (index : Nat) (lanes : Vector UInt64 4) (byte : UInt8) : UInt64 :=
  have bound := mod_four_lt index
  lanes[index % 4] ^^^ byte.toUInt64

theorem AgreeBut.eq_iff (agree : AgreeBut place lanes lanes') (bound : place < 4) :
    lanes = lanes' ↔ lanes[place] = lanes'[place] := by
  constructor
  · rintro rfl
    rfl
  · intro same
    apply Vector.ext
    intro lane laneBound
    by_cases here : lane = place
    · subst here
      exact same
    · exact agree lane laneBound here

/-- A round at the place where the lanes differ. -/
theorem digestByte_agreeBut (agree : AgreeBut (index % 4) lanes lanes') :
    AgreeBut (index % 4) (digestByte index lanes byte) (digestByte index lanes' byte') := by
  intro lane bound apart
  simp only [digestByte, Vector.getElem_set_ne _ _ (Ne.symm apart), agree lane bound apart]

/-- A round elsewhere takes in the same byte. -/
theorem digestByte_agreeBut_of_ne (agree : AgreeBut place lanes lanes') (apart : index % 4 ≠ place) :
    AgreeBut place (digestByte index lanes byte) (digestByte index lanes' byte) := by
  have bound := mod_four_lt index
  intro lane laneBound other
  by_cases here : index % 4 = lane
  · subst here
    simp only [digestByte, Vector.getElem_set_self, agree _ bound apart]
  · simp only [digestByte, Vector.getElem_set_ne _ _ here, agree lane laneBound other]

theorem digestByte_eq_iff (agree : AgreeBut (index % 4) lanes lanes') :
    digestByte index lanes byte = digestByte index lanes' byte' ↔
      roundWord index lanes byte = roundWord index lanes' byte' ∨
        Merges (roundWord index lanes byte) (roundWord index lanes' byte') := by
  have bound := mod_four_lt index
  rw [(digestByte_agreeBut agree).eq_iff bound]
  simp only [digestByte, Vector.getElem_set_self]
  exact digestLane_eq_iff

end Round

/-! ## All rounds -/

/-- No round on the two inputs meets partners. -/
def NeverMerges : Nat → Vector UInt64 4 → Vector UInt64 4 → Bytes → Bytes → Prop
  | index, lanes, lanes', byte :: bytes, byte' :: bytes' =>
      ¬Merges (roundWord index lanes byte) (roundWord index lanes' byte') ∧
        NeverMerges (index + 1) (digestByte index lanes byte) (digestByte index lanes' byte')
          bytes bytes'
  | _, _, _, _, _ => True

/-- Rounds on a common front from the same lanes meet no partners. -/
theorem neverMerges_append {index : Nat} {lanes : Vector UInt64 4} {front first second : Bytes} :
    NeverMerges index lanes lanes (front ++ first) (front ++ second) ↔
      NeverMerges (index + front.length) (foldBytes digestByte index lanes front)
        (foldBytes digestByte index lanes front) first second := by
  induction front generalizing index lanes with
  | nil => rfl
  | cons byte front ih =>
      simp only [List.cons_append, NeverMerges, not_merges_self, not_false_eq_true, true_and, ih,
        foldBytes, List.length_cons, Nat.add_comm front.length, Nat.add_assoc]

/-- A round on different words keeps the difference unless they are partners. -/
theorem round_ne_iff {index : Nat} {lanes lanes' : Vector UInt64 4} {byte byte' : UInt8}
    {bytes : Bytes} (agree : AgreeBut (index % 4) lanes lanes')
    (differ : roundWord index lanes byte ≠ roundWord index lanes' byte')
    (later : digestByte index lanes byte ≠ digestByte index lanes' byte' →
      (foldBytes digestByte (index + 1) (digestByte index lanes byte) bytes ≠
          foldBytes digestByte (index + 1) (digestByte index lanes' byte') bytes ↔
        NeverMerges (index + 1) (digestByte index lanes byte) (digestByte index lanes' byte')
          bytes bytes)) :
    foldBytes digestByte index lanes (byte :: bytes) ≠
        foldBytes digestByte index lanes' (byte' :: bytes) ↔
      NeverMerges index lanes lanes' (byte :: bytes) (byte' :: bytes) := by
  have merged : digestByte index lanes byte = digestByte index lanes' byte' ↔
      Merges (roundWord index lanes byte) (roundWord index lanes' byte') :=
    (digestByte_eq_iff agree).trans (or_iff_right differ)
  simp only [foldBytes, NeverMerges]
  by_cases merges : Merges (roundWord index lanes byte) (roundWord index lanes' byte')
  · simp only [merged.mpr merges, merges, ne_eq, not_true_eq_false, false_and]
  · rw [later (mt merged.mp merges), and_iff_right merges]

/-- After a difference in one lane the remaining bytes keep it just when no
round meets partners. -/
theorem foldBytes_ne_iff {index place : Nat} {lanes lanes' : Vector UInt64 4} {bytes : Bytes}
    (agree : AgreeBut place lanes lanes') (bound : place < 4) (apart : lanes ≠ lanes') :
    foldBytes digestByte index lanes bytes ≠ foldBytes digestByte index lanes' bytes ↔
      NeverMerges index lanes lanes' bytes bytes := by
  have differ : lanes[place] ≠ lanes'[place] := mt (agree.eq_iff bound).mpr apart
  induction bytes generalizing index lanes lanes' with
  | nil => exact iff_of_true apart trivial
  | cons byte bytes ih =>
      by_cases here : index % 4 = place
      · subst here
        have words : roundWord index lanes byte ≠ roundWord index lanes' byte := by
          intro same
          simp only [roundWord, UInt64.xor_left_inj] at same
          exact differ same
        refine round_ne_iff agree words fun apart => ?_
        have agree : AgreeBut (index % 4) (digestByte index lanes byte)
            (digestByte index lanes' byte) := digestByte_agreeBut agree
        exact ih agree apart (mt (agree.eq_iff bound).mpr apart)
      · -- The lane of this round is the same in both, and stays so.
        have inside := mod_four_lt index
        have word : roundWord index lanes byte = roundWord index lanes' byte := by
          simp only [roundWord, agree _ inside here]
        have kept : AgreeBut place (digestByte index lanes byte)
            (digestByte index lanes' byte) := digestByte_agreeBut_of_ne agree here
        have differ' : (digestByte index lanes byte)[place] ≠
            (digestByte index lanes' byte)[place] := by
          simpa only [digestByte, Vector.getElem_set_ne _ _ here] using differ
        simp only [foldBytes, NeverMerges, word, not_merges_self, not_false_eq_true, true_and]
        exact ih kept (mt (kept.eq_iff bound).mp differ') differ'

/-- A difference in one byte is kept just when no round meets partners. -/
theorem foldBytes_ne_iff_of_oneByteApart {first second : Bytes} (lanes : Vector UInt64 4)
    (apart : OneByteApart first second) :
    foldBytes digestByte 0 lanes first ≠ foldBytes digestByte 0 lanes second ↔
      NeverMerges 0 lanes lanes first second := by
  obtain ⟨front, old, new, back, differ, rfl, rfl⟩ := apart
  rw [neverMerges_append, foldBytes_append, foldBytes_append]
  have agree : AgreeBut ((0 + front.length) % 4) (foldBytes digestByte 0 lanes front)
      (foldBytes digestByte 0 lanes front) := fun _ _ _ => rfl
  refine round_ne_iff agree (mt xor_toUInt64_inj.mp differ) fun apart => ?_
  exact foldBytes_ne_iff (digestByte_agreeBut agree) (mod_four_lt _) apart

/-- The lanes can be read off the digest. -/
theorem laneBlock_inj {lanes lanes' : Vector UInt64 4} :
    laneBlock lanes = laneBlock lanes' ↔ lanes = lanes' := by
  rw [laneBlock, laneBlock, Block.mk.injEq]
  constructor
  · intro same
    have word {first second : UInt64} (same : toBigEndian 8 first.toNat =
        toBigEndian 8 second.toNat) : first = second :=
      UInt64.toNat_inj.mp (toBigEndian_inj first.toNat_lt second.toNat_lt same)
    obtain ⟨same, fourth⟩ := List.append_inj' same (by simp)
    obtain ⟨same, third⟩ := List.append_inj' same (by simp)
    obtain ⟨first, second⟩ := List.append_inj' same (by simp)
    apply Vector.ext
    intro lane bound
    have cases : lane = 0 ∨ lane = 1 ∨ lane = 2 ∨ lane = 3 := by omega
    rcases cases with rfl | rfl | rfl | rfl
    · exact word first
    · exact word second
    · exact word third
    · exact word fourth
  · rintro rfl
    rfl

theorem stableDigest_ne_iff {first second : Bytes} (apart : OneByteApart first second) :
    stableDigest first ≠ stableDigest second ↔
      NeverMerges 0 digestLanes digestLanes first second := by
  rw [← foldBytes_ne_iff_of_oneByteApart digestLanes apart, ne_eq, ne_eq, ← laneBlock_inj,
    stableDigest, stableDigest]

end Sysboost.Planner

namespace Sysboost.Linux.Topology

open Sysboost.Core Sysboost.Planner ByteCodec

/-- What both digests lose: a round keeps the difference of two lanes, and of
two bytes, exactly when it does not meet partners, and a difference in one byte
reaches the digest exactly when no round on the way meets partners. -/
theorem digests_separate_iff (index : Nat) (lane lane' : UInt64) (byte byte' : UInt8)
    (first second : Bytes) :
    (lane ≠ lane' → (digestLane index lane byte ≠ digestLane index lane' byte ↔
      ¬Merges (lane ^^^ byte.toUInt64) (lane' ^^^ byte.toUInt64))) ∧
    (byte ≠ byte' → (digestLane index lane byte ≠ digestLane index lane byte' ↔
      ¬Merges (lane ^^^ byte.toUInt64) (lane ^^^ byte'.toUInt64))) ∧
    (OneByteApart first second →
      (Planner.stableDigest first ≠ Planner.stableDigest second ↔
        NeverMerges 0 Planner.digestLanes Planner.digestLanes first second) ∧
      (stableDigest first ≠ stableDigest second ↔
        NeverMerges 0 digestLanes digestLanes first second)) := by
  refine ⟨fun differ => ?_, fun differ => ?_, fun apart => ⟨stableDigest_ne_iff apart, ?_⟩⟩
  · rw [ne_eq, digestLane_eq_iff, UInt64.xor_left_inj, or_iff_right differ]
  · rw [ne_eq, digestLane_eq_iff, xor_toUInt64_inj, or_iff_right differ]
  · rw [← foldBytes_ne_iff_of_oneByteApart digestLanes apart, ne_eq, ne_eq, ← laneBlock_inj,
      stableDigest, stableDigest]

theorem digests_separate_iff_zero_one :
    (digestLane 0 0 0 ≠ digestLane 0 1 0 ∧ digestLane 0 0 0 ≠ digestLane 0 0 1) ∧
      Planner.stableDigest [0] ≠ Planner.stableDigest [1] ∧ stableDigest [0] ≠ stableDigest [1] := by
  have apart : OneByteApart [0] [1] := ⟨[], 0, 1, [], by decide, rfl, rfl⟩
  obtain ⟨lanes, bytes, digests⟩ := digests_separate_iff 0 0 1 0 1 [0] [1]
  obtain ⟨planner, topology⟩ := digests apart
  refine ⟨⟨(lanes (by decide)).mpr (by decide), (bytes (by decide)).mpr (by decide)⟩, ?_, ?_⟩
  · exact planner.mpr ⟨by decide, trivial⟩
  · exact topology.mpr ⟨by decide, trivial⟩

/-- Two texts that differ in their last letter, where the last round meets
partners. -/
def mergedText (last : Char) : Bytes :=
  utf8 ("E...d...r...r...b...M...<...w...M..." ++ last.toString)

theorem digests_merge :
    (0 : UInt64) ≠ 0x3169afa850096a85 ∧
      (∀ index, digestLane index 0 0 = digestLane index 0x3169afa850096a85 0) ∧
      OneByteApart (mergedText 'p') (mergedText 'q') ∧
      Planner.stableDigest (mergedText 'p') = Planner.stableDigest (mergedText 'q') ∧
      stableDigest (mergedText 'p') = stableDigest (mergedText 'q') := by
  have texts : (mergedText 'p' = (mergedText 'p').take 36 ++ [112] ∧
      mergedText 'q' = (mergedText 'p').take 36 ++ [113]) ∧
      Planner.stableDigest (mergedText 'p') = Planner.stableDigest (mergedText 'q') ∧
      stableDigest (mergedText 'p') = stableDigest (mergedText 'q') := by
    decide +kernel
  obtain ⟨⟨first, second⟩, merged⟩ := texts
  exact ⟨by decide, fun index => digestLane_eq_iff.mpr (.inr (by decide)),
    ⟨_, 112, 113, [], by decide, first, second⟩, merged⟩

end Sysboost.Linux.Topology
