import Sysboost.ByteCodec.Fields

/-!
# Readers that accept only what is written

`Consumes` says that a reader takes from its input exactly the bytes that are
written for the value it returns.  Together with `Reads` it makes reader and
writer inverse to each other, so no value has a second representation.  The
law composes along the monadic structure of the reader.
-/

namespace ByteCodec

universe u v

variable {ε : Type u} {α β : Type v}

/-- Whatever `reader` accepts stands in front of its rest as it is written. -/
def Consumes (reader : Get ε α) (written : α → Bytes → Prop) : Prop :=
  ∀ ⦃bytes value rest⦄, reader.run bytes = .ok (value, rest) →
    ∃ front, written value front ∧ bytes = front ++ rest

namespace Consumes

theorem pure {value : α} {written : α → Bytes → Prop} (holds : written value []) :
    Consumes (pure value : Get ε α) written := by
  rintro bytes result rest ok
  cases ok
  exact ⟨[], holds, rfl⟩

theorem bind {reader : Get ε α} {next : α → Get ε β} {first : α → Bytes → Prop}
    {written : β → Bytes → Prop} (known : Consumes reader first)
    (later : ∀ value front, first value front →
      Consumes (next value) fun result back => written result (front ++ back)) :
    Consumes (reader >>= next) written := by
  intro bytes result rest ok
  obtain ⟨value, middle, readOk, nextOk⟩ := Get.run_bind_eq_ok_iff.mp ok
  obtain ⟨front, frontHolds, rfl⟩ := known readOk
  obtain ⟨back, backHolds, rfl⟩ := later value front frontHolds nextOk
  exact ⟨front ++ back, backHolds, (List.append_assoc ..).symm⟩

theorem lift {check : Except ε α} {written : α → Bytes → Prop}
    (holds : ∀ value, check = .ok value → written value []) :
    Consumes (Get.lift check) written := by
  intro bytes value rest ok
  cases check with
  | error error => simp [Get.lift, Except.map] at ok
  | ok inner =>
      simp only [Get.lift, Except.map, Except.ok.injEq, Prod.mk.injEq] at ok
      obtain ⟨rfl, rfl⟩ := ok
      exact ⟨[], holds _ rfl, rfl⟩

section Primitives

variable (truncated : ε)

theorem take (count : Nat) :
    Consumes (Get.take truncated count) fun value bytes =>
      value.length = count ∧ bytes = value := by
  intro bytes value rest ok
  simp only [Get.take] at ok
  split at ok
  · cases ok
  · rename_i enough
    cases ok
    exact ⟨_, ⟨by rw [List.length_take]; omega, rfl⟩, (List.take_append_drop ..).symm⟩

theorem word (width : Nat) :
    Consumes (Get.word truncated width) fun value bytes =>
      value < 256 ^ width ∧ bytes = toBigEndian width value := by
  refine bind (take truncated width) fun bytes front known => ?_
  obtain ⟨rfl, rfl⟩ := known
  exact pure ⟨ofBigEndian_lt _, by rw [toBigEndian_ofBigEndian, List.append_nil]⟩

theorem block (size : Nat) :
    Consumes (Get.block truncated size) fun value bytes => bytes = value.bytes := by
  intro bytes value rest ok
  simp only [Get.block] at ok
  split at ok
  · cases ok
    exact ⟨_, rfl, (List.take_append_drop ..).symm⟩
  · cases ok

end Primitives

end Consumes

end ByteCodec
