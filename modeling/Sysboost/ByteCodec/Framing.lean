import Sysboost.ByteCodec.BigEndian

/-!
# Framed encodings

An encoding is framed when it shows by itself where it ends: if the encodings of
two values begin the same text, what a view reads of the values agrees, and so
does what follows.  Framed encodings are put one behind the other; a list of
them is framed when its length stands in front.
-/

namespace ByteCodec

universe u v w x

variable {α : Type u} {β : Type v} {γ : Type w} {σ : Type x}

def Framed (valid : α → Prop) (view : α → β) (encode : α → List σ) : Prop :=
  ∀ first second rest rest', valid first → valid second →
    encode first ++ rest = encode second ++ rest' → view first = view second ∧ rest = rest'

/-- Texts of one length. -/
theorem framed_of_width {valid : α → Prop} {view : α → β} {encode : α → List σ} {width : Nat}
    (fixed : ∀ value, (encode value).length = width)
    (determined : ∀ first second, valid first → valid second → encode first = encode second →
      view first = view second) : Framed valid view encode := by
  intro first second rest rest' ok ok' same
  obtain ⟨texts, rests⟩ := List.append_inj same (by rw [fixed, fixed])
  exact ⟨determined first second ok ok' texts, rests⟩

theorem framed_toBigEndian (width : Nat) :
    Framed (· < 256 ^ width) id (toBigEndian width) :=
  framed_of_width (toBigEndian_length width) fun _ _ ok ok' same => toBigEndian_inj ok ok' same

theorem framed_singleton (valid : α → Prop) (symbol : α → σ) :
    Framed valid symbol fun value => [symbol value] :=
  framed_of_width (fun _ => List.length_singleton) fun _ _ _ _ same => (List.cons.inj same).1

namespace Framed

variable {valid : α → Prop} {view : α → β} {encode : α → List σ}

theorem comap (framed : Framed valid view encode) (read : γ → α) :
    Framed (fun value => valid (read value)) (fun value => view (read value))
      fun value => encode (read value) :=
  fun _ _ _ _ ok ok' same => framed _ _ _ _ ok ok' same

/-- A view that reads no more, of fewer values. -/
theorem weaken {valid' : α → Prop} {view' : α → γ} (framed : Framed valid view encode)
    (stronger : ∀ value, valid' value → valid value)
    (determined : ∀ first second, valid' first → valid' second → view first = view second →
      view' first = view' second) : Framed valid' view' encode := by
  intro first second rest rest' ok ok' same
  obtain ⟨views, rests⟩ := framed _ _ _ _ (stronger first ok) (stronger second ok') same
  exact ⟨determined first second ok ok' views, rests⟩

/-- One encoding behind the other. -/
theorem pair {view' : α → γ} {encode' : α → List σ} (first : Framed valid view encode)
    (second : Framed valid view' encode') :
    Framed valid (fun value => (view value, view' value))
      fun value => encode value ++ encode' value := by
  intro one other rest rest' ok ok' same
  rw [List.append_assoc, List.append_assoc] at same
  obtain ⟨views, behind⟩ := first _ _ _ _ ok ok' same
  obtain ⟨views', rests⟩ := second _ _ _ _ ok ok' behind
  exact ⟨Prod.ext views views', rests⟩

/-- Lists of one length. -/
theorem flatMap_append_inj (framed : Framed valid view encode) {items others : List α}
    {rest rest' : List σ} (length : items.length = others.length)
    (ok : ∀ item ∈ items, valid item) (ok' : ∀ item ∈ others, valid item)
    (same : items.flatMap encode ++ rest = others.flatMap encode ++ rest') :
    items.map view = others.map view ∧ rest = rest' := by
  induction items generalizing others with
  | nil =>
      cases others with
      | nil => exact ⟨rfl, same⟩
      | cons _ _ => cases length
  | cons item items ih =>
      cases others with
      | nil => cases length
      | cons other others =>
          rw [List.forall_mem_cons] at ok ok'
          simp only [List.flatMap_cons, List.append_assoc] at same
          obtain ⟨views, behind⟩ := framed _ _ _ _ ok.1 ok'.1 same
          obtain ⟨maps, rests⟩ := ih (Nat.succ.inj length) ok.2 ok'.2 behind
          exact ⟨by rw [List.map_cons, List.map_cons, views, maps], rests⟩

/-- A list with its length in front. -/
theorem counted {encode : α → Bytes} (framed : Framed valid view encode) (width : Nat) :
    Framed (fun items : List α => items.length < 256 ^ width ∧ ∀ item ∈ items, valid item)
      (List.map view) fun items => toBigEndian width items.length ++ items.flatMap encode := by
  intro first second rest rest' ok ok' same
  rw [List.append_assoc, List.append_assoc] at same
  obtain ⟨length, behind⟩ := framed_toBigEndian width _ _ _ _ ok.1 ok'.1 same
  exact framed.flatMap_append_inj length ok.2 ok'.2 behind

/-- Two lists without a length in front: they agree, or one of them goes on where the rest of
the other begins. -/
theorem flatMap_append_cases (framed : Framed valid view encode) {items others : List α}
    {rest rest' : List σ} (ok : ∀ item ∈ items, valid item) (ok' : ∀ item ∈ others, valid item)
    (same : items.flatMap encode ++ rest = others.flatMap encode ++ rest') :
    (items.map view = others.map view ∧ rest = rest') ∨
      (∃ front other more, others = front ++ other :: more ∧ items.map view = front.map view ∧
        rest = encode other ++ (more.flatMap encode ++ rest')) ∨
      ∃ front item more, items = front ++ item :: more ∧ others.map view = front.map view ∧
        rest' = encode item ++ (more.flatMap encode ++ rest) := by
  induction items generalizing others with
  | nil =>
      cases others with
      | nil => exact .inl ⟨rfl, same⟩
      | cons other others =>
          rw [List.flatMap_cons, List.append_assoc] at same
          exact .inr (.inl ⟨[], other, others, rfl, rfl, same⟩)
  | cons item items ih =>
      cases others with
      | nil =>
          rw [List.flatMap_cons, List.append_assoc] at same
          exact .inr (.inr ⟨[], item, items, rfl, rfl, same.symm⟩)
      | cons other others =>
          rw [List.forall_mem_cons] at ok ok'
          simp only [List.flatMap_cons, List.append_assoc] at same
          obtain ⟨views, behind⟩ := framed _ _ _ _ ok.1 ok'.1 same
          rcases ih ok.2 ok'.2 behind with ⟨maps, rests⟩ |
              ⟨front, next, more, rfl, maps, rests⟩ | ⟨front, next, more, rfl, maps, rests⟩
          · exact .inl ⟨by rw [List.map_cons, List.map_cons, views, maps], rests⟩
          · exact .inr (.inl ⟨other :: front, next, more, rfl,
              by rw [List.map_cons, List.map_cons, views, maps], rests⟩)
          · exact .inr (.inr ⟨item :: front, next, more, rfl,
              by rw [List.map_cons, List.map_cons, views, maps], rests⟩)

end Framed

/-! ## Words -/

/-- A wide number is a narrower one with its high part in front. -/
theorem toBigEndian_add (high low value : Nat) :
    toBigEndian (high + low) value = toBigEndian high (value / 256 ^ low) ++
      toBigEndian low value := by
  induction low generalizing value with
  | zero => simp [toBigEndian]
  | succ low ih =>
      rw [← Nat.add_assoc, toBigEndian, ih, toBigEndian, List.append_assoc, Nat.div_div_eq_div_mul,
        ← Nat.pow_succ']

/-- Only the low part of a number is written. -/
theorem toBigEndian_mod (width value : Nat) :
    toBigEndian width (value % 256 ^ width) = toBigEndian width value := by
  induction width generalizing value with
  | zero => rfl
  | succ width ih =>
      have high : value % 256 ^ (width + 1) / 256 = value / 256 % 256 ^ width := by
        rw [Nat.pow_succ', Nat.mod_mul_right_div_self]
      have digit : UInt8.ofNat (value % 256 ^ (width + 1)) = UInt8.ofNat value := by
        apply UInt8.toNat_inj.mp
        rw [UInt8.toNat_ofNat', UInt8.toNat_ofNat', Nat.pow_succ']
        exact Nat.mod_mul_right_mod value 256 (256 ^ width)
      rw [toBigEndian, toBigEndian, high, ih, digit]

/-- The words of four bytes. -/
def writeWords (words : List UInt32) : Bytes :=
  words.flatMap fun word => toBigEndian 4 word.toNat

theorem writeWords_cons (word : UInt32) (words : List UInt32) :
    writeWords (word :: words) = toBigEndian 4 word.toNat ++ writeWords words :=
  rfl

theorem writeWords_append (front back : List UInt32) :
    writeWords (front ++ back) = writeWords front ++ writeWords back :=
  List.flatMap_append

theorem writeWords_length (words : List UInt32) : (writeWords words).length = 4 * words.length := by
  induction words with
  | nil => rfl
  | cons word words ih =>
      rw [writeWords_cons, List.length_append, toBigEndian_length, ih, List.length_cons]
      omega

/-- What stands at the place of a word is the word. -/
theorem getElem?_of_writeWords {words : List UInt32} {front rest : Bytes} {value position : Nat}
    (same : writeWords words = front ++ (toBigEndian 4 value ++ rest))
    (aligned : front.length = 4 * position) : words[position]? = some (UInt32.ofNat value) := by
  have length := congrArg List.length same
  rw [writeWords_length, List.length_append, List.length_append, toBigEndian_length] at length
  have inside : position < words.length := by omega
  have parts : writeWords words = writeWords (words.take position) ++
      (toBigEndian 4 words[position].toNat ++ writeWords (words.drop (position + 1))) := by
    have split : words.take position ++ words[position] :: words.drop (position + 1) = words := by
      rw [List.getElem_cons_drop, List.take_append_drop]
    conv_lhs => rw [← split]
    rw [writeWords_append, writeWords_cons]
  rw [parts] at same
  have fronts : (writeWords (words.take position)).length = front.length := by
    rw [writeWords_length, List.length_take, aligned]
    omega
  obtain ⟨-, behind⟩ := List.append_inj same fronts
  obtain ⟨word, -⟩ := List.append_inj behind (by rw [toBigEndian_length, toBigEndian_length])
  have number : words[position].toNat = value % 256 ^ 4 := by
    apply toBigEndian_inj words[position].toNat_lt (Nat.mod_lt _ (by decide))
    rw [word, toBigEndian_mod]
  rw [List.getElem?_eq_getElem inside, Option.some.injEq]
  apply UInt32.toNat_inj.mp
  exact number.trans UInt32.toNat_ofNat'.symm

theorem getElem?_zero_of_writeWords {words : List UInt32} {rest : Bytes} {value : Nat}
    (same : writeWords words = toBigEndian 4 value ++ rest) :
    words[0]? = some (UInt32.ofNat value) := by
  have split : writeWords words = [] ++ (toBigEndian 4 value ++ rest) := same
  exact getElem?_of_writeWords split rfl

end ByteCodec
