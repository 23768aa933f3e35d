import Sysboost.ByteCodec.BigEndian
import Mathlib.Data.List.Infix

/-!
# Text kept in bytes

Searching for a pattern, trimming it and reading unsigned decimal numbers work
on the bytes of a text: every pattern and every digit is ASCII, so they agree
with the same operations on characters.
-/

namespace ByteCodec

/-- A check of every item, one after the other. -/
theorem forall_mem_of_all {α : Type} {p : α → Prop} [DecidablePred p] {items : List α}
    (all : (items.all fun item => p item) = true) : ∀ item ∈ items, p item :=
  fun item member => of_decide_eq_true (List.all_eq_true.mp all item member)

/-! ## Patterns -/

/-- The text before and after the first occurrence of a pattern. -/
def splitOnce (pattern : Bytes) : Bytes → Option (Bytes × Bytes)
  | [] => if pattern = [] then some ([], []) else none
  | byte :: rest =>
      if pattern <+: byte :: rest then some ([], (byte :: rest).drop pattern.length)
      else (splitOnce pattern rest).map fun (front, back) => (byte :: front, back)

/-- The text without the copies of a pattern that it ends with. -/
def trimEndMatches (pattern text : Bytes) : Bytes :=
  if pattern ≠ [] ∧ pattern <:+ text then
    trimEndMatches pattern (text.take (text.length - pattern.length))
  else text
termination_by text.length
decreasing_by
  rename_i found
  have shorter := List.length_pos_iff.mpr found.1
  have inside := found.2.length_le
  rw [List.length_take]
  omega

section Patterns

variable {pattern front : Bytes} {first : UInt8}

/-- A text in front of a pattern that does not contain the pattern's first byte
ends where the pattern starts. -/
theorem splitOnce_append (back : Bytes) (absent : first ∉ front) :
    splitOnce (first :: pattern) (front ++ (first :: pattern ++ back)) = some (front, back) := by
  induction front with
  | nil =>
      have found : first :: pattern <+: first :: (pattern ++ back) := ⟨back, rfl⟩
      simp only [List.nil_append, List.cons_append, splitOnce, if_pos found]
      simp
  | cons byte front ih =>
      obtain ⟨different, absent⟩ := not_or.mp (mt List.mem_cons.mpr absent)
      have later : ¬ first :: pattern <+: byte :: (front ++ (first :: pattern ++ back)) :=
        fun found => different (List.cons_prefix_cons.mp found).1
      change (if first :: pattern <+: byte :: (front ++ (first :: pattern ++ back)) then _ else
        (splitOnce (first :: pattern) (front ++ (first :: pattern ++ back))).map _) = _
      rw [if_neg later, ih absent]
      rfl

/-- One copy of the pattern is trimmed from a text that does not end with it. -/
theorem trimEndMatches_append {text : Bytes} (nonempty : pattern ≠ [])
    (clean : ¬ pattern <:+ text) : trimEndMatches pattern (text ++ pattern) = text := by
  have ends : pattern <:+ text ++ pattern := List.suffix_append text pattern
  rw [trimEndMatches, if_pos ⟨nonempty, ends⟩]
  simp only [List.length_append, Nat.add_sub_cancel, List.take_left']
  rw [trimEndMatches, if_neg fun found => clean found.2]

end Patterns

/-! ## ASCII -/

/-- Whether a byte string is UTF-8 text. -/
def isUtf8 (bytes : Bytes) : Bool :=
  (ByteArray.mk bytes.toArray).validateUTF8

/-- ASCII is UTF-8 text. -/
theorem isUtf8_of_ascii {bytes : Bytes} (ascii : ∀ byte ∈ bytes, byte < 128) :
    isUtf8 bytes = true := by
  rw [isUtf8, ByteArray.validateUTF8_eq_true_iff]
  induction bytes using List.reverseRecOn with
  | nil => exact ByteArray.isValidUTF8_empty
  | append_singleton bytes byte ih =>
      have small : byte.toNat < 128 := ascii byte (by simp)
      have size : (Char.ofUInt8 byte).utf8Size = 1 := by
        have bounded : (Char.ofUInt8 byte).val ≤ 127 := by
          rw [UInt32.le_iff_toNat_le]
          change byte.toNat ≤ 127
          omega
        exact Char.utf8Size_eq_one_iff.mpr bounded
      have pushed := (ih fun other member => ascii other (by simp [member])).push size
      have same : (Char.ofUInt8 byte).toUInt8 = byte := by
        apply UInt8.toNat_inj.mp
        change byte.toNat % 256 = byte.toNat
        omega
      have whole : (ByteArray.mk bytes.toArray).push byte = ⟨bytes.toArray.push byte⟩ := rfl
      rwa [same, whole, List.push_toArray] at pushed

/-! ## Decimal numbers -/

/-- The decimal digits of a number, most significant first. -/
def decimal (value : Nat) : Bytes :=
  (Nat.toDigits 10 value).map Char.toUInt8

/-- `u8::is_ascii_digit`. -/
def isAsciiDigit (byte : UInt8) : Bool :=
  48 ≤ byte && byte ≤ 57

/-- The number a text of decimal digits denotes. -/
def ofDecimal (digits : Bytes) : Nat :=
  digits.foldl (fun high digit => 10 * high + (digit.toNat - 48)) 0

/-- Read an unsigned number below `bound`; one plus sign may precede it. -/
def parseUnsigned (bound : Nat) (text : Bytes) : Option Nat :=
  let digits := if text.head? = some 43 then text.tail else text
  if digits ≠ [] ∧ digits.all isAsciiDigit ∧ ofDecimal digits < bound then some (ofDecimal digits)
  else none

theorem toNat_toUInt8_of_isDigit {digit : Char} (isDigit : digit.isDigit = true) :
    digit.toUInt8.toNat = digit.toNat ∧ 48 ≤ digit.toNat ∧ digit.toNat ≤ 57 := by
  have range : 48 ≤ digit.toNat ∧ digit.toNat ≤ 57 := by
    simpa [Char.isDigit, UInt32.le_iff_toNat_le] using isDigit
  refine ⟨?_, range⟩
  change digit.val.toNat % 256 = digit.val.toNat
  exact Nat.mod_eq_of_lt (Nat.lt_of_le_of_lt range.2 (by decide))

/-- Every byte of a decimal number is a digit. -/
theorem isAsciiDigit_of_mem_decimal {value : Nat} {byte : UInt8} (member : byte ∈ decimal value) :
    isAsciiDigit byte = true := by
  obtain ⟨digit, digitMem, rfl⟩ := List.mem_map.mp member
  obtain ⟨same, low, high⟩ := toNat_toUInt8_of_isDigit
    (Nat.isDigit_of_mem_toDigits (by decide) (by decide) digitMem)
  simp only [isAsciiDigit, Bool.and_eq_true, decide_eq_true_eq, UInt8.le_iff_toNat_le, same]
  exact ⟨low, high⟩

theorem ofDecimal_decimal (value : Nat) : ofDecimal (decimal value) = value := by
  have digits : ∀ start (chars : List Char), (∀ digit ∈ chars, digit.isDigit = true) →
      (chars.map Char.toUInt8).foldl (fun high digit => 10 * high + (digit.toNat - 48)) start =
        Nat.ofDigitChars 10 chars start := by
    intro start chars areDigits
    rw [List.foldl_map, Nat.ofDigitChars_eq_foldl]
    apply List.foldl_ext
    intro high digit member
    rw [(toNat_toUInt8_of_isDigit (areDigits digit member)).1]
    rfl
  rw [ofDecimal, decimal, digits]
  · exact Nat.ofDigitChars_ten_toDigits
  · exact fun digit member => Nat.isDigit_of_mem_toDigits (by decide) (by decide) member

theorem decimal_ne_nil {value : Nat} : decimal value ≠ [] := by
  simp [decimal, Nat.toDigits_ne_nil]

theorem parseUnsigned_lt {bound value : Nat} {text : Bytes}
    (read : parseUnsigned bound text = some value) : value < bound := by
  unfold parseUnsigned at read
  generalize (if text.head? = some 43 then text.tail else text) = digits at read
  obtain ⟨⟨-, -, below⟩, same⟩ := Option.ite_none_right_eq_some.mp read
  rwa [← Option.some.inj same]

theorem decimal_length {value digits : Nat} (positive : 0 < digits) (below : value < 10 ^ digits) :
    (decimal value).length ≤ digits := by
  rw [decimal, List.length_map]
  exact (Nat.length_toDigits_le_iff (by decide) positive).mpr below

/-- A number within its bound is read back from its digits. -/
theorem parseUnsigned_decimal {bound value : Nat} (fits : value < bound) :
    parseUnsigned bound (decimal value) = some value := by
  have unsigned : (decimal value).head? ≠ some 43 := by
    intro sign
    have digit := isAsciiDigit_of_mem_decimal (List.mem_of_mem_head? sign)
    exact absurd digit (by decide)
  simp only [parseUnsigned, if_neg unsigned, ofDecimal_decimal]
  exact if_pos ⟨decimal_ne_nil, List.all_eq_true.mpr fun _ => isAsciiDigit_of_mem_decimal, fits⟩

/-! ## Pieces between separators -/

section Pieces

variable {α : Type*} [BEq α] [LawfulBEq α] {separator : α} {items part : List α}

/-- No piece of a list holds the separator. -/
theorem not_mem_of_mem_splitOn (member : part ∈ items.splitOn separator) : separator ∉ part := by
  induction items generalizing part with
  | nil =>
      obtain rfl : part = [] := by simpa using member
      exact List.not_mem_nil
  | cons item rest ih =>
      rw [List.splitOn_cons_eq_if_modifyHead] at member
      split at member
      · rcases List.mem_cons.mp member with rfl | later
        · exact List.not_mem_nil
        · exact ih later
      next other =>
        cases pieces : rest.splitOn separator with
        | nil => exact absurd pieces (List.splitOn_ne_nil separator rest)
        | cons first others =>
            rw [pieces] at ih
            rw [pieces, List.modifyHead_cons] at member
            rcases List.mem_cons.mp member with rfl | later
            · have differs : separator ≠ item := fun same => other (by simp [same])
              simpa [differs] using ih List.mem_cons_self
            · exact ih (List.mem_cons_of_mem _ later)

theorem eq_of_splitOn_eq_singleton (single : items.splitOn separator = [part]) : part = items := by
  have joined : [separator].intercalate (items.splitOn separator) = items :=
    List.intercalate_splitOn separator
  simpa [single] using joined

end Pieces

/-! ## Lines -/

/-- A line without the carriage return in front of its newline. -/
def withoutReturnByte (line : Bytes) : Bytes :=
  if line.getLast? = some 13 then line.dropLast else line

/-- The lines of a text; the last one may be unterminated. -/
def textLines (text : Bytes) : List Bytes :=
  let pieces := text.splitOn 10
  let last := pieces.getLast?.getD []
  pieces.dropLast.map withoutReturnByte ++ if last.isEmpty then [] else [last]

/-- Lines, each with its newline. -/
def terminated (lines : List Bytes) : Bytes :=
  lines.flatMap (· ++ [10])

section Lines

variable {lines : List Bytes} {rest part : Bytes}

@[simp]
theorem terminated_nil : terminated [] = [] :=
  rfl

theorem terminated_cons (line : Bytes) :
    terminated (line :: lines) = line ++ 10 :: terminated lines := by
  simp [terminated]

theorem splitOn_terminated (clean : ∀ line ∈ lines, 10 ∉ line) (last : 10 ∉ rest) :
    (terminated lines ++ rest).splitOn 10 = lines ++ [rest] := by
  induction lines with
  | nil => exact List.splitOn_eq_singleton last
  | cons line lines ih =>
      obtain ⟨own, others⟩ := List.forall_mem_cons.mp clean
      rw [terminated_cons, List.append_assoc, List.cons_append,
        List.splitOn_append_cons_self_of_not_mem own, ih others, List.cons_append]

/-- The lines of a text are read back from it. -/
theorem textLines_terminated (clean : ∀ line ∈ lines, 10 ∉ line ∧ line.getLast? ≠ some 13)
    (last : 10 ∉ rest) :
    textLines (terminated lines ++ rest) = lines ++ if rest.isEmpty then [] else [rest] := by
  have same : lines.map withoutReturnByte = lines := by
    refine (List.map_congr_left fun line member => ?_).trans (List.map_id lines)
    exact if_neg (clean line member).2
  simp only [textLines, splitOn_terminated (fun line member => (clean line member).1) last,
    List.getLast?_concat, Option.getD_some, List.dropLast_concat, same]

/-- A text that breaks off has some whole lines and a part of the next. -/
theorem prefix_terminated (begins : part <+: terminated lines) :
    part = terminated lines ∨ ∃ front line back rest, lines = front ++ line :: back ∧
      part = terminated front ++ rest ∧ rest <+: line := by
  induction lines generalizing part with
  | nil => exact .inl (List.prefix_nil.mp begins)
  | cons line lines ih =>
      rw [terminated_cons] at begins ⊢
      have whole : line <+: line ++ 10 :: terminated lines := List.prefix_append _ _
      rcases List.prefix_or_prefix_of_prefix begins whole with inside | ⟨more, rfl⟩
      · exact .inr ⟨[], line, lines, part, rfl, rfl, inside⟩
      · rcases List.prefix_cons_iff.mp ((List.prefix_append_right_inj line).mp begins) with
          rfl | ⟨more, rfl, later⟩
        · exact .inr ⟨[], line, lines, line, rfl, List.append_nil line, List.prefix_rfl⟩
        · rcases ih later with rfl | ⟨front, next, back, rest, rfl, rfl, inside⟩
          · exact .inl rfl
          · refine .inr ⟨line :: front, next, back, rest, rfl, ?_, inside⟩
            rw [terminated_cons, List.append_assoc, List.cons_append]

end Lines

end ByteCodec
