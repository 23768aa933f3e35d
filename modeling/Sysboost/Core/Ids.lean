import Sysboost.ByteCodec.BigEndian
import Mathlib.Data.String.Basic

/-!
# Identifiers and timestamps

Textual identifiers carry the proof that their text passed `validate_text`, so
an unsafe identifier cannot be built.  Binary identifiers are byte arrays of a
fixed size; the planner owns the uniqueness of mutation IDs.
-/

namespace Sysboost.Core

open ByteCodec

/-- `str::as_bytes`. -/
def utf8 (value : String) : Bytes :=
  value.toByteArray.data.toList

/-- `str::contains('\0')`: in UTF-8 only the NUL character has a zero byte. -/
def containsNul (value : String) : Bool :=
  (utf8 value).contains 0

/-- `u8::is_ascii_alphanumeric`. -/
def isAsciiAlphanumeric (byte : UInt8) : Bool :=
  (48 ≤ byte && byte ≤ 57) || (65 ≤ byte && byte ≤ 90) || (97 ≤ byte && byte ≤ 122)

/-- `u8::is_ascii_whitespace`. -/
def isAsciiWhitespace (byte : UInt8) : Bool :=
  byte == 0x20 || byte == 0x09 || byte == 0x0a || byte == 0x0c || byte == 0x0d

/-- Error returned when a textual identifier is not safe or well formed. -/
structure IdentifierError where
  name : String
  reason : String
deriving DecidableEq

/-- The textual rules shared by every identifier type. -/
def validateText (name value : String) : Except IdentifierError Unit :=
  if value.isEmpty then .error ⟨name, "must not be empty"⟩
  else if value.utf8ByteSize > 128 then .error ⟨name, "must be at most 128 bytes"⟩
  else if (utf8 value).any fun byte => byte == 0 || isAsciiWhitespace byte then
    .error ⟨name, "must not contain whitespace or NUL"⟩
  else if !(utf8 value).all fun byte => isAsciiAlphanumeric byte || (utf8 "._:-").contains byte then
    .error ⟨name, "may contain only ASCII letters, digits, '.', '_', ':', and '-'"⟩
  else .ok ()

/-- The family of identifier types made by `text_id!`. -/
structure TextId (name : String) where
  asStr : String
  valid : validateText name asStr = .ok ()
deriving DecidableEq

/-- Construct an identifier after validating its textual form. -/
def TextId.new {name : String} (value : String) : Except IdentifierError (TextId name) :=
  match valid : validateText name value with
  | .ok () => .ok ⟨value, valid⟩
  | .error error => .error error

@[simp]
theorem TextId.new_asStr {name : String} (id : TextId name) :
    (TextId.new id.asStr : Except IdentifierError (TextId name)) = .ok id := by
  unfold TextId.new
  split
  · rfl
  · rename_i invalid
    rw [id.valid] at invalid
    cases invalid

theorem TextId.asStr_of_new {name value : String} {id : TextId name}
    (made : TextId.new value = .ok id) : id.asStr = value := by
  unfold TextId.new at made
  split at made
  · cases made
    rfl
  · cases made

theorem TextId.asStr_injective {name : String} :
    Function.Injective (TextId.asStr : TextId name → String) := by
  rintro ⟨first, _⟩ ⟨second, _⟩ same
  cases same
  rfl

/-- The derived order, that of the texts. -/
instance {name : String} : LinearOrder (TextId name) :=
  .lift' TextId.asStr TextId.asStr_injective

/-- Identifies a compiled-in backend. -/
abbrev BackendId := TextId "BackendId"

/-- Identifies a semantic capability. -/
abbrev CapabilityId := TextId "CapabilityId"

/-- Identifies one typed operation vocabulary entry. -/
abbrev OperationId := TextId "OperationId"

/-- Identifies a mutation target. -/
abbrev TargetId := TextId "TargetId"

/-- Identifies a planned transaction. -/
structure PlanId where
  bytes : Block 16
deriving DecidableEq

/-- Identifies a live session. -/
structure SessionId where
  bytes : Block 16
deriving DecidableEq

/-- The byte order of session IDs. -/
def SessionId.le (first second : SessionId) : Bool :=
  decide (first.bytes.bytes ≤ second.bytes.bytes)

/-- Identifies a single mutation within a plan. -/
structure MutationId where
  get : UInt32
deriving DecidableEq

/-- A non-negative Unix timestamp in milliseconds. -/
structure Timestamp where
  asUnixMillis : BitVec 128
deriving DecidableEq

/-- Construct a timestamp from Unix milliseconds. -/
def Timestamp.fromUnixMillis (value : Nat) : Timestamp :=
  ⟨BitVec.ofNat 128 value⟩

/-! ## What validated text guarantees -/

theorem utf8_length (value : String) : (utf8 value).length = value.utf8ByteSize :=
  rfl

/-- Text that a non-empty bounded field of the journal accepts. -/
structure FieldText (max : Nat) (value : String) : Prop where
  nonempty : value.isEmpty = false
  bounded : value.utf8ByteSize ≤ max
  noNul : containsNul value = false

theorem FieldText.mono {first second : Nat} {value : String} (le : first ≤ second)
    (text : FieldText first value) : FieldText second value :=
  ⟨text.nonempty, Nat.le_trans text.bounded le, text.noNul⟩

/-- The ASCII rule of identifiers excludes NUL. -/
theorem containsNul_eq_false_of_all (allowed : UInt8 → Bool) (zero : allowed 0 = false)
    {value : String} (all : (utf8 value).all allowed = true) : containsNul value = false := by
  simp only [containsNul, List.contains_eq_mem, decide_eq_false_iff_not]
  intro member
  have accepted := List.all_eq_true.mp all 0 member
  rw [zero] at accepted
  cases accepted

/-- A text of letters, digits and the four marks is an identifier. -/
theorem validateText_of_all {name value : String} (nonempty : value.isEmpty = false)
    (bounded : value.utf8ByteSize ≤ 128)
    (all : ∀ byte ∈ utf8 value, isAsciiAlphanumeric byte = true ∨ byte ∈ utf8 "._:-") :
    validateText name value = .ok () := by
  have allowed : (utf8 value).all (fun byte =>
      isAsciiAlphanumeric byte || (utf8 "._:-").contains byte) = true := by
    simpa using all
  have visible : (utf8 value).any (fun byte => byte == 0 || isAsciiWhitespace byte) = false := by
    refine List.any_eq_false.mpr fun byte member blank => ?_
    have none : ∀ byte : UInt8, (byte == 0 || isAsciiWhitespace byte) = true →
        ¬(isAsciiAlphanumeric byte = true ∨ byte ∈ utf8 "._:-") := by
      intro byte blank
      simp only [isAsciiWhitespace, Bool.or_eq_true, beq_iff_eq] at blank
      rcases blank with rfl | (((rfl | rfl) | rfl) | rfl) | rfl <;> decide
    exact none byte blank (all byte member)
  unfold validateText
  rw [if_neg (by simp [nonempty]), if_neg (by omega), if_neg (by simp [visible]),
    if_neg (by rw [allowed]; decide)]

/-- Every identifier is a non-empty text of at most 128 bytes without NUL. -/
theorem TextId.fieldText {name : String} (id : TextId name) : FieldText 128 id.asStr := by
  have valid := id.valid
  unfold validateText at valid
  split at valid
  · cases valid
  rename_i nonempty
  split at valid
  · cases valid
  rename_i bounded
  split at valid
  · cases valid
  split at valid
  · cases valid
  rename_i all
  constructor
  · simpa using nonempty
  · omega
  · apply containsNul_eq_false_of_all
      (fun byte => isAsciiAlphanumeric byte || (utf8 "._:-").contains byte)
    · decide
    · simpa only [Bool.not_eq_true, Bool.not_eq_false'] using all

end Sysboost.Core
