import Sysboost.Platform.Process
import Sysboost.Results.Loops

/-!
# The owner in the lock file

The lock file names its owner in four lines.  A file that breaks off is read as
an owner only if no more than its final newline is missing.
-/

namespace Sysboost.State

open Sysboost.Core Sysboost.Platform ByteCodec

/-- The lines of `encode_lock_owner`. -/
def lockLines (owner : ProcessIdentity) : List Bytes :=
  [utf8 "version=1", utf8 "pid=" ++ decimal owner.pid.toNat,
    utf8 "start=" ++ decimal owner.generation.toNat, utf8 "boot=" ++ encodeHex owner.bootId.bytes]

def encodeLockOwner (owner : ProcessIdentity) : Bytes :=
  terminated (lockLines owner)

/-- The value behind the name and the equals sign. -/
def parseLockField (line name : Bytes) : Except SysboostError Bytes :=
  let before := name ++ [61]
  if before <+: line ∧ line ≠ before then .ok (line.drop before.length)
  else .error (.new .journalCorrupt "lock metadata field is invalid")

/-- `parse` of an unsigned number, or a domain error. -/
def parseLockNumber (bound : Nat) (message : String) (text : Bytes) : Except SysboostError Nat :=
  match parseUnsigned bound text with
  | some value => .ok value
  | none => .error (.new .journalCorrupt message)

/-- `decode_hex_16`. -/
def decodeHex16 (value : Bytes) : Option (Block 16) :=
  if value.length ≠ 32 then none else decodeHex value

def parseLockOwner (bytes : Bytes) : Except SysboostError ProcessIdentity :=
  if !isUtf8 bytes then .error (.new .journalCorrupt "lock metadata is not valid text")
  else match textLines bytes with
    | [version, pid, start, boot] => do
        if version ≠ utf8 "version=1" then
          throw (.new .journalCorrupt "lock metadata format is unsupported")
        let pid ← parseLockNumber (2 ^ 32) "lock PID metadata is invalid"
          (← parseLockField pid (utf8 "pid"))
        let generation ← parseLockNumber (2 ^ 64) "lock start metadata is invalid"
          (← parseLockField start (utf8 "start"))
        match decodeHex16 (← parseLockField boot (utf8 "boot")) with
        | none => throw (.new .journalCorrupt "lock boot metadata is invalid")
        | some bootId =>
            (ProcessIdentity.withBootId (UInt32.ofNat pid) (UInt64.ofNat generation) bootId).mapError
              fun _ => .new .journalCorrupt "lock metadata contains a weak process identity"
    | _ => .error (.new .journalCorrupt "lock metadata format is unsupported")

/-- The content is within the bound of its reader. -/
theorem encodeLockOwner_length (owner : ProcessIdentity) : (encodeLockOwner owner).length ≤ 256 := by
  have pid : (decimal owner.pid.toNat).length ≤ 10 :=
    decimal_length (by decide) (Nat.lt_trans owner.pid.toNat_lt (by decide))
  have generation : (decimal owner.generation.toNat).length ≤ 20 :=
    decimal_length (by decide) (Nat.lt_trans owner.generation.toNat_lt (by decide))
  have bootId := encodeHex_length owner.bootId.bytes
  rw [owner.bootId.length_eq] at bootId
  have version : (utf8 "version=1").length = 9 := rfl
  have pidName : (utf8 "pid=").length = 4 := rfl
  have startName : (utf8 "start=").length = 6 := rfl
  have bootName : (utf8 "boot=").length = 5 := rfl
  simp only [encodeLockOwner, terminated, lockLines, List.flatMap_cons, List.flatMap_nil,
    List.length_append, List.length_cons, List.length_nil]
  omega

/-! ## What is read back -/

/-- The content names this owner, but for the final newline at most. -/
def Names (owner : ProcessIdentity) (content : Bytes) : Prop :=
  content = encodeLockOwner owner ∨ content ++ [10] = encodeLockOwner owner

section Owner

variable {owner : ProcessIdentity} {content : Bytes}

/-- A byte that neither ends a line nor leaves ASCII. -/
def isPlain (byte : UInt8) : Bool :=
  14 ≤ byte && byte < 128

theorem isPlain_of_mem_decimal {value : Nat} {byte : UInt8} (member : byte ∈ decimal value) :
    isPlain byte = true := by
  have digit := isAsciiDigit_of_mem_decimal member
  simp only [isAsciiDigit, isPlain, Bool.and_eq_true, decide_eq_true_eq, UInt8.le_iff_toNat_le,
    UInt8.lt_iff_toNat_lt] at digit ⊢
  have low : (14 : UInt8).toNat = 14 := rfl
  have high : (128 : UInt8).toNat = 128 := rfl
  have first : (48 : UInt8).toNat = 48 := rfl
  have last : (57 : UInt8).toNat = 57 := rfl
  omega

theorem isPlain_of_mem_encodeHex {bytes : Bytes} {byte : UInt8} (member : byte ∈ encodeHex bytes) :
    isPlain byte = true := by
  have range := range_of_mem_encodeHex member
  simp only [isPlain, Bool.and_eq_true, decide_eq_true_eq, UInt8.le_iff_toNat_le,
    UInt8.lt_iff_toNat_lt] at range ⊢
  have low : (14 : UInt8).toNat = 14 := rfl
  have first : (48 : UInt8).toNat = 48 := rfl
  omega

theorem isPlain_of_mem_lockLines {line : Bytes} (member : line ∈ lockLines owner) :
    ∀ byte ∈ line, isPlain byte = true := by
  have named {name value : Bytes} (plain : ∀ byte ∈ name, isPlain byte = true)
      (also : ∀ byte ∈ value, isPlain byte = true) :
      ∀ byte ∈ name ++ value, isPlain byte = true :=
    List.forall_mem_append.mpr ⟨plain, also⟩
  simp only [lockLines, List.mem_cons, List.not_mem_nil, or_false] at member
  rcases member with rfl | rfl | rfl | rfl
  · exact List.all_eq_true.mp (by decide)
  · exact named (List.all_eq_true.mp (by decide)) fun _ => isPlain_of_mem_decimal
  · exact named (List.all_eq_true.mp (by decide)) fun _ => isPlain_of_mem_decimal
  · exact named (List.all_eq_true.mp (by decide)) fun _ => isPlain_of_mem_encodeHex

theorem ne_of_isPlain {byte : UInt8} (plain : isPlain byte = true) :
    byte ≠ 10 ∧ byte ≠ 13 ∧ byte < 128 := by
  simp only [isPlain, Bool.and_eq_true, decide_eq_true_eq] at plain
  refine ⟨?_, ?_, plain.2⟩
  · rintro rfl
    exact absurd plain.1 (by decide)
  · rintro rfl
    exact absurd plain.1 (by decide)

theorem lockLines_clean {line : Bytes} (member : line ∈ lockLines owner) :
    10 ∉ line ∧ line.getLast? ≠ some 13 := by
  have plain := isPlain_of_mem_lockLines member
  constructor
  · intro newline
    exact (ne_of_isPlain (plain 10 newline)).1 rfl
  · intro last
    exact (ne_of_isPlain (plain 13 (List.mem_of_getLast? last))).2.1 rfl

theorem ascii_encodeLockOwner : ∀ byte ∈ encodeLockOwner owner, byte < 128 := by
  intro byte member
  obtain ⟨line, own, inside⟩ := List.mem_flatMap.mp member
  rcases List.mem_append.mp inside with inside | last
  · exact (ne_of_isPlain (isPlain_of_mem_lockLines own byte inside)).2.2
  · rw [List.mem_singleton.mp last]
    decide

theorem parseLockField_append {name value : Bytes} (nonempty : value ≠ []) :
    parseLockField (name ++ [61] ++ value) name = .ok value := by
  have different : name ++ [61] ++ value ≠ name ++ [61] := by
    simpa using nonempty
  simp only [parseLockField]
  rw [if_pos ⟨List.prefix_append _ _, different⟩, List.drop_left]

theorem parseLockField_eq_ok {line name value : Bytes} (ok : parseLockField line name = .ok value) :
    line = name ++ [61] ++ value := by
  simp only [parseLockField] at ok
  split at ok
  · rename_i found
    cases ok
    exact (List.prefix_append_drop found.1)
  · cases ok

/-- The lines of the owner but the last. -/
def lockFront (owner : ProcessIdentity) : List Bytes :=
  (lockLines owner).dropLast

/-- The line of the boot identity. -/
def bootLine (owner : ProcessIdentity) : Bytes :=
  utf8 "boot=" ++ encodeHex owner.bootId.bytes

theorem lockLines_eq : lockLines owner = lockFront owner ++ [bootLine owner] :=
  rfl

theorem encodeLockOwner_eq :
    encodeLockOwner owner = terminated (lockFront owner) ++ bootLine owner ++ [10] := by
  rw [encodeLockOwner, lockLines_eq, terminated, List.flatMap_append, List.flatMap_singleton,
    List.append_assoc, terminated]

/-- The lines of a content that may break off in the last one. -/
theorem textLines_front {rest : Bytes} (clean : 10 ∉ rest) :
    textLines (terminated (lockFront owner) ++ rest) =
      lockFront owner ++ if rest.isEmpty then [] else [rest] :=
  textLines_terminated (fun _ member => lockLines_clean (List.mem_of_mem_dropLast member)) clean

theorem textLines_of_names (names : Names owner content) : textLines content = lockLines owner := by
  rcases names with rfl | names
  · have read : textLines (terminated (lockLines owner) ++ []) = lockLines owner ++ [] :=
      textLines_terminated (fun _ member => lockLines_clean member) List.not_mem_nil
    simpa [encodeLockOwner] using read
  · rw [encodeLockOwner_eq] at names
    have own : bootLine owner ∈ lockLines owner := by simp [lockLines_eq]
    rw [List.append_cancel_right names, textLines_front (lockLines_clean own).1, lockLines_eq]
    rfl

theorem decodeHex16_encodeHex (bootId : Block 16) :
    decodeHex16 (encodeHex bootId.bytes) = some bootId := by
  have length : (encodeHex bootId.bytes).length = 32 := by
    rw [encodeHex_length, bootId.length_eq]
  rw [decodeHex16, if_neg (not_not.mpr length)]
  simp only [decodeHex, decodeHexPairs_encodeHex, Option.bind_eq_bind, Option.bind_some]
  exact dif_pos bootId.length_eq

theorem parseLockNumber_decimal {bound value : Nat} (message : String) (fits : value < bound) :
    parseLockNumber bound message (decimal value) = .ok value := by
  simp only [parseLockNumber, parseUnsigned_decimal fits]

/-- The owner is read back from its content, also without the final newline. -/
theorem parseLockOwner_of_names (strong : owner.Strong) (names : Names owner content) :
    parseLockOwner content = .ok owner := by
  have text : isUtf8 content = true := by
    refine isUtf8_of_ascii fun byte member => ?_
    have inside : byte ∈ encodeLockOwner owner → byte < 128 := ascii_encodeLockOwner byte
    refine inside ?_
    rcases names with rfl | names
    · exact member
    · rw [← names]
      exact List.mem_append_left _ member
  have pid : parseLockField (utf8 "pid=" ++ decimal owner.pid.toNat) (utf8 "pid") =
      .ok (decimal owner.pid.toNat) := parseLockField_append decimal_ne_nil
  have start : parseLockField (utf8 "start=" ++ decimal owner.generation.toNat) (utf8 "start") =
      .ok (decimal owner.generation.toNat) := parseLockField_append decimal_ne_nil
  have boot : parseLockField (utf8 "boot=" ++ encodeHex owner.bootId.bytes) (utf8 "boot") =
      .ok (encodeHex owner.bootId.bytes) := by
    refine parseLockField_append fun none => ?_
    have length := encodeHex_length owner.bootId.bytes
    rw [none, owner.bootId.length_eq] at length
    cases length
  have made : ProcessIdentity.withBootId owner.pid owner.generation owner.bootId = .ok owner :=
    ProcessIdentity.withBootId_eq_ok_iff.mpr ⟨rfl, strong⟩
  simp only [parseLockOwner, text, textLines_of_names names, lockLines]
  rw [pid, start, boot]
  simp only [bind, Except.bind, parseLockNumber_decimal _ owner.pid.toNat_lt,
    parseLockNumber_decimal _ owner.generation.toNat_lt, decodeHex16_encodeHex,
    UInt32.ofNat_toNat, UInt64.ofNat_toNat, made]
  rfl

/-- An owner that is read has four lines, the last with 32 digits. -/
theorem boot_of_parseLockOwner {other : ProcessIdentity} (ok : parseLockOwner content = .ok other) :
    ∃ version pid start boot value, textLines content = [version, pid, start, boot] ∧
      parseLockField boot (utf8 "boot") = .ok value ∧ value.length = 32 := by
  unfold parseLockOwner at ok
  split at ok
  · cases ok
  · split at ok
    · rename_i version pid start boot lines
      dsimp only at ok
      split at ok
      · cases ok
      obtain ⟨_, -, ok⟩ := Results.bind_eq_ok_iff.mp ok
      obtain ⟨_, -, ok⟩ := Results.bind_eq_ok_iff.mp ok
      obtain ⟨_, -, ok⟩ := Results.bind_eq_ok_iff.mp ok
      obtain ⟨_, -, ok⟩ := Results.bind_eq_ok_iff.mp ok
      obtain ⟨value, field, ok⟩ := Results.bind_eq_ok_iff.mp ok
      refine ⟨version, pid, start, boot, value, lines, field, ?_⟩
      by_cases length : value.length = 32
      · exact length
      · rw [decodeHex16, if_pos length] at ok
        cases ok
    · cases ok

/-- What is left of a content that breaks off names the owner if it names anyone. -/
theorem names_of_parseLockOwner {other : ProcessIdentity}
    (begins : content <+: encodeLockOwner owner) (ok : parseLockOwner content = .ok other) :
    Names owner content := by
  rcases prefix_terminated begins with whole | ⟨front, line, back, rest, split, rfl, inside⟩
  · exact .inl whole
  · have clean : 10 ∉ line ∧ ∀ own ∈ front, 10 ∉ own ∧ own.getLast? ≠ some 13 := by
      have own (some : Bytes) (member : some ∈ lockLines owner) := lockLines_clean member
      refine ⟨(own line (by simp [split])).1, fun other member => own other ?_⟩
      simp [split, member]
    have lines : textLines (terminated front ++ rest) =
        front ++ if rest.isEmpty then [] else [rest] :=
      textLines_terminated clean.2 fun newline => clean.1 (inside.subset newline)
    obtain ⟨version, pid, start, boot, value, read, field, length⟩ := boot_of_parseLockOwner ok
    rw [lines] at read
    have all : (lockLines owner).length = 4 := rfl
    -- Four lines are read only when the content breaks off in the last one.
    cases rest with
    | nil =>
        have four := congrArg List.length read
        simp only [List.isEmpty_nil, if_true, List.append_nil, List.length_cons,
          List.length_nil] at four
        rw [split, List.length_append, List.length_cons, four] at all
        omega
    | cons byte rest =>
        have four := congrArg List.length read
        simp only [List.isEmpty_cons, Bool.false_eq_true, if_false, List.length_append,
          List.length_cons, List.length_nil] at four
        rw [split, List.length_append, List.length_cons] at all
        obtain rfl : back = [] := List.eq_nil_of_length_eq_zero (by omega)
        obtain ⟨rfl, same⟩ := List.append_inj' (lockLines_eq.symm.trans split) rfl
        have last : boot = byte :: rest := by
          have reads := congrArg List.getLast? read
          simpa using reads.symm
        have whole : byte :: rest = utf8 "boot=" ++ value := by
          rw [← last]
          exact parseLockField_eq_ok field
        cases same
        refine .inr ?_
        rw [encodeLockOwner_eq, whole]
        have part : value <+: encodeHex owner.bootId.bytes := by
          rw [whole] at inside
          exact (List.prefix_append_right_inj _).mp inside
        have same : value = encodeHex owner.bootId.bytes := by
          refine part.eq_of_length ?_
          rw [length, encodeHex_length, owner.bootId.length_eq]
        rw [same, bootLine]

end Owner

end Sysboost.State
