import Sysboost.Core.Checksum
import Sysboost.Core.Codec.Record

/-!
# State records on disk

A state record is a frame around the payload: magic, format version, payload
length, payload, checksum.  `encode` frames only validated records, `decode`
accepts only frames whose payload decodes, without a rest, to a valid record.
-/

namespace Sysboost.Core

open ByteCodec Results

/-- State-file format version. -/
def stateFormatVersion : Nat := 1

/-- `*b"SYSBST01"`. -/
def magic : Bytes :=
  utf8 "SYSBST01"

/-- The bytes around a payload. -/
def frame (payload : Bytes) : Bytes :=
  magic ++ toBigEndian 2 stateFormatVersion ++ toBigEndian 4 payload.length ++ payload ++
    checksum payload

namespace SessionRecord

/-- Encode a bounded, checksummed state record. -/
def encode (record : SessionRecord) : Except SysboostError Bytes := do
  record.validateForSerialization
  let payload ← encodePayload record
  if magic.length + 2 + 4 + payload.length + 32 > maxSessionRecordBytes then
    throw (((SysboostError.new .durabilityError
      "session record exceeds the durable state-file bound").withStage
      .durableIntent).withSession record.sessionId)
  return frame payload

/-- Decode and validate a checksummed state record. -/
def decode (bytes : Bytes) : Except SysboostError SessionRecord := do
  rejectIf (bytes.length > maxSessionRecordBytes || bytes.length < magic.length + 2 + 4 + 32)
    "state record length is invalid"
  rejectIf (bytes.take magic.length != magic) "state record magic is invalid"
  rejectIf (ofBigEndian ((bytes.drop 8).take 2) != stateFormatVersion)
    "state record version is unsupported"
  -- The offsets stay far below the range of `usize`, so no addition overflows.
  let payloadLen := ofBigEndian ((bytes.drop 10).take 4)
  rejectIf (14 + payloadLen + 32 != bytes.length) "state payload length does not match the file"
  let payload := (bytes.drop 14).take payloadLen
  rejectIf (checksum payload != bytes.drop (14 + payloadLen))
    "state record checksum does not match"
  let (record, rest) ← decodePayload.run payload
  rejectIf (!rest.isEmpty) "state record contains trailing bytes"
  record.validateForSerialization
  return record

end SessionRecord

/-! ## The frame -/

theorem magic_length : magic.length = 8 := by
  decide

@[simp]
theorem frame_length (payload : Bytes) : (frame payload).length = 46 + payload.length := by
  simp only [frame, List.length_append, magic_length, toBigEndian_length, checksum_length]
  omega

section Parts

variable (payload : Bytes)

/-- The four parts before the payload are fourteen bytes long. -/
theorem frame_eq_append : frame payload =
    (magic ++ toBigEndian 2 stateFormatVersion ++ toBigEndian 4 payload.length) ++
      (payload ++ checksum payload) := by
  simp [frame]

theorem frame_drop_fourteen : (frame payload).drop 14 = payload ++ checksum payload := by
  rw [frame_eq_append]
  exact List.drop_left' (by simp [magic_length])

theorem frame_take_magic : (frame payload).take magic.length = magic := by
  simp [frame, List.append_assoc]

theorem frame_version :
    ofBigEndian (((frame payload).drop 8).take 2) = stateFormatVersion := by
  have behind : (frame payload).drop 8 = toBigEndian 2 stateFormatVersion ++
      (toBigEndian 4 payload.length ++ payload ++ checksum payload) := by
    simp only [frame, List.append_assoc]
    exact List.drop_left' magic_length
  rw [behind, List.take_left' (by simp)]
  rfl

theorem frame_payloadLen (small : payload.length < 2 ^ 32) :
    ofBigEndian (((frame payload).drop 10).take 4) = payload.length := by
  have behind : (frame payload).drop 10 = toBigEndian 4 payload.length ++
      (payload ++ checksum payload) := by
    rw [frame_eq_append, List.append_assoc]
    exact List.drop_left' (by simp [magic_length])
  rw [behind, List.take_left' (by simp)]
  exact ofBigEndian_toBigEndian small

end Parts

/-- Bytes with the right header, length and checksum are a frame. -/
theorem eq_frame {bytes payload : Bytes} (magicOk : bytes.take 8 = magic)
    (versionOk : (bytes.drop 8).take 2 = toBigEndian 2 stateFormatVersion)
    (lengthOk : (bytes.drop 10).take 4 = toBigEndian 4 payload.length)
    (bodyOk : bytes.drop 14 = payload ++ checksum payload) : bytes = frame payload := by
  have ten : bytes.drop 10 = (bytes.drop 8).drop 2 := by rw [List.drop_drop]
  have fourteen : bytes.drop 14 = (bytes.drop 10).drop 4 := by rw [List.drop_drop]
  have whole : bytes = bytes.take 8 ++ ((bytes.drop 8).take 2 ++ ((bytes.drop 10).take 4 ++
      bytes.drop 14)) := by
    rw [fourteen, List.take_append_drop, ten, List.take_append_drop, List.take_append_drop]
  rw [whole, magicOk, versionOk, lengthOk, bodyOk]
  simp only [frame, List.append_assoc]

namespace SessionRecord

theorem encode_eq_ok_iff {record : SessionRecord} {bytes : Bytes} :
    record.encode = .ok bytes ↔
      record.validateForSerialization = .ok () ∧ ∃ payload, encodePayload record = .ok payload ∧
        46 + payload.length ≤ maxSessionRecordBytes ∧ bytes = frame payload := by
  unfold encode
  rw [bind_eq_ok_iff]
  constructor
  · rintro ⟨_, valid, rest⟩
    rcases bind_eq_ok_iff.mp rest with ⟨payload, encoded, framed⟩
    refine ⟨valid, payload, encoded, ?_⟩
    rw [magic_length] at framed
    by_cases large : 8 + 2 + 4 + payload.length + 32 > maxSessionRecordBytes
    · rw [if_pos large] at framed
      cases framed
    · rw [if_neg large] at framed
      cases framed
      exact ⟨by omega, rfl⟩
  · rintro ⟨valid, payload, encoded, small, rfl⟩
    refine ⟨(), valid, bind_eq_ok_iff.mpr ⟨payload, encoded, ?_⟩⟩
    rw [magic_length, if_neg (by omega)]
    rfl

theorem decode_eq_ok_iff {bytes : Bytes} {record : SessionRecord} :
    decode bytes = .ok record ↔
      ∃ payload, bytes = frame payload ∧ 46 + payload.length ≤ maxSessionRecordBytes ∧
        decodePayload.run payload = .ok (record, []) ∧
        record.validateForSerialization = .ok () := by
  have limit : maxSessionRecordBytes < 2 ^ 32 := by decide
  unfold decode
  simp only [rejectIf_bind_eq_ok_iff, magic_length, Bool.or_eq_false_iff,
    decide_eq_false_iff_not, bne_eq_false_iff_eq]
  constructor
  · rintro ⟨⟨small, long⟩, magicOk, versionOk, lengthOk, checksumOk, decodedOk⟩
    rcases bind_eq_ok_iff.mp decodedOk with ⟨⟨decoded, rest⟩, read, accepted⟩
    rcases rejectIf_bind_eq_ok_iff.mp accepted with ⟨restOk, validated⟩
    rcases bind_eq_ok_iff.mp validated with ⟨_, valid, returned⟩
    cases returned
    have rest_eq : rest = [] := by simpa using restOk
    subst rest
    have payload_length : ((bytes.drop 14).take (ofBigEndian ((bytes.drop 10).take 4))).length =
        ofBigEndian ((bytes.drop 10).take 4) := by
      rw [List.length_take, List.length_drop]
      omega
    refine ⟨_, eq_frame magicOk (field_eq_toBigEndian (by omega) versionOk)
      (field_eq_toBigEndian (by omega) payload_length.symm) ?_, by omega, read, valid⟩
    rw [checksumOk, ← List.drop_drop, List.take_append_drop]
  · rintro ⟨payload, rfl, small, read, valid⟩
    have lengthOk := frame_payloadLen payload (by omega)
    have body : ((frame payload).drop 14).take payload.length = payload := by
      rw [frame_drop_fourteen]
      exact List.take_left' rfl
    have trailer : (frame payload).drop (14 + payload.length) = checksum payload := by
      rw [← List.drop_drop, frame_drop_fourteen]
      exact List.drop_left' rfl
    rw [lengthOk, body, trailer, frame_length]
    refine ⟨⟨by omega, by omega⟩, ?_, frame_version payload, by omega, rfl, ?_⟩
    · have front := frame_take_magic payload
      rwa [magic_length] at front
    · refine bind_eq_ok_iff.mpr ⟨(record, []), read, ?_⟩
      refine rejectIf_bind_eq_ok_iff.mpr ⟨rfl, ?_⟩
      exact bind_eq_ok_iff.mpr ⟨(), valid, rfl⟩

/-- A record of checked values is read back from its encoding. -/
theorem decode_of_encode {record : SessionRecord} {bytes : Bytes} (checked : record.Checked)
    (encoded : record.encode = .ok bytes) : decode bytes = .ok record := by
  rcases encode_eq_ok_iff.mp encoded with ⟨valid, payload, payloadOk, small, rfl⟩
  have read := reads_payload checked payload [] payloadOk
  rw [List.append_nil] at read
  exact decode_eq_ok_iff.mpr ⟨payload, rfl, small, read, valid⟩

/-- A decoded record consists of checked values and fits into a state record. -/
theorem encode_of_decode {bytes : Bytes} {record : SessionRecord}
    (decoded : decode bytes = .ok record) :
    record.Checked ∧ ∃ again, record.encode = .ok again := by
  rcases decode_eq_ok_iff.mp decoded with ⟨payload, rfl, small, read, valid⟩
  rcases rewrites_payload read with ⟨again, ⟨againOk, checked⟩, fits⟩
  rw [List.length_nil] at fits
  exact ⟨checked, _, encode_eq_ok_iff.mpr ⟨valid, again, againOk, by omega, rfl⟩⟩

end SessionRecord

/-! ## The durable format -/

/-- The mutation of the source's fixtures: one CPU governor change. -/
def governorMutation : PlannedMutation where
  mutationId := ⟨1⟩
  capability := ⟨"cpu.policy.governor", by decide⟩
  target := ⟨"cpu.policy.0", by decide⟩
  kind := .cpuGovernor ⟨0⟩ ⟨"performance", by decide⟩
  desired := .governor ⟨"performance", by decide⟩
  precondition := ⟨.fill 32 1⟩
  equality := .scalarExact
  dependencies := []
  rollback := ⟨.scalarExact, .compareAndRestore⟩

/-- The record of the source's round-trip test. -/
def governorRecord : SessionRecord where
  session := ⟨⟨⟨.fill 16 2⟩, ⟨.fill 16 3⟩, .fill 32 4, .fromUnixMillis 7,
    [governorMutation.target]⟩, .detected⟩
  operations := [.planned governorMutation]
  transitions := [⟨1, ⟨.fill 16 2⟩, .new, .detected, .fromUnixMillis 8, "fixture detection"⟩]
  failures := []

/-- The state file of `governorRecord`. -/
def governorBytes : Bytes :=
  governorRecord.encode.toOption.getD []

theorem governorRecord_checked : governorRecord.Checked := by
  intro operation member
  rcases List.mem_singleton.mp member with rfl
  exact ⟨by decide, by simp [OperationRecord.planned]⟩

theorem governorRecord_encode : governorRecord.encode = .ok governorBytes := by
  decide +kernel

namespace SessionRecord

/-- **Round trip.**  Every record of checked values is read back from the bytes
it encodes to. -/
theorem journal_round_trip (record : SessionRecord) (bytes : Bytes) (checked : record.Checked)
    (encoded : record.encode = .ok bytes) : decode bytes = .ok record :=
  decode_of_encode checked encoded

theorem journal_round_trip_governor : decode governorBytes = .ok governorRecord :=
  journal_round_trip governorRecord governorBytes governorRecord_checked governorRecord_encode

/-- **Recovered journals can be rewritten.**  Whatever is accepted from disk
passes validation, can be encoded again, and is then read back. -/
theorem journal_rewrite (bytes : Bytes) (record : SessionRecord)
    (decoded : decode bytes = .ok record) :
    record.validateForSerialization = .ok () ∧
      ∃ again, record.encode = .ok again ∧ decode again = .ok record := by
  rcases encode_of_decode decoded with ⟨checked, again, encoded⟩
  exact ⟨(encode_eq_ok_iff.mp encoded).1, again, encoded, decode_of_encode checked encoded⟩

theorem journal_rewrite_governor :
    governorRecord.validateForSerialization = .ok () ∧
      ∃ again, governorRecord.encode = .ok again ∧ decode again = .ok governorRecord :=
  journal_rewrite governorBytes governorRecord (by decide +kernel)

end SessionRecord

/-! ## Corruption -/

/-- Two frames never differ in exactly one byte. -/
theorem frame_not_oneByteApart {first second : Bytes} :
    ¬ OneByteApart (frame first) (frame second) := by
  intro apart
  have same_length : first.length = second.length := by
    have lengths := apart.length_eq
    rw [frame_length, frame_length] at lengths
    omega
  have aligned := apart
  rw [frame_eq_append, frame_eq_append, same_length] at aligned
  rcases aligned.split_append rfl with ⟨header, -⟩ | ⟨-, body⟩
  · exact header.ne rfl
  · rcases body.split_append same_length with ⟨differ, same⟩ | ⟨same, -⟩
    · exact checksum_ne_of_oneByteApart differ same
    · exact apart.ne (congrArg frame same)

/-- A frame is no proper prefix of another frame of admissible length. -/
theorem frame_eq_of_initial {first second : Bytes} (firstSmall : first.length < 2 ^ 32)
    (secondSmall : second.length < 2 ^ 32) (isPrefix : frame first <+: frame second) :
    frame first = frame second := by
  apply isPrefix.eq_of_length
  rcases isPrefix with ⟨more, whole⟩
  have field (start count : Nat) (inside : start + count ≤ (frame first).length) :
      ((frame first).drop start).take count = ((frame second).drop start).take count := by
    rw [← whole, List.drop_append_of_le_length (by omega),
      List.take_append_of_le_length (by rw [List.length_drop]; omega)]
  have lengths := field 10 4 (by rw [frame_length]; omega)
  have same_length : first.length = second.length := by
    rw [← frame_payloadLen first firstSmall, lengths, frame_payloadLen second secondSmall]
  rw [frame_length, frame_length, same_length]

namespace SessionRecord

/-- Nothing but a frame is accepted. -/
theorem decode_error_of_ne_frame {bytes : Bytes}
    (never : ∀ payload, 46 + payload.length ≤ maxSessionRecordBytes → bytes ≠ frame payload) :
    ∃ error, decode bytes = .error error := by
  cases decoded : decode bytes with
  | error error => exact ⟨error, rfl⟩
  | ok record =>
      rcases decode_eq_ok_iff.mp decoded with ⟨payload, framed, small, -⟩
      exact absurd framed (never payload small)

/-- **Corruption is detected.**  A string that differs from an encoding in
exactly one byte, a proper prefix and a proper extension are all rejected. -/
theorem journal_corruption_rejected (record : SessionRecord) (bytes : Bytes)
    (encoded : record.encode = .ok bytes) :
    (∀ other, OneByteApart bytes other → ∃ error, decode other = .error error) ∧
      (∀ other, other <+: bytes → other ≠ bytes → ∃ error, decode other = .error error) ∧
      ∀ other, bytes <+: other → other ≠ bytes → ∃ error, decode other = .error error := by
  have limit : maxSessionRecordBytes < 2 ^ 32 := by decide
  rcases encode_eq_ok_iff.mp encoded with ⟨-, payload, -, small, rfl⟩
  refine ⟨?_, ?_, ?_⟩
  · intro other apart
    apply decode_error_of_ne_frame
    rintro payload' - rfl
    exact frame_not_oneByteApart apart
  · intro other isPrefix proper
    apply decode_error_of_ne_frame
    rintro payload' small' rfl
    exact proper (frame_eq_of_initial (by omega) (by omega) isPrefix)
  · intro other isPrefix proper
    apply decode_error_of_ne_frame
    rintro payload' small' rfl
    exact proper (frame_eq_of_initial (by omega) (by omega) isPrefix).symm

theorem journal_corruption_rejected_governor :
    ∃ error, decode (governorBytes ++ [0]) = .error error :=
  (journal_corruption_rejected governorRecord governorBytes governorRecord_encode).2.2 _
    (List.prefix_append _ _) (by simp)

end SessionRecord

end Sysboost.Core
