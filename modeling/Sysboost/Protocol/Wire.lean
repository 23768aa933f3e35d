import Sysboost.ByteCodec.Canonical
import Sysboost.Protocol.Message

/-!
# The wire protocol is a bijection on its image

Every message has a frame, a frame is accepted only as the frame of the
message it stands for, and no frame stands for a request and for a response.
-/

namespace Sysboost.Protocol

open Sysboost.Core ByteCodec Results

/-- The ID that was made has the number it was made from. -/
theorem RequestId.get_of_new {value : UInt64} {requestId : RequestId}
    (made : RequestId.new value = .ok requestId) : requestId.get = value := by
  unfold RequestId.new at made
  split at made
  · cases made
    rfl
  · cases made

/-! ## Frames -/

/-- Whatever is taken apart is the frame of its parts. -/
theorem frame_of_unframe {tag : UInt8} {payload bytes : Bytes}
    (ok : unframe bytes = .ok (tag, payload)) : frame tag payload = .ok bytes := by
  unfold unframe at ok
  split at ok
  · cases ok
  next fits =>
  split at ok
  · cases ok
  next front =>
  split at ok
  · cases ok
  next version =>
  split at ok
  · cases ok
  next declared =>
  rw [Except.ok.injEq, Prod.mk.injEq] at ok
  obtain ⟨rfl, rfl⟩ := ok
  simp only [Bool.or_eq_true, decide_eq_true_eq, not_or, not_lt] at fits
  simp only [ne_eq, not_not] at front version declared
  have versionBytes := field_eq_toBigEndian (by omega) version
  have lengthBytes := field_eq_toBigEndian (by omega) declared
  have tagByte : (bytes.drop 6).take 1 = [bytes.getD 6 0] := by
    rw [List.take_one, List.head?_drop, List.getD_eq_getElem?_getD,
      List.getElem?_eq_getElem (by omega)]
    rfl
  have pieces : bytes.take 4 ++ ((bytes.drop 4).take 2 ++ ((bytes.drop 6).take 1 ++
      ((bytes.drop 7).take 4 ++ bytes.drop 11))) = bytes := by
    have next : ∀ start count, (bytes.drop start).take count ++ bytes.drop (start + count) =
        bytes.drop start := by
      intro start count
      rw [← List.drop_drop, List.take_append_drop]
    rw [next 7 4, next 6 1, next 4 2, List.take_append_drop]
  have small : ¬ 4 + 2 + 1 + 4 + (bytes.drop 11).length > maxFrameBytes := by
    rw [List.length_drop]
    omega
  rw [frame, if_neg small, Except.ok.injEq, List.length_drop, ← front, ← versionBytes,
    ← tagByte, ← lengthBytes]
  simpa only [List.append_assoc] using pieces

/-- Frames and their parts determine each other. -/
theorem unframe_eq_ok_iff {tag : UInt8} {payload bytes : Bytes} :
    unframe bytes = .ok (tag, payload) ↔ frame tag payload = .ok bytes :=
  ⟨frame_of_unframe, unframe_frame⟩

/-! ## Payloads -/

/-- A whole payload is what is written for the value read from it. -/
theorem written_of_readAll {α : Type} {reader : Cursor α} {written : α → Bytes → Prop}
    {payload : Bytes} {value : α} (known : Consumes reader written)
    (ok : readAll reader payload = .ok value) : written value payload := by
  unfold readAll at ok
  cases run : reader.run payload with
  | error error =>
      rw [run] at ok
      cases ok
  | ok outcome =>
      obtain ⟨read, rest⟩ := outcome
      rw [run] at ok
      cases rest with
      | cons byte rest => cases ok
      | nil =>
          cases ok
          obtain ⟨front, holds, rfl⟩ := known run
          rwa [List.append_nil]

theorem consumes_u8 :
    Consumes Cursor.u8 fun value bytes => bytes = toBigEndian 1 value.toNat := by
  refine Consumes.bind (Consumes.word truncatedPayload 1) fun value front known => ?_
  obtain ⟨bound, rfl⟩ := known
  have small : value < 2 ^ 8 := bound
  apply Consumes.pure
  rw [List.append_nil, UInt8.toNat_ofNat', Nat.mod_eq_of_lt small]

theorem consumes_u64 :
    Consumes Cursor.u64 fun value bytes => bytes = toBigEndian 8 value.toNat := by
  refine Consumes.bind (Consumes.word truncatedPayload 8) fun value front known => ?_
  obtain ⟨bound, rfl⟩ := known
  have small : value < 2 ^ 64 := bound
  apply Consumes.pure
  rw [List.append_nil, UInt64.toNat_ofNat', Nat.mod_eq_of_lt small]

theorem consumes_requestId :
    Consumes Cursor.requestId fun value bytes => bytes = toBigEndian 8 value.get.toNat := by
  refine Consumes.bind consumes_u64 fun value front known => ?_
  subst known
  refine Consumes.lift fun requestId made => ?_
  rw [RequestId.get_of_new made, List.append_nil]

theorem consumes_planId : Consumes Cursor.planId fun value bytes => bytes = value.bytes.bytes := by
  refine Consumes.bind (Consumes.block truncatedPayload 16) fun value front known => ?_
  subst known
  exact Consumes.pure (List.append_nil _)

theorem consumes_sessionId :
    Consumes Cursor.sessionId fun value bytes => bytes = value.bytes.bytes := by
  refine Consumes.bind (Consumes.block truncatedPayload 16) fun value front known => ?_
  subst known
  exact Consumes.pure (List.append_nil _)

/-! ## Requests -/

namespace Request

/-- The fields of an accepted request are the ones written for it. -/
theorem consumes_fields (tag : UInt8) :
    Consumes (do fields tag (← Cursor.requestId)) fun request bytes =>
      request.tag = tag ∧ Put.seq request.payload = .ok bytes := by
  refine Consumes.bind consumes_requestId fun requestId front known => ?_
  subst known
  unfold fields
  split
  · refine Consumes.bind consumes_planId fun planId front known => ?_
    subst known
    refine Consumes.bind (Consumes.block truncatedPayload 32) fun planDigest front known => ?_
    subst known
    exact Consumes.pure ⟨rfl, by simp [payload, Put.seq, putRequestId, Put.word]⟩
  · refine Consumes.bind consumes_sessionId fun sessionId front known => ?_
    subst known
    exact Consumes.pure ⟨rfl, by simp [payload, twoIds, Put.seq, putRequestId, Put.word]⟩
  · refine Consumes.bind consumes_sessionId fun sessionId front known => ?_
    subst known
    exact Consumes.pure ⟨rfl, by simp [payload, twoIds, Put.seq, putRequestId, Put.word]⟩
  · refine Consumes.bind consumes_sessionId fun sessionId front known => ?_
    subst known
    exact Consumes.pure ⟨rfl, by simp [payload, twoIds, Put.seq, putRequestId, Put.word]⟩
  · exact Consumes.lift fun _ impossible => by cases impossible

/-- A frame is accepted as the request it is written for, and only as that. -/
theorem decode_eq_ok_iff {request : Request} {bytes : Bytes} :
    decode bytes = .ok request ↔ request.encode = .ok bytes := by
  constructor
  · intro ok
    obtain ⟨⟨tag, payload⟩, unframed, read⟩ := bind_eq_ok_iff.mp ok
    obtain ⟨rfl, written⟩ := written_of_readAll (consumes_fields tag) read
    exact bind_eq_ok_iff.mpr ⟨payload, written, frame_of_unframe unframed⟩
  · exact decode_encode

/-- Every request has a frame. -/
theorem exists_encode (request : Request) : ∃ bytes, request.encode = .ok bytes := by
  have written : ∃ payload, Put.seq request.payload = .ok payload ∧ payload.length ≤ 56 := by
    cases request <;> simp [payload, twoIds, Put.seq, putRequestId, Put.word, Block.length_eq]
  obtain ⟨payload, written, short⟩ := written
  have small : ¬ 4 + 2 + 1 + 4 + payload.length > maxFrameBytes := by
    rw [maxFrameBytes]
    omega
  exact ⟨_, bind_eq_ok_iff.mpr ⟨payload, written, if_neg small⟩⟩

end Request

/-! ## Responses -/

theorem stateTag_of_stateFromTag {tag : UInt8} {state : SessionState}
    (known : stateFromTag tag = .ok state) : stateTag state = tag := by
  unfold stateFromTag at known
  split at known <;> cases known <;> rfl

theorem errorTag_of_errorFromTag {tag : Nat} {code : ErrorCode}
    (known : errorFromTag tag = .ok code) : errorTag code = tag := by
  unfold errorFromTag at known
  split at known <;> cases known <;> rfl

namespace Response

/-- The fields of an accepted response are the ones written for it. -/
theorem consumes_fields (tag : UInt8) :
    Consumes (do fields tag (← Cursor.requestId)) fun response bytes =>
      response.tag = tag ∧ Put.seq response.payload = .ok bytes := by
  refine Consumes.bind consumes_requestId fun requestId front known => ?_
  subst known
  unfold fields
  split
  · refine Consumes.bind consumes_sessionId fun sessionId front known => ?_
    subst known
    exact Consumes.pure ⟨rfl, by simp [payload, twoIds, Put.seq, putRequestId, Put.word]⟩
  · refine Consumes.bind consumes_sessionId fun sessionId front known => ?_
    subst known
    refine Consumes.bind consumes_u8 fun byte front known => ?_
    subst known
    have state : Consumes (Get.lift (stateFromTag byte)) fun state bytes =>
        stateTag state = byte ∧ bytes = [] :=
      Consumes.lift fun _ known => ⟨stateTag_of_stateFromTag known, rfl⟩
    refine Consumes.bind state fun state front known => ?_
    obtain ⟨rfl, rfl⟩ := known
    exact Consumes.pure ⟨rfl, by simp [payload, twoIds, Put.seq, putRequestId, Put.word]⟩
  · have reason : Consumes Cursor.u16 fun value bytes => bytes = toBigEndian 2 value := by
      intro _ _ _ ok
      obtain ⟨front, known, same⟩ := Consumes.word truncatedPayload 2 ok
      exact ⟨front, known.2, same⟩
    refine Consumes.bind reason fun value front known => ?_
    subst known
    have code : Consumes (Get.lift (errorFromTag value)) fun code bytes =>
        errorTag code = value ∧ bytes = [] :=
      Consumes.lift fun _ known => ⟨errorTag_of_errorFromTag known, rfl⟩
    refine Consumes.bind code fun code front known => ?_
    obtain ⟨rfl, rfl⟩ := known
    exact Consumes.pure ⟨rfl, by simp [payload, Put.seq, putRequestId, Put.word]⟩
  · exact Consumes.lift fun _ impossible => by cases impossible

/-- A frame is accepted as the response it is written for, and only as that. -/
theorem decode_eq_ok_iff {response : Response} {bytes : Bytes} :
    decode bytes = .ok response ↔ response.encode = .ok bytes := by
  constructor
  · intro ok
    obtain ⟨⟨tag, payload⟩, unframed, read⟩ := bind_eq_ok_iff.mp ok
    obtain ⟨rfl, written⟩ := written_of_readAll (consumes_fields tag) read
    exact bind_eq_ok_iff.mpr ⟨payload, written, frame_of_unframe unframed⟩
  · exact decode_encode

/-- Every response has a frame. -/
theorem exists_encode (response : Response) : ∃ bytes, response.encode = .ok bytes := by
  have written : ∃ payload, Put.seq response.payload = .ok payload ∧ payload.length ≤ 25 := by
    cases response <;> simp [payload, twoIds, Put.seq, putRequestId, Put.word, Block.length_eq]
  obtain ⟨payload, written, short⟩ := written
  have small : ¬ 4 + 2 + 1 + 4 + payload.length > maxFrameBytes := by
    rw [maxFrameBytes]
    omega
  exact ⟨_, bind_eq_ok_iff.mpr ⟨payload, written, if_neg small⟩⟩

end Response

/-! ## Both together -/

theorem Request.unframe_of_encode {request : Request} {bytes : Bytes}
    (ok : request.encode = .ok bytes) : ∃ payload, unframe bytes = .ok (request.tag, payload) := by
  obtain ⟨payload, -, framed⟩ := bind_eq_ok_iff.mp ok
  exact ⟨payload, unframe_frame framed⟩

theorem Response.unframe_of_encode {response : Response} {bytes : Bytes}
    (ok : response.encode = .ok bytes) : ∃ payload, unframe bytes = .ok (response.tag, payload) := by
  obtain ⟨payload, -, framed⟩ := bind_eq_ok_iff.mp ok
  exact ⟨payload, unframe_frame framed⟩

/-- The two kinds of messages share no tag. -/
theorem tag_ne_tag (request : Request) (response : Response) : request.tag ≠ response.tag := by
  cases request <;> cases response <;> simp [Request.tag, Response.tag]

/-- Both codecs are total bijections onto the frames they accept, and no frame
is accepted by both. -/
theorem wire_bijection :
    (∀ request : Request, ∃ bytes, request.encode = .ok bytes) ∧
      (∀ response : Response, ∃ bytes, response.encode = .ok bytes) ∧
      (∀ bytes request, Request.decode bytes = .ok request ↔ request.encode = .ok bytes) ∧
      (∀ bytes response, Response.decode bytes = .ok response ↔ response.encode = .ok bytes) ∧
      ∀ bytes request response,
        ¬ (Request.decode bytes = .ok request ∧ Response.decode bytes = .ok response) := by
  refine ⟨Request.exists_encode, Response.exists_encode, fun _ _ => Request.decode_eq_ok_iff,
    fun _ _ => Response.decode_eq_ok_iff, ?_⟩
  rintro bytes request response ⟨asRequest, asResponse⟩
  obtain ⟨payload, first⟩ := Request.unframe_of_encode (Request.decode_eq_ok_iff.mp asRequest)
  obtain ⟨other, second⟩ := Response.unframe_of_encode (Response.decode_eq_ok_iff.mp asResponse)
  rw [first] at second
  exact tag_ne_tag request response (Prod.mk.inj (Except.ok.inj second)).1

end Sysboost.Protocol
