import Sysboost.ByteCodec.Fields
import Sysboost.Core.Validate

/-!
# Controller and helper messages

A frame is a magic number, a version, a tag, the length of the payload and the
payload.  A request carries a plan identity with its digest or a session
identity, never a path, a command or an untyped value.
-/

namespace Sysboost.Protocol

open Sysboost.Core ByteCodec Results

/-- First protocol version. -/
def protocolVersion : Nat := 1
/-- Maximum encoded frame size accepted by the boundary. -/
def maxFrameBytes : Nat := 65536
def magic : Bytes := utf8 "SBP1"

def protocolError (message : String) : SysboostError :=
  .new .transportError message

/-- Monotonic request ID selected by the controller. -/
structure RequestId where
  get : UInt64
  nonzero : get ≠ 0
deriving DecidableEq

/-- Construct a non-zero request ID. -/
def RequestId.new (value : UInt64) : Except SysboostError RequestId :=
  if nonzero : value ≠ 0 then .ok ⟨value, nonzero⟩
  else .error (.new .invalidInput "request ID must be non-zero")

@[simp]
theorem RequestId.new_get (requestId : RequestId) : RequestId.new requestId.get = .ok requestId := by
  simp [RequestId.new, requestId.nonzero]

/-- Typed controller-to-helper request. -/
inductive Request where
  | prepare (requestId : RequestId) (planId : PlanId) (planDigest : Block 32)
  | apply (requestId : RequestId) (sessionId : SessionId)
  | restore (requestId : RequestId) (sessionId : SessionId)
  | status (requestId : RequestId) (sessionId : SessionId)
deriving DecidableEq

/-- The correlation ID. -/
def Request.requestId : Request → RequestId
  | prepare requestId _ _ | apply requestId _ | restore requestId _ | status requestId _ =>
      requestId

/-- Typed helper-to-controller response. -/
inductive Response where
  | accepted (requestId : RequestId) (sessionId : SessionId)
  | status (requestId : RequestId) (sessionId : SessionId) (state : SessionState)
  | rejected (requestId : RequestId) (code : ErrorCode)
deriving DecidableEq

/-! ## Frames -/

def frame (tag : UInt8) (payload : Bytes) : Except SysboostError Bytes :=
  if 4 + 2 + 1 + 4 + payload.length > maxFrameBytes then
    .error (protocolError "protocol frame exceeds maximum size")
  else
    .ok (magic ++ toBigEndian 2 protocolVersion ++ [tag] ++ toBigEndian 4 payload.length ++
      payload)

def unframe (bytes : Bytes) : Except SysboostError (UInt8 × Bytes) :=
  if bytes.length > maxFrameBytes || bytes.length < 11 then
    .error (protocolError "protocol frame length is invalid")
  else if bytes.take 4 ≠ magic then .error (protocolError "protocol magic is invalid")
  else if ofBigEndian ((bytes.drop 4).take 2) ≠ protocolVersion then
    .error (protocolError "protocol version is unsupported")
  else if ofBigEndian ((bytes.drop 7).take 4) ≠ bytes.length - 11 then
    .error (protocolError "protocol payload length does not match frame")
  else .ok (bytes.getD 6 0, bytes.drop 11)

/-- A frame that was built is taken apart again. -/
theorem unframe_frame {tag : UInt8} {payload bytes : Bytes} (ok : frame tag payload = .ok bytes) :
    unframe bytes = .ok (tag, payload) := by
  unfold frame at ok
  split at ok
  · cases ok
  next small =>
    rw [Except.ok.injEq] at ok
    have version : toBigEndian 2 protocolVersion = [0, 1] := by decide
    have length : (toBigEndian 4 payload.length).length = 4 := toBigEndian_length 4 _
    have shape : bytes = [83, 66, 80, 49, 0, 1, tag] ++ (toBigEndian 4 payload.length ++ payload) := by
      rw [← ok, version, show magic = [83, 66, 80, 49] by decide]
      simp
    have size : bytes.length = payload.length + 11 := by
      simp [shape, length]
      omega
    have bound : payload.length < 256 ^ 4 := by
      rw [maxFrameBytes] at small
      omega
    have declared : ofBigEndian ((bytes.drop 7).take 4) = payload.length := by
      rw [shape, List.drop_left' (by rfl), List.take_left' length, ofBigEndian_toBigEndian bound]
    have rest : bytes.drop 11 = payload := by
      rw [show 11 = 7 + 4 by rfl, ← List.drop_drop, shape, List.drop_left' (by rfl),
        List.drop_left' length]
    have front : bytes.take 4 = magic ∧ (bytes.drop 4).take 2 = [0, 1] ∧
        bytes.getD 6 0 = tag := by
      rw [shape]
      exact ⟨(by decide : [83, 66, 80, 49] = magic), rfl, rfl⟩
    have fits : ¬ (bytes.length > maxFrameBytes || bytes.length < 11) = true := by
      simp only [Bool.or_eq_true, decide_eq_true_eq]
      rw [maxFrameBytes] at small ⊢
      omega
    unfold unframe
    rw [if_neg fits, front.1, front.2.1, front.2.2, declared, rest, size]
    simp [show ofBigEndian [0, 1] = protocolVersion by decide]

/-! ## Payloads -/

/-- Reader of a payload. -/
abbrev Cursor := Get SysboostError

/-- The error of `Cursor::take`. -/
def truncatedPayload : SysboostError :=
  protocolError "protocol payload is truncated"

namespace Cursor

def u8 : Cursor UInt8 := do
  return UInt8.ofNat (← Get.word truncatedPayload 1)

def u16 : Cursor Nat := Get.word truncatedPayload 2

def u64 : Cursor UInt64 := do
  return UInt64.ofNat (← Get.word truncatedPayload 8)

def requestId : Cursor RequestId := do
  Get.lift (RequestId.new (← u64))

def planId : Cursor PlanId := do
  return ⟨← Get.block truncatedPayload 16⟩

def sessionId : Cursor SessionId := do
  return ⟨← Get.block truncatedPayload 16⟩

end Cursor

/-- Read a whole payload; `cursor.finish()` refuses trailing bytes. -/
def readAll {α : Type} (reader : Cursor α) (payload : Bytes) : Except SysboostError α :=
  match reader.run payload with
  | .error error => .error error
  | .ok (value, rest) =>
      if rest.isEmpty then .ok value
      else .error (protocolError "protocol payload contains trailing bytes")

def putRequestId (requestId : RequestId) : Put SysboostError :=
  Put.word 8 requestId.get.toNat

/-- The payload of a request ID and a session ID. -/
def twoIds (requestId : RequestId) (sessionId : SessionId) : List (Put SysboostError) :=
  [putRequestId requestId, .ok sessionId.bytes.bytes]

theorem reads_u64 (value : UInt64) : Reads Cursor.u64 (Put.word 8 value.toNat) value := by
  have bound : value.toNat < 256 ^ 8 := value.toNat_lt
  refine Reads.bind_last (Reads.word truncatedPayload bound) ?_
  rw [UInt64.ofNat_toNat]
  exact Reads.pure value

theorem reads_requestId (requestId : RequestId) :
    Reads Cursor.requestId (putRequestId requestId) requestId :=
  Reads.bind_last (reads_u64 requestId.get) (Reads.lift requestId.new_get)

theorem reads_planId (planId : PlanId) :
    Reads Cursor.planId (.ok planId.bytes.bytes) planId :=
  Reads.bind_last (Reads.block truncatedPayload planId.bytes) (Reads.pure planId)

theorem reads_sessionId (sessionId : SessionId) :
    Reads Cursor.sessionId (.ok sessionId.bytes.bytes) sessionId :=
  Reads.bind_last (Reads.block truncatedPayload sessionId.bytes) (Reads.pure sessionId)

/-- A payload that is exactly what a writer produced. -/
theorem readAll_of_reads {α : Type} {reader : Cursor α} {writer : Put SysboostError} {value : α}
    {payload : Bytes} (reads : Reads reader writer value) (written : writer = .ok payload) :
    readAll reader payload = .ok value := by
  have run := reads payload [] written
  rw [List.append_nil] at run
  simp [readAll, run]

/-! ## Requests -/

namespace Request

/-- The fields behind the request ID. -/
def fields (tag : UInt8) (requestId : RequestId) : Cursor Request :=
  match tag with
  | 1 => do return .prepare requestId (← Cursor.planId) (← Get.block truncatedPayload 32)
  | 2 => do return .apply requestId (← Cursor.sessionId)
  | 3 => do return .restore requestId (← Cursor.sessionId)
  | 4 => do return .status requestId (← Cursor.sessionId)
  | _ => Get.lift (.error (protocolError "unknown request tag"))

def decode (bytes : Bytes) : Except SysboostError Request := do
  let (tag, payload) ← unframe bytes
  readAll (do fields tag (← Cursor.requestId)) payload

def tag : Request → UInt8
  | prepare _ _ _ => 1
  | apply _ _ => 2
  | restore _ _ => 3
  | status _ _ => 4

def payload : Request → List (Put SysboostError)
  | prepare requestId planId planDigest =>
      [putRequestId requestId, .ok planId.bytes.bytes, .ok planDigest.bytes]
  | apply requestId sessionId | restore requestId sessionId | status requestId sessionId =>
      twoIds requestId sessionId

def encode (request : Request) : Except SysboostError Bytes := do
  frame request.tag (← Put.seq request.payload)

theorem reads_fields (request : Request) :
    Reads (do fields request.tag (← Cursor.requestId)) (Put.seq request.payload) request := by
  cases request with
  | prepare requestId planId planDigest =>
      exact Reads.bind (reads_requestId requestId) (Reads.bind (reads_planId planId)
        (Reads.bind (Reads.block truncatedPayload planDigest) (Reads.pure _)))
  | apply requestId sessionId =>
      exact Reads.bind (reads_requestId requestId) (Reads.bind (reads_sessionId sessionId)
        (Reads.pure _))
  | restore requestId sessionId =>
      exact Reads.bind (reads_requestId requestId) (Reads.bind (reads_sessionId sessionId)
        (Reads.pure _))
  | status requestId sessionId =>
      exact Reads.bind (reads_requestId requestId) (Reads.bind (reads_sessionId sessionId)
        (Reads.pure _))

/-- A request survives the wire. -/
theorem decode_encode {request : Request} {bytes : Bytes} (ok : request.encode = .ok bytes) :
    decode bytes = .ok request := by
  obtain ⟨payload, written, framed⟩ := bind_eq_ok_iff.mp ok
  unfold decode
  rw [unframe_frame framed]
  exact readAll_of_reads request.reads_fields written

end Request

/-! ## Responses -/

def stateTag : SessionState → UInt8
  | .new => 0
  | .detected => 1
  | .planned => 2
  | .snapshotted => 3
  | .intentDurable => 4
  | .applying => 5
  | .active => 6
  | .restoring => 7
  | .restored => 8
  | .rollingBack => 9
  | .degraded => 10
  | .recoveryPending => 11

def stateFromTag : UInt8 → Except SysboostError SessionState
  | 0 => .ok .new
  | 1 => .ok .detected
  | 2 => .ok .planned
  | 3 => .ok .snapshotted
  | 4 => .ok .intentDurable
  | 5 => .ok .applying
  | 6 => .ok .active
  | 7 => .ok .restoring
  | 8 => .ok .restored
  | 9 => .ok .rollingBack
  | 10 => .ok .degraded
  | 11 => .ok .recoveryPending
  | _ => .error (protocolError "unknown session-state tag")

def errorTag : ErrorCode → Nat
  | .configError => 1
  | .capabilityError => 2
  | .unsupported => 3
  | .authorizationError => 4
  | .targetError => 5
  | .planningError => 6
  | .snapshotError => 7
  | .durabilityError => 8
  | .transportError => 9
  | .applyError => 10
  | .verificationError => 11
  | .restoreConflict => 12
  | .restoreError => 13
  | .journalCorrupt => 14
  | .invariantViolation => 15
  | .invalidInput => 16

def errorFromTag : Nat → Except SysboostError ErrorCode
  | 1 => .ok .configError
  | 2 => .ok .capabilityError
  | 3 => .ok .unsupported
  | 4 => .ok .authorizationError
  | 5 => .ok .targetError
  | 6 => .ok .planningError
  | 7 => .ok .snapshotError
  | 8 => .ok .durabilityError
  | 9 => .ok .transportError
  | 10 => .ok .applyError
  | 11 => .ok .verificationError
  | 12 => .ok .restoreConflict
  | 13 => .ok .restoreError
  | 14 => .ok .journalCorrupt
  | 15 => .ok .invariantViolation
  | 16 => .ok .invalidInput
  | _ => .error (protocolError "unknown error tag")

namespace Response

/-- The fields behind the request ID. -/
def fields (tag : UInt8) (requestId : RequestId) : Cursor Response :=
  match tag with
  | 0x81 => do return .accepted requestId (← Cursor.sessionId)
  | 0x82 => do
      let sessionId ← Cursor.sessionId
      return .status requestId sessionId (← Get.lift (stateFromTag (← Cursor.u8)))
  | 0x83 => do return .rejected requestId (← Get.lift (errorFromTag (← Cursor.u16)))
  | _ => Get.lift (.error (protocolError "unknown response tag"))

def decode (bytes : Bytes) : Except SysboostError Response := do
  let (tag, payload) ← unframe bytes
  readAll (do fields tag (← Cursor.requestId)) payload

def tag : Response → UInt8
  | accepted _ _ => 0x81
  | status _ _ _ => 0x82
  | rejected _ _ => 0x83

def payload : Response → List (Put SysboostError)
  | accepted requestId sessionId => twoIds requestId sessionId
  | status requestId sessionId state =>
      twoIds requestId sessionId ++ [Put.word 1 (stateTag state).toNat]
  | rejected requestId code => [putRequestId requestId, Put.word 2 (errorTag code)]

def encode (response : Response) : Except SysboostError Bytes := do
  frame response.tag (← Put.seq response.payload)

theorem reads_u8 {value : Nat} (bound : value < 256) :
    Reads Cursor.u8 (Put.word 1 value) (UInt8.ofNat value) :=
  Reads.bind_last (Reads.word truncatedPayload bound) (Reads.pure _)

theorem reads_fields (response : Response) :
    Reads (do fields response.tag (← Cursor.requestId)) (Put.seq response.payload) response := by
  cases response with
  | accepted requestId sessionId =>
      exact Reads.bind (reads_requestId requestId) (Reads.bind (reads_sessionId sessionId)
        (Reads.pure _))
  | status requestId sessionId state =>
      have bound : (stateTag state).toNat < 256 := (stateTag state).toNat_lt
      have known : stateFromTag (UInt8.ofNat (stateTag state).toNat) = .ok state := by
        cases state <;> rfl
      exact Reads.bind (reads_requestId requestId) (Reads.bind (reads_sessionId sessionId)
        (Reads.bind (reads_u8 bound) (Reads.lift_bind known (Reads.pure _))))
  | rejected requestId code =>
      have bound : errorTag code < 256 ^ 2 := by cases code <;> decide
      have known : errorFromTag (errorTag code) = .ok code := by cases code <;> rfl
      exact Reads.bind (reads_requestId requestId) (Reads.bind
        (Reads.word truncatedPayload bound) (Reads.lift_bind known (Reads.pure _)))

/-- A response survives the wire. -/
theorem decode_encode {response : Response} {bytes : Bytes} (ok : response.encode = .ok bytes) :
    decode bytes = .ok response := by
  obtain ⟨payload, written, framed⟩ := bind_eq_ok_iff.mp ok
  unfold decode
  rw [unframe_frame framed]
  exact readAll_of_reads response.reads_fields written

end Response

end Sysboost.Protocol
