import Sysboost.Protocol.Message
import Sysboost.Platform.Process
import Sysboost.Platform.World
import Sysboost.Interaction.Trace

/-!
# The privilege boundary

The helper authenticates its peer, accepts every request ID once, and looks
plans and sessions up by identity before it calls the engine.  Its calls are
the public methods of the engine and of the backend's admission; how the engine
serves them is the business of the world.
-/

namespace Sysboost.Platform

open Sysboost.Core Interaction ByteCodec

/-- `boundary_error`. -/
def boundaryError (code : ErrorCode) (message : String) : SysboostError :=
  (SysboostError.new code message).withStage .transport

/-- What a helper returns after snapshot and durable-intent preparation. -/
structure SessionHandle where
  sessionId : SessionId
  planId : PlanId
  planDigest : Block 32
  owner : ProcessIdentity
deriving DecidableEq

/-- Controller-side plan catalog. -/
structure ApprovedPlanCatalog where
  plans : PlanId → Option Plan

namespace ApprovedPlanCatalog

/-- Register one complete planner result. -/
def register (catalog : ApprovedPlanCatalog) (plan : Plan) :
    Except SysboostError ApprovedPlanCatalog := do
  plan.validateComplete
  match catalog.plans plan.id with
  | some existing =>
      if existing = plan then return catalog
      else throw (boundaryError .authorizationError
        "plan identity is already bound to different content")
  | none => return ⟨Function.update catalog.plans plan.id (some plan)⟩

/-- Return a plan only when its typed identity and digest match. -/
def get (catalog : ApprovedPlanCatalog) (planId : PlanId) (planDigest : Block 32) : Option Plan :=
  (catalog.plans planId).filter fun plan => plan.planDigest = planDigest

end ApprovedPlanCatalog

/-- The state of the helper-side service, its engine apart. -/
structure PrivilegeService where
  expectedPeer : ProcessIdentity
  catalog : ApprovedPlanCatalog
  sessions : SessionId → Option SessionHandle
  lastRequest : ProcessIdentity → Option UInt64

/-! ## The engine and the backend as ports -/

/-- What the service calls. -/
inductive HelperCall where
  | recoverUnfinished
  | prepare (plan : Plan)
  | apply (sessionId : SessionId)
  | restore (sessionId : SessionId)
  | abortPrepared (sessionId : SessionId)
  /-- `engine.status`. -/
  | status (sessionId : SessionId)
  /-- `engine.state_store().load`. -/
  | load (sessionId : SessionId)
  /-- `engine.backend().owns_backend`. -/
  | ownsBackend (backend : BackendId)
  /-- `engine.backend().validate_admission`. -/
  | validateAdmission (mutation : PlannedMutation) (targetIdentity : TargetIdentity)
deriving DecidableEq

abbrev HelperAnswer : HelperCall → Type
  | .recoverUnfinished => Except SysboostError (List TransactionStatus)
  | .prepare _ => Except SysboostError SessionId
  | .apply _ => Except SysboostError SessionState
  | .restore _ => Except SysboostError SessionState
  | .abortPrepared _ => Except SysboostError Unit
  | .status _ => Except SysboostError TransactionStatus
  | .load _ => Except SysboostError SessionRecord
  | .ownsBackend _ => Bool
  | .validateAdmission _ _ => Except SysboostError Unit

/-- Service code. -/
abbrev Helper := Prog HelperAnswer

/-- Service code that returns a `Result`; its `bind` is the `?` operator. -/
abbrev Helping := ExceptT SysboostError Helper

namespace Helping

/-- Call a port that may fail. -/
def port {α : Type} (program : Helper (Except SysboostError α)) : Helping α :=
  ExceptT.mk program

/-- `if condition { return Err(error); }` -/
def refuseIf (condition : Bool) (error : SysboostError) : Helping Unit :=
  if condition then throw error else pure ()

/-- A step that calls no port; its error is returned. -/
def check {α : Type} (result : Except SysboostError α) : Helping α :=
  ExceptT.mk (Prog.ret result)

end Helping

namespace PrivilegeService

/-! ## Checks -/

def authenticatePeer (service : PrivilegeService) (peer : ProcessIdentity) :
    Except SysboostError Unit :=
  if peer.sameGeneration service.expectedPeer then .ok ()
  else .error (boundaryError .authorizationError
    "local peer identity is not authorized for this helper session")

/-- Accept a request ID that is greater than the last one of this peer. -/
def acceptRequestId (service : PrivilegeService) (peer : ProcessIdentity)
    (requestId : Protocol.RequestId) : Except SysboostError PrivilegeService :=
  if (service.lastRequest peer).any fun last => requestId.get ≤ last then
    .error (boundaryError .transportError "duplicate or replayed request ID")
  else
    .ok { service with
      lastRequest := Function.update service.lastRequest peer (some requestId.get) }

def authorizeSessionRef (service : PrivilegeService) (peer : ProcessIdentity)
    (handle : SessionHandle) : Except SysboostError Unit :=
  match service.sessions handle.sessionId with
  | none =>
      .error (boundaryError .authorizationError
        "session handle is not known to this helper lifecycle")
  | some known =>
      if known ≠ handle || !peer.sameGeneration handle.owner || handle.owner ≠ known.owner then
        .error (boundaryError .authorizationError
          "session handle identity, owner, or plan binding is invalid")
      else .ok ()

def lookupSession (service : PrivilegeService) (peer : ProcessIdentity) (sessionId : SessionId) :
    Except SysboostError SessionHandle :=
  match service.sessions sessionId with
  | none =>
      .error (boundaryError .authorizationError "session is not known to this helper lifecycle")
  | some handle => do
      service.authorizeSessionRef peer handle
      return handle

/-! ## Preparing -/

/-- The item that carries the mutation. -/
def mutationItem (plan : Plan) (mutationId : MutationId) : Option PlanItem :=
  plan.items.find? fun item =>
    item.action = .mutation &&
      item.mutation.any fun candidate => candidate.mutationId = mutationId

/-- Whether the backend of an item is one of the engine's. -/
def backendOwned (item : PlanItem) : Helper Bool :=
  match item.backend with
  | none => return false
  | some backend => Prog.perform (HelperCall.ownsBackend backend)

/-- The checks of one mutation of an approved plan. -/
def admitMutation (plan : Plan) (mutation : PlannedMutation) : Helping Unit := do
  match mutationItem plan mutation.mutationId with
  | none =>
      throw (boundaryError .planningError
        "executable mutation is absent from the approved plan items")
  | some item =>
      let owned ← ExceptT.lift (backendOwned item)
      Helping.refuseIf (!owned) (boundaryError .authorizationError
        "operation/backend ownership does not match the approved plan")
      match item.targetIdentity with
      | none =>
          throw (boundaryError .targetError "approved mutation has no stable target identity")
      | some targetIdentity =>
          Helping.port (Prog.perform (HelperCall.validateAdmission mutation targetIdentity))

def validatePlanAdmission (plan : Plan) : Helping Unit := do
  Helping.check plan.validateComplete
  Helping.refuseIf plan.mutations.isEmpty (boundaryError .authorizationError
    "report-only or empty plans cannot enter the privileged executor")
  plan.mutations.forM (admitMutation plan)

/-- The identity of the approved item of a mutation. -/
def approvedIdentity (plan : Plan) (mutationId : MutationId) : Option TargetIdentity :=
  (mutationItem plan mutationId).bind PlanItem.targetIdentity

/-- The comparison of one durable snapshot with the approved item. -/
def compareIdentity (plan : Plan) (operation : OperationRecord) : Except SysboostError Unit :=
  match operation.snapshot with
  | none =>
      .error (boundaryError .snapshotError "durable intent operation has no complete snapshot")
  | some snapshot =>
      if approvedIdentity plan operation.mutation.mutationId ≠ some snapshot.targetIdentity then
        .error (boundaryError .targetError
          "snapshot target identity does not match the approved target")
      else .ok ()

def validateSnapshotIdentities (sessionId : SessionId) (plan : Plan) : Helping Unit := do
  let record ← Helping.port (Prog.perform (HelperCall.load sessionId))
  Helping.check (record.operations.forM (compareIdentity plan))

/-- The part of `prepare_by_identity` before its session is bound. -/
def prepareHandle (service : PrivilegeService) (peer : ProcessIdentity) (planId : PlanId)
    (planDigest : Block 32) : Helping SessionHandle := do
  match service.catalog.get planId planDigest with
  | none =>
      throw (boundaryError .authorizationError
        "requested plan identity or digest is not approved")
  | some plan =>
      validatePlanAdmission plan
      let sessionId ← Helping.port (Prog.perform (HelperCall.prepare plan))
      match ← ExceptT.lift (validateSnapshotIdentities sessionId plan).run with
      | .error error =>
          Helping.port (Prog.perform (HelperCall.abortPrepared sessionId))
          throw error
      | .ok () => return ⟨sessionId, planId, planDigest, peer⟩

/-- `self.sessions.insert(session_id, SessionBinding { handle })`. -/
def bindSession (service : PrivilegeService) (handle : SessionHandle) : PrivilegeService :=
  { service with
    sessions := Function.update service.sessions handle.sessionId (some handle) }

def prepareByIdentity (service : PrivilegeService) (peer : ProcessIdentity) (planId : PlanId)
    (planDigest : Block 32) : Helper (Except SysboostError SessionHandle × PrivilegeService) := do
  match ← (service.prepareHandle peer planId planDigest).run with
  | .error error => return (.error error, service)
  | .ok handle => return (.ok handle, service.bindSession handle)

/-! ## Requests -/

/-- Serve a request about a session the peer owns. -/
def serveSession (service : PrivilegeService) (peer : ProcessIdentity)
    (requestId : Protocol.RequestId) (sessionId : SessionId)
    (act : SessionId → Helping SessionState) : Helping Protocol.Response := do
  let handle ← Helping.check (service.lookupSession peer sessionId)
  let state ← act handle.sessionId
  return .status requestId sessionId state

/-- `self.engine.status(session_id)?.state`. -/
def engineStatus (sessionId : SessionId) : Helping SessionState := do
  return (← Helping.port (Prog.perform (HelperCall.status sessionId))).state

def engineApply (sessionId : SessionId) : Helping SessionState :=
  Helping.port (Prog.perform (HelperCall.apply sessionId))

def engineRestore (sessionId : SessionId) : Helping SessionState :=
  Helping.port (Prog.perform (HelperCall.restore sessionId))

def dispatch (service : PrivilegeService) (peer : ProcessIdentity) :
    Protocol.Request → Helper (Except SysboostError Protocol.Response × PrivilegeService)
  | .prepare requestId planId planDigest => do
      let (result, left) ← service.prepareByIdentity peer planId planDigest
      return (result.map fun handle => .accepted requestId handle.sessionId, left)
  | .apply requestId sessionId => do
      return (← (service.serveSession peer requestId sessionId engineApply).run, service)
  | .restore requestId sessionId => do
      return (← (service.serveSession peer requestId sessionId engineRestore).run, service)
  | .status requestId sessionId => do
      return (← (service.serveSession peer requestId sessionId engineStatus).run, service)

/-- What `handle_frame` does before it dispatches a request. -/
def admitFrame (service : PrivilegeService) (peer : Option ProcessIdentity) (frame : Bytes) :
    Except SysboostError (ProcessIdentity × Protocol.Request × PrivilegeService) := do
  let request ← Protocol.Request.decode frame
  match peer with
  | none =>
      throw (boundaryError .authorizationError
        "authenticated local peer credentials are required")
  | some peer =>
      service.authenticatePeer peer
      let accepted ← service.acceptRequestId peer request.requestId
      return (peer, request, accepted)

/-- Process one complete protocol frame from an authenticated local peer. -/
def handleFrame (service : PrivilegeService) (peer : Option ProcessIdentity) (frame : Bytes) :
    Helper (Except SysboostError Bytes × PrivilegeService) :=
  match service.admitFrame peer frame with
  | .error error => return (.error error, service)
  | .ok (peer, request, accepted) => do
      let (result, left) ← accepted.dispatch peer request
      let response := match result with
        | .ok response => response
        | .error error => .rejected request.requestId error.code
      return (response.encode, left)

/-! ## Direct calls -/

def registerPlan (service : PrivilegeService) (plan : Plan) :
    Except SysboostError PrivilegeService := do
  return { service with catalog := ← service.catalog.register plan }

/-- Prepare a plan on behalf of an explicitly identified peer. -/
def prepareForPeer (service : PrivilegeService) (peer : ProcessIdentity) (plan : Plan) :
    Helper (Except SysboostError SessionHandle × PrivilegeService) :=
  match service.authenticatePeer peer with
  | .error error => return (.error error, service)
  | .ok () =>
      match service.registerPlan plan with
      | .error error => return (.error error, service)
      | .ok registered => registered.prepareByIdentity peer plan.id plan.planDigest

/-- Act on a handle on behalf of an explicitly identified peer. -/
def actForPeer (service : PrivilegeService) (peer : ProcessIdentity) (handle : SessionHandle)
    (act : SessionId → Helping SessionState) : Helping SessionState := do
  Helping.check (service.authenticatePeer peer)
  Helping.check (service.authorizeSessionRef peer handle)
  act handle.sessionId

def applyForPeer (service : PrivilegeService) (peer : ProcessIdentity) (handle : SessionHandle) :
    Helping SessionState :=
  service.actForPeer peer handle engineApply

def restoreForPeer (service : PrivilegeService) (peer : ProcessIdentity)
    (handle : SessionHandle) : Helping SessionState :=
  service.actForPeer peer handle engineRestore

def statusForPeer (service : PrivilegeService) (peer : ProcessIdentity)
    (handle : SessionHandle) : Helping SessionState :=
  service.actForPeer peer handle engineStatus

/-- Construct a helper and recover all unfinished durable sessions before
accepting a new request. -/
def new (expectedPeer : ProcessIdentity) : Helping PrivilegeService := do
  Helping.refuseIf (expectedPeer.generation == 0 || expectedPeer.bootId == .fill 16 0)
    (boundaryError .authorizationError "helper peer policy requires a strong process identity")
  let recovered ← ExceptT.lift (Prog.perform HelperCall.recoverUnfinished)
  let _ ← Helping.check (recovered.mapError fun error =>
    (error.withStage .recovery).retryable .afterRecovery)
  return ⟨expectedPeer, ⟨fun _ => none⟩, fun _ => none, fun _ => none⟩

end PrivilegeService

/-! ## Inputs -/

/-- One call of the service: a frame from a transport, or a direct call of its
process.  The broker's methods are the direct calls of the expected peer. -/
inductive Input where
  | frame (peer : Option ProcessIdentity) (bytes : Bytes)
  | registerPlan (plan : Plan)
  | prepareForPeer (peer : ProcessIdentity) (plan : Plan)
  | applyForPeer (peer : ProcessIdentity) (handle : SessionHandle)
  | restoreForPeer (peer : ProcessIdentity) (handle : SessionHandle)
  | statusForPeer (peer : ProcessIdentity) (handle : SessionHandle)

/-- What a call of the service returns. -/
inductive Output where
  | frame (result : Except SysboostError Bytes)
  | registered (result : Except SysboostError Unit)
  | prepared (result : Except SysboostError SessionHandle)
  | state (result : Except SysboostError SessionState)

/-- The program of a call of the service. -/
def PrivilegeService.serve (service : PrivilegeService) :
    Input → Helper (Output × PrivilegeService)
  | .frame peer bytes => do
      let (result, left) ← service.handleFrame peer bytes
      return (.frame result, left)
  | .registerPlan plan =>
      match service.registerPlan plan with
      | .error error => return (.registered (.error error), service)
      | .ok registered => return (.registered (.ok ()), registered)
  | .prepareForPeer peer plan => do
      let (result, left) ← service.prepareForPeer peer plan
      return (.prepared result, left)
  | .applyForPeer peer handle => do
      return (.state (← (service.applyForPeer peer handle).run), service)
  | .restoreForPeer peer handle => do
      return (.state (← (service.restoreForPeer peer handle).run), service)
  | .statusForPeer peer handle => do
      return (.state (← (service.statusForPeer peer handle).run), service)

end Sysboost.Platform
