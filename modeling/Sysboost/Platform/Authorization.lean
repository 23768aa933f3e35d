import Sysboost.Interaction.Effects
import Sysboost.Platform.HelperRun

/-!
# Authorization and replay

The engine executes for authenticated peers only, for each request ID at most
once, and applies or restores a session only for its owner.  A frame that is
rejected before it is dispatched changes nothing.
-/

namespace Sysboost.Platform

open Sysboost.Core Interaction ByteCodec Results

/-- Calls by which the engine prepares, applies or restores. -/
def HelperCall.isExecution : HelperCall → Bool
  | .prepare _ | .apply _ | .restore _ => true
  | _ => false

/-- The request ID of a frame that was accepted. -/
def Handled.accepted (step : Handled) : Option UInt64 :=
  match step.input with
  | .frame peer bytes =>
      match step.before.admitFrame peer bytes with
      | .ok (_, request, _) => some request.requestId.get
      | .error _ => none
  | _ => none

/-- What must hold of the frame for which the engine executes. -/
structure Authorized (expectedPeer : ProcessIdentity) (older : List Handled)
    (service : PrivilegeService) (identity : ProcessIdentity) (request : Protocol.Request)
    (call : HelperCall) : Prop where
  authenticated : identity.sameGeneration expectedPeer = true
  newest : ∀ earlier ∈ older, ∀ requestId, earlier.accepted = some requestId →
    requestId < request.requestId.get
  owned : ∀ sessionId, call = .apply sessionId ∨ call = .restore sessionId →
    ∃ handle, service.sessions sessionId = some handle ∧
      identity.sameGeneration handle.owner = true

/-! ## The checks -/

namespace PrivilegeService

variable {service : PrivilegeService} {peer : ProcessIdentity}

/-- A session is acted on for its owner only. -/
def Owned (service : PrivilegeService) (peer : ProcessIdentity) (call : HelperCall) : Prop :=
  ∀ sessionId, call = .apply sessionId ∨ call = .restore sessionId →
    ∃ handle, service.sessions sessionId = some handle ∧ peer.sameGeneration handle.owner = true

theorem owned_of_authorizeSessionRef {handle : SessionHandle}
    (ok : service.authorizeSessionRef peer handle = .ok ()) :
    service.sessions handle.sessionId = some handle ∧
      peer.sameGeneration handle.owner = true := by
  unfold authorizeSessionRef at ok
  split at ok
  · cases ok
  next known found =>
    split at ok
    · cases ok
    next valid =>
      simp only [Bool.or_eq_true, decide_eq_true_eq, Bool.not_eq_true', not_or, not_not,
        Bool.not_eq_false] at valid
      obtain ⟨⟨same, owner⟩, -⟩ := valid
      exact ⟨same ▸ found, owner⟩

theorem owned_of_lookupSession {sessionId : SessionId} {handle : SessionHandle}
    (ok : service.lookupSession peer sessionId = .ok handle) :
    service.sessions handle.sessionId = some handle ∧
      peer.sameGeneration handle.owner = true := by
  unfold lookupSession at ok
  split at ok
  · cases ok
  next known found =>
    obtain ⟨⟨⟩, authorized, same⟩ := bind_eq_ok_iff.mp ok
    cases same
    exact owned_of_authorizeSessionRef authorized

theorem admitFrame_eq_ok {peer : Option ProcessIdentity} {frame : Bytes}
    {identity : ProcessIdentity} {request : Protocol.Request} {accepted : PrivilegeService}
    (ok : service.admitFrame peer frame = .ok (identity, request, accepted)) :
    peer = some identity ∧ Protocol.Request.decode frame = .ok request ∧
      identity.sameGeneration service.expectedPeer = true ∧
      (∀ last, service.lastRequest identity = some last → last < request.requestId.get) ∧
      accepted = { service with
        lastRequest := Function.update service.lastRequest identity (some request.requestId.get) } := by
  obtain ⟨decoded, decodedOk, ok⟩ := bind_eq_ok_iff.mp ok
  rcases peer with _ | known
  · cases ok
  obtain ⟨⟨⟩, authenticated, ok⟩ := bind_eq_ok_iff.mp ok
  obtain ⟨left, acceptedOk, same⟩ := bind_eq_ok_iff.mp ok
  cases same
  have strong : identity.sameGeneration service.expectedPeer = true := by
    by_contra weak
    simp [authenticatePeer, weak] at authenticated
  unfold acceptRequestId at acceptedOk
  split at acceptedOk
  · cases acceptedOk
  next fresh =>
    cases acceptedOk
    refine ⟨rfl, decodedOk, strong, fun last found => ?_, rfl⟩
    by_contra replayed
    rw [found] at fresh
    simp only [Option.any_some, decide_eq_true_eq] at fresh
    exact fresh (UInt64.not_lt.mp replayed)

/-! ## The calls of a request -/

theorem refuseIf_within {allowed : HelperCall → Prop} (condition : Bool) (error : SysboostError) :
    Within allowed (fun _ => True) (Helping.refuseIf condition error).run := by
  cases condition <;> trivial

/-- Calls that neither apply nor restore. -/
theorem owned_of_ne {call : HelperCall} (apply : ∀ sessionId, call ≠ .apply sessionId)
    (restore : ∀ sessionId, call ≠ .restore sessionId) : service.Owned peer call := by
  rintro sessionId (same | same)
  · exact absurd same (apply sessionId)
  · exact absurd same (restore sessionId)

theorem admitMutation_owned (plan : Plan) (mutation : PlannedMutation) :
    Within (service.Owned peer) (fun _ => True) (admitMutation plan mutation).run := by
  unfold admitMutation
  split
  · trivial
  next item found =>
    refine Within.lift_seq (m := fun _ => True) ?_ fun owned _ => ?_
    · unfold backendOwned
      split
      · trivial
      · exact ⟨owned_of_ne (by simp) (by simp), fun _ => trivial⟩
    · refine Within.run_seq (refuseIf_within _ _) (fun _ _ => trivial) fun _ _ => ?_
      split
      · trivial
      · exact ⟨owned_of_ne (by simp) (by simp), fun _ => trivial⟩

theorem validatePlanAdmission_owned (plan : Plan) :
    Within (service.Owned peer) (fun _ => True) (validatePlanAdmission plan).run := by
  refine Within.run_seq (m := fun _ => True) trivial (fun _ _ => trivial) fun _ _ => ?_
  refine Within.run_seq (refuseIf_within _ _) (fun _ _ => trivial) fun _ _ => ?_
  exact Within.forM_run (admitMutation_owned plan) plan.mutations

theorem prepareHandle_owned (binder : ProcessIdentity) (planId : PlanId)
    (planDigest : Block 32) :
    Within (service.Owned peer) (fun _ => True)
      (service.prepareHandle binder planId planDigest).run := by
  unfold prepareHandle
  split
  · trivial
  next plan approved =>
    refine Within.run_seq (validatePlanAdmission_owned plan) (fun _ _ => trivial) fun _ _ => ?_
    refine Within.run_seq (m := fun _ => True)
      ⟨owned_of_ne (by simp) (by simp), fun _ => trivial⟩ (fun _ _ => trivial) fun sessionId _ => ?_
    refine Within.lift_seq (m := fun _ => True) ?_ fun result _ => ?_
    · exact Within.run_seq (m := fun _ => True)
        ⟨owned_of_ne (by simp) (by simp), fun _ => trivial⟩ (fun _ _ => trivial) fun _ _ => trivial
    · rcases result with error | done
      · exact ⟨owned_of_ne (by simp) (by simp), fun answer => by cases answer <;> trivial⟩
      · trivial

/-- The parts of a service that decide who may call it. -/
def Keeps (service left : PrivilegeService) : Prop :=
  left.expectedPeer = service.expectedPeer ∧ left.lastRequest = service.lastRequest

theorem prepareByIdentity_owned (binder : ProcessIdentity) (planId : PlanId)
    (planDigest : Block 32) :
    Within (service.Owned peer) (fun result => service.Keeps result.2)
      (service.prepareByIdentity binder planId planDigest) := by
  refine Within.seq (service.prepareHandle_owned binder planId planDigest) fun result _ => ?_
  rcases result with error | handle
  · exact ⟨rfl, rfl⟩
  · exact ⟨rfl, rfl⟩

theorem serveSession_owned {act : SessionId → Helping SessionState}
    (acts : ∀ handle, service.sessions handle.sessionId = some handle →
      peer.sameGeneration handle.owner = true →
        Within (service.Owned peer) (fun _ => True) (act handle.sessionId).run)
    (requestId : Protocol.RequestId) (sessionId : SessionId) :
    Within (service.Owned peer) (fun _ => True)
      (service.serveSession peer requestId sessionId act).run := by
  refine Within.run_seq (m := fun result => result = service.lookupSession peer sessionId) rfl
    (fun _ _ => trivial) fun handle same => ?_
  obtain ⟨bound, owner⟩ := owned_of_lookupSession same.symm
  exact Within.run_seq (acts handle bound owner) (fun _ _ => trivial) fun _ _ => trivial

theorem engineApply_owned {handle : SessionHandle}
    (bound : service.sessions handle.sessionId = some handle)
    (owner : peer.sameGeneration handle.owner = true) :
    Within (service.Owned peer) (fun _ => True) (engineApply handle.sessionId).run := by
  refine ⟨?_, fun _ => trivial⟩
  rintro sessionId (same | same)
  · cases same
    exact ⟨handle, bound, owner⟩
  · cases same

theorem engineRestore_owned {handle : SessionHandle}
    (bound : service.sessions handle.sessionId = some handle)
    (owner : peer.sameGeneration handle.owner = true) :
    Within (service.Owned peer) (fun _ => True) (engineRestore handle.sessionId).run := by
  refine ⟨?_, fun _ => trivial⟩
  rintro sessionId (same | same)
  · cases same
  · cases same
    exact ⟨handle, bound, owner⟩

theorem engineStatus_owned (sessionId : SessionId) :
    Within (service.Owned peer) (fun _ => True) (engineStatus sessionId).run :=
  Within.run_seq (m := fun _ => True) ⟨owned_of_ne (by simp) (by simp), fun _ => trivial⟩
    (fun _ _ => trivial) fun _ _ => trivial

theorem dispatch_owned (request : Protocol.Request) :
    Within (service.Owned peer) (fun result => service.Keeps result.2)
      (service.dispatch peer request) := by
  cases request with
  | prepare requestId planId planDigest =>
      refine Within.seq (service.prepareByIdentity_owned peer planId planDigest) ?_
      rintro ⟨result, left⟩ kept
      exact kept
  | apply requestId sessionId =>
      exact Within.seq (service.serveSession_owned (fun _ => engineApply_owned) requestId sessionId)
        fun _ _ => ⟨rfl, rfl⟩
  | restore requestId sessionId =>
      exact Within.seq (service.serveSession_owned (fun _ => engineRestore_owned) requestId
        sessionId) fun _ _ => ⟨rfl, rfl⟩
  | status requestId sessionId =>
      exact Within.seq (service.serveSession_owned (fun _ _ _ => engineStatus_owned _) requestId
        sessionId) fun _ _ => ⟨rfl, rfl⟩

/-- The request IDs a service remembers after an input. -/
def requestsAfter (service : PrivilegeService) : Input → ProcessIdentity → Option UInt64
  | .frame peer bytes =>
      match service.admitFrame peer bytes with
      | .ok (_, _, accepted) => accepted.lastRequest
      | .error _ => service.lastRequest
  | _ => service.lastRequest

theorem registerPlan_keeps {plan : Plan} {registered : PrivilegeService}
    (ok : service.registerPlan plan = .ok registered) : service.Keeps registered := by
  obtain ⟨catalog, -, same⟩ := bind_eq_ok_iff.mp ok
  cases same
  exact ⟨rfl, rfl⟩

theorem serve_requests (input : Input) :
    Within (fun _ => True) (fun result => result.2.expectedPeer = service.expectedPeer ∧
      result.2.lastRequest = service.requestsAfter input) (service.serve input) := by
  cases input with
  | frame peer bytes =>
      refine Within.seq (m := fun result => result.2.expectedPeer = service.expectedPeer ∧
        result.2.lastRequest = service.requestsAfter (.frame peer bytes)) ?_ ?_
      · rcases admitted : service.admitFrame peer bytes with error | ⟨identity, request, accepted⟩
        · simp only [handleFrame, requestsAfter, admitted]
          exact ⟨rfl, rfl⟩
        · obtain ⟨-, -, -, -, same⟩ := admitFrame_eq_ok admitted
          simp only [handleFrame, requestsAfter, admitted]
          refine Within.seq ((accepted.dispatch_owned request).weaken fun _ _ => trivial) ?_
          rintro ⟨result, left⟩ kept
          exact ⟨kept.1.trans (by rw [same]), kept.2⟩
      · rintro ⟨result, left⟩ kept
        exact kept
  | registerPlan plan =>
      rcases registers : service.registerPlan plan with error | registered
      · simp only [serve, registers]
        exact ⟨rfl, rfl⟩
      · simp only [serve, registers]
        exact registerPlan_keeps registers
  | prepareForPeer peer plan =>
      refine Within.seq (m := fun result => service.Keeps result.2) ?_ ?_
      · unfold prepareForPeer
        split
        · exact ⟨rfl, rfl⟩
        · split
          · exact ⟨rfl, rfl⟩
          next registered ok =>
            obtain ⟨sameRequests, samePeer⟩ := registerPlan_keeps ok
            have prepares : Within (registered.Owned peer) (fun result => registered.Keeps result.2)
                (registered.prepareByIdentity peer plan.id plan.planDigest) :=
              registered.prepareByIdentity_owned peer plan.id plan.planDigest
            refine (prepares.weaken fun _ _ => trivial).mono fun result kept => ?_
            exact ⟨kept.1.trans sameRequests, kept.2.trans samePeer⟩
      · rintro ⟨result, left⟩ kept
        exact kept
  | applyForPeer peer handle => exact Within.seq (Within.any _) fun _ _ => ⟨rfl, rfl⟩
  | restoreForPeer peer handle => exact Within.seq (Within.any _) fun _ _ => ⟨rfl, rfl⟩
  | statusForPeer peer handle => exact Within.seq (Within.any _) fun _ _ => ⟨rfl, rfl⟩

end PrivilegeService

/-! ## Histories -/

theorem opened_service {engine : EngineId} {expectedPeer : ProcessIdentity}
    {service : PrivilegeService} {world : World}
    (opened : Opened engine expectedPeer service world) :
    service = ⟨expectedPeer, ⟨fun _ => none⟩, fun _ => none, fun _ => none⟩ := by
  obtain ⟨earlier, trace, -, traces, -⟩ := opened
  have built : Within (fun _ => True) (fun result => ∀ service, result = .ok service →
      service = ⟨expectedPeer, ⟨fun _ => none⟩, fun _ => none, fun _ => none⟩)
      (PrivilegeService.new expectedPeer).run := by
    refine Within.run_seq (PrivilegeService.refuseIf_within _ _) (fun _ _ _ same => nomatch same)
      fun _ _ => ?_
    refine Within.lift_seq (Within.any _) fun recovered _ => ?_
    refine Within.run_seq (m := fun _ => True) trivial (fun _ _ _ same => nomatch same)
      fun _ _ => ?_
    rintro service ⟨⟩
    rfl
  exact (built.every trace _ traces).2 service rfl

/-- The service remembers a request ID that no accepted one exceeds. -/
structure Remembers (expectedPeer : ProcessIdentity) (handled : List Handled)
    (service : PrivilegeService) : Prop where
  expected : service.expectedPeer = expectedPeer
  accepted : ∀ step ∈ handled, ∀ requestId, step.accepted = some requestId →
    ∃ last, service.lastRequest expectedPeer = some last ∧ requestId ≤ last

/-- An accepted frame moves the remembered request ID up. -/
theorem Remembers.serve {expectedPeer : ProcessIdentity} {older : List Handled} {step : Handled}
    (remembers : Remembers expectedPeer older step.before)
    (expected : step.after.expectedPeer = step.before.expectedPeer)
    (requests : step.after.lastRequest = step.before.requestsAfter step.input) :
    Remembers expectedPeer (step :: older) step.after := by
  have kept (same : step.after.lastRequest = step.before.lastRequest)
      (rejected : step.accepted = none) : Remembers expectedPeer (step :: older) step.after := by
    refine ⟨expected.trans remembers.expected, fun earlier member requestId accepted => ?_⟩
    rcases List.mem_cons.mp member with rfl | member
    · rw [rejected] at accepted
      cases accepted
    · rw [same]
      exact remembers.accepted earlier member requestId accepted
  cases input : step.input with
  | frame peer bytes =>
      rcases admitted : step.before.admitFrame peer bytes with error | ⟨identity, request, left⟩
      · refine kept ?_ (by simp [Handled.accepted, input, admitted])
        rw [requests]
        simp [PrivilegeService.requestsAfter, input, admitted]
      · obtain ⟨-, -, authenticated, newer, same⟩ := PrivilegeService.admitFrame_eq_ok admitted
        have own : identity = expectedPeer :=
          (ProcessIdentity.eq_of_sameGeneration authenticated).trans remembers.expected
        subst own
        have last : step.after.lastRequest identity = some request.requestId.get := by
          rw [requests]
          simp [PrivilegeService.requestsAfter, input, admitted, same]
        refine ⟨expected.trans remembers.expected, fun earlier member requestId accepted => ?_⟩
        rcases List.mem_cons.mp member with rfl | member
        · have value : requestId = request.requestId.get := by
            simpa [Handled.accepted, input, admitted] using accepted.symm
          exact ⟨_, last, value ▸ UInt64.le_refl _⟩
        · obtain ⟨previous, found, bound⟩ := remembers.accepted earlier member requestId accepted
          exact ⟨_, last, UInt64.le_of_lt (UInt64.lt_of_le_of_lt bound (newer previous found))⟩
  | _ =>
      refine kept ?_ (by simp [Handled.accepted, input])
      rw [requests]
      simp [PrivilegeService.requestsAfter, input]

/-- Every step of a history was served in the history before it. -/
theorem History.split {engine : EngineId} {service left : PrivilegeService} {world final : World}
    {newer older : List Handled} {step : Handled}
    (history : History engine service world (newer ++ step :: older) left final) :
    History engine service world older step.before step.world ∧
      Traces (step.before.serve step.input) step.trace (step.output, step.after) ∧
      Steps (HelperLaw engine) step.world step.trace step.final := by
  generalize same : newer ++ step :: older = handled at history
  induction history generalizing newer with
  | start => simp at same
  | serve history traces steps ih =>
      rcases newer with _ | ⟨newest, newer⟩
      · simp only [List.nil_append, List.cons.injEq] at same
        obtain ⟨rfl, rfl⟩ := same
        exact ⟨history, traces, steps⟩
      · simp only [List.cons_append, List.cons.injEq] at same
        exact ih same.2

theorem History.remembers {engine : EngineId} {expectedPeer : ProcessIdentity}
    {service left : PrivilegeService} {world final : World} {handled : List Handled}
    (history : History engine service world handled left final)
    (opened : Opened engine expectedPeer service world) : Remembers expectedPeer handled left := by
  induction history with
  | start => exact ⟨by rw [opened_service opened], by simp⟩
  | @serve older before after middle final input trace output history traces steps ih =>
      obtain ⟨-, expected, requests⟩ := (before.serve_requests input).every _ _ traces
      have served : Remembers expectedPeer older
          (Handled.mk input before middle trace output after final).before := ih
      exact served.serve expected requests

/-- In every history of the helper, the engine prepares, applies and restores
only for frames of the expected peer with a new request ID, and acts on a
session only for its owner; a frame that is rejected before its dispatch
changes neither the service nor the world of its engine. -/
theorem frames_authorized {engine : EngineId} {expectedPeer : ProcessIdentity}
    {service left : PrivilegeService} {world final : World} {newer older : List Handled}
    {step : Handled} (opened : Opened engine expectedPeer service world)
    (history : History engine service world (newer ++ step :: older) left final)
    {peer : Option ProcessIdentity} {frame : Bytes} (served : step.input = .frame peer frame) :
    (∀ exchange ∈ step.trace, exchange.request.isExecution = true →
      ∃ identity request, peer = some identity ∧ Protocol.Request.decode frame = .ok request ∧
        Authorized expectedPeer older step.before identity request exchange.request) ∧
      ∀ error, step.before.admitFrame peer frame = .error error →
        step.output = .frame (.error error) ∧ step.trace = [] ∧ step.after = step.before ∧
          step.final = step.world := by
  obtain ⟨before, traces, steps⟩ := history.split
  have remembers := before.remembers opened
  rw [served] at traces
  rcases admitted : step.before.admitFrame peer frame with error | ⟨identity, request, accepted⟩
  · have program : step.before.serve (.frame peer frame) =
        .ret (.frame (.error error), step.before) := by
      simp [PrivilegeService.serve, PrivilegeService.handleFrame, admitted]
    rw [program] at traces
    generalize step.trace = trace at traces steps
    generalize step.final = final at steps
    generalize returned : (step.output, step.after) = result at traces
    cases traces
    cases steps
    simp only [Prod.mk.injEq] at returned
    refine ⟨by simp, ?_⟩
    rintro other ⟨⟩
    exact ⟨returned.1, rfl, returned.2, rfl⟩
  · refine ⟨fun exchange member executes => ?_, fun error impossible => nomatch impossible⟩
    obtain ⟨rfl, decoded, authenticated, newest, same⟩ :=
      PrivilegeService.admitFrame_eq_ok admitted
    have own := ProcessIdentity.eq_of_sameGeneration authenticated
    have calls : Within (step.before.Owned identity) (fun _ => True)
        (step.before.serve (.frame (some identity) frame)) := by
      refine Within.seq (m := fun _ => True) ?_ fun _ _ => trivial
      simp only [PrivilegeService.handleFrame, admitted]
      refine Within.seq (((accepted.dispatch_owned request).mono fun _ _ => trivial).weaken
        fun call owned => ?_) fun _ _ => trivial
      simpa only [PrivilegeService.Owned, same] using owned
    refine ⟨identity, request, rfl, decoded, ?_, ?_, ?_⟩
    · rw [← remembers.expected]
      exact authenticated
    · intro earlier present requestId known
      obtain ⟨last, found, bound⟩ := remembers.accepted earlier present requestId known
      rw [← remembers.expected, ← own] at found
      exact UInt64.lt_of_le_of_lt bound (newest last found)
    · exact (calls.every _ _ traces).1 exchange member

/-- The plan is registered. -/
def registeredStep : Handled :=
  handle (steadyKit.respond 0) 0 freshService openedWorld
    (.registerPlan (fixturePlan governorMutation))

/-- The expected peer asks for the plan. -/
def preparedStep : Handled :=
  handle (steadyKit.respond 0) 0 registeredStep.after registeredStep.final
    (.frame (some helperPeer) (prepareFrame (fixturePlan governorMutation)))

theorem frames_authorized_prepare :
    (preparedStep.trace.any fun exchange => exchange.request.isExecution) = true ∧
      (∀ exchange ∈ preparedStep.trace, exchange.request.isExecution = true →
        ∃ identity request, some helperPeer = some identity ∧
          Protocol.Request.decode (prepareFrame (fixturePlan governorMutation)) = .ok request ∧
            Authorized helperPeer [registeredStep] preparedStep.before identity request
              exchange.request) ∧
        ∀ error, preparedStep.before.admitFrame (some helperPeer)
            (prepareFrame (fixturePlan governorMutation)) = .error error →
          preparedStep.output = .frame (.error error) ∧ preparedStep.trace = [] ∧
            preparedStep.after = preparedStep.before ∧
              preparedStep.final = preparedStep.world := by
  refine ⟨by decide +kernel, ?_⟩
  have history : History 0 freshService openedWorld ([] ++ preparedStep :: [registeredStep])
      preparedStep.after preparedStep.final :=
    History.handle (fun _ => steadyKit.law) (History.handle (fun _ => steadyKit.law) .start _) _
  exact frames_authorized freshService_opened history rfl

end Sysboost.Platform
