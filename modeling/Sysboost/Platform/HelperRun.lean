import Sysboost.Platform.Privilege
import Sysboost.Platform.Testkit

/-!
# Runs of the helper

The engine of the service serves each call to its end in the world of the
engine; reads leave that world alone.  A history lists the inputs a service has
served since it was constructed, newest first.
-/

namespace Sysboost.Platform

open Sysboost.Core Interaction ByteCodec

/-- The engine serves a request to its end. -/
def Completes (engine : EngineId) (request : Request) (reply : Reply) (before after : World) :
    Prop :=
  ∃ final, Executes (Law engine) request.program (before.note (.requested engine request)) reply
      final ∧ after = final.note (.returned engine request reply)

/-- What the calls of the service do to the world of its engine. -/
def HelperLaw (engine : EngineId) (before : World) :
    (call : HelperCall) → HelperAnswer call → World → Prop
  | .recoverUnfinished, result, after =>
      Completes engine .recoverUnfinished (.recovered result) before after
  | .prepare plan, result, after =>
      Completes engine (.prepare plan) (.prepared result) before after
  | .apply sessionId, result, after =>
      Completes engine (.apply sessionId) (.state result) before after
  | .restore sessionId, result, after =>
      Completes engine (.restore sessionId) (.state result) before after
  | .abortPrepared sessionId, result, after =>
      Completes engine (.abortPrepared sessionId) (.aborted result) before after
  | .status sessionId, result, after =>
      after = before ∧ ∀ status, result = .ok status → ∃ record ∈ before.files,
        record.sessionId = sessionId ∧ status = ⟨sessionId, record.session.state⟩
  | .load sessionId, result, after =>
      after = before ∧ ∀ record, result = .ok record →
        record ∈ before.files ∧ record.sessionId = sessionId
  | .ownsBackend _, _, after => after = before
  | .validateAdmission _ _, _, after => after = before

/-- The service was constructed over an engine in some world. -/
def Opened (engine : EngineId) (expectedPeer : ProcessIdentity) (service : PrivilegeService)
    (world : World) : Prop :=
  ∃ earlier trace, Reachable ⟨earlier, none⟩ ∧
    Traces (PrivilegeService.new expectedPeer).run trace (.ok service) ∧
      Steps (HelperLaw engine) earlier trace world

/-- One input with the states around it and the calls made for it. -/
structure Handled where
  input : Input
  before : PrivilegeService
  world : World
  trace : List (Exchange HelperAnswer)
  output : Output
  after : PrivilegeService
  final : World

/-- The inputs served since the service was in its first state. -/
inductive History (engine : EngineId) (service : PrivilegeService) (world : World) :
    List Handled → PrivilegeService → World → Prop
  | start : History engine service world [] service world
  | serve {older : List Handled} {before after : PrivilegeService} {middle final : World}
      {input : Input} {trace : List (Exchange HelperAnswer)} {output : Output}
      (history : History engine service world older before middle)
      (traces : Traces (before.serve input) trace (output, after))
      (steps : Steps (HelperLaw engine) middle trace final) :
      History engine service world
        (⟨input, before, middle, trace, output, after, final⟩ :: older) after final

/-! ## The worlds of a helper are worlds of its engine -/

theorem Completes.reachable {engine : EngineId} {request : Request} {reply : Reply}
    {before after : World} (completes : Completes engine request reply before after)
    (reachable : Reachable ⟨before, none⟩) : Reachable ⟨after, none⟩ := by
  obtain ⟨final, run, rfl⟩ := completes
  exact Service.SerialReachable.serve reachable run

theorem HelperLaw.reachable {engine : EngineId} {before after : World} {call : HelperCall}
    {answer : HelperAnswer call} (law : HelperLaw engine before call answer after)
    (reachable : Reachable ⟨before, none⟩) : Reachable ⟨after, none⟩ := by
  cases call with
  | recoverUnfinished => exact Completes.reachable law reachable
  | prepare plan => exact Completes.reachable law reachable
  | apply sessionId => exact Completes.reachable law reachable
  | restore sessionId => exact Completes.reachable law reachable
  | abortPrepared sessionId => exact Completes.reachable law reachable
  | status sessionId => exact law.1 ▸ reachable
  | load sessionId => exact law.1 ▸ reachable
  | ownsBackend backend => exact (show after = before from law) ▸ reachable
  | validateAdmission mutation identity => exact (show after = before from law) ▸ reachable

theorem reachable_of_steps {engine : EngineId} {before after : World}
    {trace : List (Exchange HelperAnswer)} (steps : Steps (HelperLaw engine) before trace after)
    (reachable : Reachable ⟨before, none⟩) : Reachable ⟨after, none⟩ := by
  induction steps with
  | nil world => exact reachable
  | cons law _ ih => exact ih (law.reachable reachable)

theorem Opened.reachable {engine : EngineId} {expectedPeer : ProcessIdentity}
    {service : PrivilegeService} {world : World}
    (started : Opened engine expectedPeer service world) : Reachable ⟨world, none⟩ := by
  obtain ⟨earlier, trace, reachable, -, steps⟩ := started
  exact reachable_of_steps steps reachable

/-- Whatever is known of all runs of engines is known of the worlds of a helper. -/
theorem History.reachable {engine : EngineId} {service left : PrivilegeService}
    {world final : World} {handled : List Handled}
    (history : History engine service world handled left final)
    (reachable : Reachable ⟨world, none⟩) : Reachable ⟨final, none⟩ := by
  induction history with
  | start => exact reachable
  | serve _ _ steps ih => exact reachable_of_steps steps ih

/-! ## Histories with computed ports -/

section Computed

variable (respond : World → (call : Call) → Answer call × World) (engine : EngineId)

/-- Serve a request with computed ports: its result and the world afterwards. -/
def completed {α : Type} (request : Request) (program : Engine α) (reply : α → Reply)
    (world : World) : α × World :=
  let outcome := program.exec respond (world.note (.requested engine request))
  (outcome.1, outcome.2.note (.returned engine request (reply outcome.1)))

/-- The first record of a session. -/
def stored (world : World) (sessionId : SessionId) : Except SysboostError SessionRecord :=
  match world.files.find? fun record => record.sessionId = sessionId with
  | some record => .ok record
  | none => .error (.new .targetError "memory state is missing")

/-- The answers to a service whose engine has computed ports. -/
def help (world : World) : (call : HelperCall) → HelperAnswer call × World
  | .recoverUnfinished =>
      completed respond engine .recoverUnfinished Platform.recoverUnfinished.run .recovered world
  | .prepare plan =>
      completed respond engine (.prepare plan) (Platform.prepare plan).run .prepared world
  | .apply sessionId =>
      completed respond engine (.apply sessionId) (Platform.apply sessionId).run .state world
  | .restore sessionId =>
      completed respond engine (.restore sessionId) (Platform.restore sessionId).run .state world
  | .abortPrepared sessionId =>
      completed respond engine (.abortPrepared sessionId) (Platform.abortPrepared sessionId).run
        .aborted world
  | .status sessionId =>
      ((stored world sessionId).map fun record => ⟨sessionId, record.session.state⟩, world)
  | .load sessionId => (stored world sessionId, world)
  | .ownsBackend _ => (true, world)
  | .validateAdmission _ _ => (.ok (), world)

/-- Serve one input. -/
def handle (service : PrivilegeService) (world : World) (input : Input) : Handled where
  input := input
  before := service
  world := world
  trace := (service.serve input).trace (help respond engine) world
  output := ((service.serve input).exec (help respond engine) world).1.1
  after := ((service.serve input).exec (help respond engine) world).1.2
  final := ((service.serve input).exec (help respond engine) world).2

variable {respond engine}
  (obeys : ∀ world call, Law engine world call (respond world call).1 (respond world call).2)

theorem mem_of_stored {world : World} {sessionId : SessionId} {record : SessionRecord}
    (found : stored world sessionId = .ok record) :
    record ∈ world.files ∧ record.sessionId = sessionId := by
  unfold stored at found
  split at found
  next same =>
    cases found
    have own := List.find?_some same
    exact ⟨List.mem_of_find?_eq_some same, of_decide_eq_true own⟩
  · cases found

include obeys

theorem completed_law {α : Type} {request : Request} {program : Engine α} {reply : α → Reply}
    (serves : request.program = do return reply (← program)) (world : World) :
    Completes engine request (reply (completed respond engine request program reply world).1)
      world (completed respond engine request program reply world).2 := by
  refine ⟨(program.exec respond (world.note (.requested engine request))).2, ?_, rfl⟩
  have run := Executes.exec obeys request.program (world.note (.requested engine request))
  rw [serves, Prog.exec_bind] at run
  exact serves ▸ run

theorem help_law (world : World) (call : HelperCall) :
    HelperLaw engine world call (help respond engine world call).1
      (help respond engine world call).2 := by
  cases call with
  | recoverUnfinished => exact completed_law obeys rfl world
  | prepare plan => exact completed_law obeys rfl world
  | apply sessionId => exact completed_law obeys rfl world
  | restore sessionId => exact completed_law obeys rfl world
  | abortPrepared sessionId => exact completed_law obeys rfl world
  | status sessionId =>
      refine ⟨rfl, fun status same => ?_⟩
      cases found : stored world sessionId with
      | error error => simp [help, found, Except.map] at same
      | ok record =>
          obtain ⟨member, own⟩ := mem_of_stored found
          simp only [help, found, Except.map, Except.ok.injEq] at same
          exact ⟨record, member, own, same.symm⟩
  | load sessionId => exact ⟨rfl, fun record found => mem_of_stored found⟩
  | ownsBackend backend => rfl
  | validateAdmission mutation identity => rfl

/-- A history goes on with an input. -/
theorem History.handle {service left : PrivilegeService} {world final : World}
    {handled : List Handled} (history : History engine service world handled left final)
    (input : Input) :
    History engine service world (Platform.handle respond engine left final input :: handled)
      (Platform.handle respond engine left final input).after
      (Platform.handle respond engine left final input).final :=
  .serve history (Prog.traces_trace _ _ _) (Prog.steps_trace _ (help_law obeys) _ _)

/-- A service constructed over an engine with computed ports. -/
theorem opened_of_exec {world : World} {expectedPeer : ProcessIdentity}
    {service : PrivilegeService} (reachable : Reachable ⟨world, none⟩)
    (built : ((PrivilegeService.new expectedPeer).run.exec (help respond engine) world).1 =
      .ok service) :
    Opened engine expectedPeer service
      ((PrivilegeService.new expectedPeer).run.exec (help respond engine) world).2 :=
  ⟨world, _, reachable, built ▸ Prog.traces_trace _ _ _, Prog.steps_trace _ (help_law obeys) _ _⟩

end Computed

/-! ## Fixtures -/

/-- The peer of the fixtures. -/
def helperPeer : ProcessIdentity :=
  ⟨41001, 77, .fill 16 0x41⟩

/-- A service as its constructor leaves it. -/
def freshService : PrivilegeService :=
  ⟨helperPeer, ⟨fun _ => none⟩, fun _ => none, fun _ => none⟩

/-- The world in which the fixture service is constructed. -/
def openedWorld : World :=
  ((PrivilegeService.new helperPeer).run.exec (help (steadyKit.respond 0) 0) World.empty).2

theorem freshService_opened : Opened 0 helperPeer freshService openedWorld :=
  opened_of_exec (fun _ => steadyKit.law) .refl rfl

/-- The frame that asks for a plan. -/
def prepareFrame (plan : Plan) : Bytes :=
  (Protocol.Request.prepare ⟨1, by decide⟩ plan.id plan.planDigest).encode.toOption.getD []

end Sysboost.Platform
