import Sysboost.Platform.World
import Sysboost.Core.Journal

/-!
# The ports of the test kit

The state store and the lock live in memory, the session IDs are fixed, and the
fake backend keeps one value for each target.  These ports obey every law of the
world, so whatever they do is a run.
-/

namespace Sysboost.Platform

open Sysboost.Core Interaction Interaction.Service

/-- What a test chooses. -/
structure Testkit where
  sessionId : SessionId
  timestamp : List Entry → Except SysboostError Timestamp
  receipt : PlannedMutation → Except SysboostError ApplyReceipt

/-- The value of a fake target after what the log says. -/
def fakeValue (target : TargetId) (seed : StateFingerprint) : List Entry → StateFingerprint
  | [] => seed
  | .port _ ⟨.apply _ mutation _, .ok receipt, _⟩ :: older =>
      if mutation.target = target then receipt.ownershipFingerprint
      else fakeValue target seed older
  | .port _ ⟨.restore _ mutation _ _, .ok receipt, _⟩ :: older =>
      if mutation.target = target then receipt.restoredFingerprint
      else fakeValue target seed older
  | _ :: older => fakeValue target seed older

/-- `TargetIdentity::from_bytes([mutation.mutation_id.get() as u8; 16])`. -/
def fixtureIdentity (mutation : PlannedMutation) : TargetIdentity :=
  ⟨.fill 16 (UInt8.ofNat mutation.mutationId.get.toNat)⟩

namespace Testkit

variable (kit : Testkit) (engine : EngineId) (world : World)

/-- A record of this session is in the store. -/
def stored (files : List SessionRecord) (sessionId : SessionId) : Bool :=
  files.any fun record => record.sessionId = sessionId

/-- `MemoryStateStore::create`: a record that cannot be encoded is not stored. -/
def create (files : List SessionRecord) (record : SessionRecord) : Except SysboostError Unit :=
  if stored files record.sessionId then
    .error (.new .invariantViolation "memory state store session ID collision")
  else record.encode.map fun _ => ()

/-- `MemoryStateStore::replace`: a record that cannot be encoded is not stored. -/
def replace (files : List SessionRecord) (record : SessionRecord) : Except SysboostError Unit :=
  if stored files record.sessionId then record.encode.map fun _ => ()
  else .error (.new .durabilityError "memory state store replacement target is missing")

/-- `FakeMutationBackend::snapshot`. -/
def snapshot (log : List Entry) (mutation : PlannedMutation) (now : Timestamp) : Snapshot where
  mutationId := mutation.mutationId
  target := mutation.target
  originalRaw := ⟨[], by decide⟩
  originalTyped := mutation.desired
  originalFingerprint := fakeValue mutation.target mutation.precondition log
  equality := mutation.equality
  targetIdentity := fixtureIdentity mutation
  capturedAt := now

def answer : (call : Call) → Answer call
  | .active => world.active engine
  | .hold _ => ()
  | .release => ()
  | .acquire =>
      if world.holder.isNone then .ok ()
      else .error (.new .authorizationError "memory mutation lock is already held")
  | .dropGuard => ()
  | .now => kit.timestamp world.log
  | .nextId => .ok kit.sessionId
  | .create record => create world.files record
  | .replace record => replace world.files record
  | .remove _ => .ok ()
  | .load sessionId =>
      match world.files.find? fun record => record.sessionId = sessionId with
      | some record => .ok record
      | none => .error (.new .targetError "memory state is missing")
  | .loadUnfinished => .ok (unfinished world.files)
  | .snapshot mutation now => .ok (snapshot world.log mutation now)
  | .apply _ mutation _ => kit.receipt mutation
  | .verify _ _ mutation _ _ => .ok (fakeValue mutation.target mutation.precondition world.log)
  | .restore _ mutation snapshot _ =>
      .ok ⟨mutation.mutationId, snapshot.originalFingerprint, true⟩

/-- The state files after a call. -/
def files : Call → List SessionRecord
  | .create record =>
      if (create world.files record).toBool then world.files ++ [record] else world.files
  | .replace record =>
      if (replace world.files record).toBool then substitute record world.files else world.files
  | .remove sessionId => discard sessionId world.files
  | _ => world.files

/-- What the engines keep after a call. -/
def active : Call → EngineId → Option SessionId
  | .hold sessionId => Function.update world.active engine (some sessionId)
  | .release => Function.update world.active engine none
  | _ => world.active

/-- Who holds the lock after a call. -/
def holder : Call → Option EngineId
  | .acquire => if world.holder.isNone then some engine else world.holder
  | .release => unlocked engine world.holder
  | .dropGuard => unlocked engine world.holder
  | _ => world.holder

/-- Answer a call and change the world. -/
def respond (call : Call) : Answer call × World :=
  (answer kit engine world call, {
    files := files world call
    active := active engine world call
    holder := holder engine world call
    log := .port engine ⟨call, answer kit engine world call, false⟩ :: world.log })

/-! ## The laws -/

variable {engine world}

theorem fresh_of_stored {files : List SessionRecord} {sessionId : SessionId} :
    stored files sessionId = false ↔ Fresh files sessionId := by
  simp [stored, Fresh]

theorem store_law (call : Call) :
    StoreLaw world.files (files world call) call (answer kit engine world call) := by
  cases call with
  | create record =>
      cases result : create world.files record with
      | error error => simp [StoreLaw, answer, files, result, Except.toBool]
      | ok done =>
          have fresh : stored world.files record.sessionId = false := by
            by_contra present
            rw [Bool.not_eq_false] at present
            simp [create, present] at result
          simp [StoreLaw, answer, files, result, Except.toBool, fresh_of_stored.mp fresh]
  | replace record =>
      cases result : replace world.files record with
      | error error => simp [StoreLaw, answer, files, result, Except.toBool]
      | ok done =>
          have present : ¬ Fresh world.files record.sessionId := by
            rw [← fresh_of_stored]
            intro fresh
            simp [replace, fresh] at result
          simp [StoreLaw, answer, files, result, Except.toBool, present]
  | remove sessionId => rfl
  | load sessionId =>
      cases found : world.files.find? fun record => record.sessionId = sessionId with
      | none => simp [StoreLaw, answer, files, found]
      | some record =>
          have own := List.find?_some found
          have member := List.mem_of_find?_eq_some found
          simp only [decide_eq_true_eq] at own
          simp [StoreLaw, answer, files, found, own, member]
  | loadUnfinished => exact ⟨rfl, List.Perm.refl _⟩
  | _ => rfl

theorem lease_law (call : Call) :
    LeaseLaw engine world.active (active engine world call) call
      (answer kit engine world call) := by
  cases call with
  | active => exact ⟨rfl, rfl⟩
  | _ => rfl

theorem lock_law (call : Call) :
    LockLaw engine world.holder (holder engine world call) call
      (answer kit engine world call) := by
  cases call with
  | acquire =>
      cases held : world.holder <;> simp [LockLaw, answer, holder, held]
  | _ => rfl

/-- The ports of the test kit obey the laws of the world. -/
theorem law (call : Call) :
    Law engine world call (respond kit engine world call).1 (respond kit engine world call).2 where
  store := kit.store_law call
  lease := kit.lease_law call
  log := by
    refine ⟨false, ?_, rfl⟩
    cases call with
    | apply sessionId mutation snapshot =>
        show ApplyLaw (.apply sessionId mutation snapshot) (kit.receipt mutation) false
        cases kit.receipt mutation <;> simp [ApplyLaw]
    | _ => trivial

/-! ## Runs with these ports -/

/-- The reply to a request and the world when it is made. -/
def outcome (kit : Testkit) (engine : EngineId) (request : Request) (world : World) :
    Reply × World :=
  request.program.exec (kit.respond engine) (world.note (.requested engine request))

/-- Serve a request. -/
def serve (kit : Testkit) (engine : EngineId) (request : Request) (world : World) : World :=
  (kit.outcome engine request world).2.note
    (.returned engine request (kit.outcome engine request world).1)

/-- Serve a request for some calls, then the process ends. -/
def interrupt (kit : Testkit) (engine : EngineId) (request : Request) (calls : Nat)
    (world : World) : World :=
  (request.program.advance (kit.respond engine) calls
    (world.note (.requested engine request))).2.crash engine

theorem reachable_outcome {world : World} (reachable : Reachable ⟨world, none⟩)
    (engine : EngineId) (request : Request) :
    Reachable ⟨(kit.outcome engine request world).2.note
      (.returned engine request (kit.outcome engine request world).1), none⟩ :=
  SerialReachable.serve reachable (Executes.exec (fun _ => kit.law) _ _)

theorem reachable_serve {world : World} (reachable : Reachable ⟨world, none⟩) (engine : EngineId)
    (request : Request) : Reachable ⟨kit.serve engine request world, none⟩ :=
  kit.reachable_outcome reachable engine request

theorem reachable_interrupt {world : World} (reachable : Reachable ⟨world, none⟩)
    (engine : EngineId) (request : Request) (calls : Nat) :
    Reachable ⟨kit.interrupt engine request calls world, none⟩ := by
  have started := reachable.start engine request
  exact (started.advance (fun _ => kit.law) calls).tail (.stop _ _ _ _)

end Testkit

/-! ## Fixtures -/

def fakeBackend : BackendId :=
  ⟨"fixture.fake", by decide⟩

/-- `complete_fixture_plan` for one mutation. -/
def fixturePlan (mutation : PlannedMutation) : Plan where
  id := ⟨.fill 16 0xab⟩
  planDigest := .fill 32 0x11
  policyDigest := .fill 32 0x22
  capabilityDigest := .fill 32 0x33
  mutations := [mutation]
  items := [{
    capability := mutation.capability
    operation := mutation.kind.operationId
    backend := some fakeBackend
    target := some mutation.target
    control := .cpuGovernor
    current := some (.typed mutation.desired)
    desired := some (.typed mutation.desired)
    action := .mutation
    feature := .cpuGovernor
    featureClass := .runtimeMutable
    risk := .low
    explicitOptInRequired := false
    experimental := .notExperimental
    evidence := [⟨.synthetic, "deterministic fake executor fixture"⟩]
    rationale := "fixture mutation has a complete typed contract"
    reason := none
    targetIdentity := some (fixtureIdentity mutation)
    snapshot := ⟨true, true, true, mutation.equality⟩
    restore := ⟨true, some .compareAndRestore, mutation.equality⟩
    verification := ⟨true, true, mutation.equality⟩
    dependencies := mutation.dependencies
    mutation := some mutation }]
  profile := some .performance

/-- The value a session gives its target. -/
def fixtureOwned : StateFingerprint :=
  ⟨.fill 32 9⟩

/-- Ports that never fail. -/
def steadyKit : Testkit where
  sessionId := ⟨.fill 16 2⟩
  timestamp _ := .ok (.fromUnixMillis 7)
  receipt mutation :=
    .ok ⟨mutation.mutationId, mutation.precondition, fixtureOwned, fixtureOwned⟩

/-- A session that is prepared and applied by an engine. -/
def appliedWorld (kit : Testkit) : World :=
  kit.serve 0 (.apply kit.sessionId)
    (kit.serve 0 (.prepare (fixturePlan governorMutation)) World.empty)

theorem appliedWorld_reachable (kit : Testkit) : Reachable ⟨appliedWorld kit, none⟩ :=
  kit.reachable_serve (kit.reachable_serve .refl 0 _) 0 _

example : (appliedWorld steadyKit).files.map (·.session.state) = [.active] := by
  decide +kernel

end Sysboost.Platform
