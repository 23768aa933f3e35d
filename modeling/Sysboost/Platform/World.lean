import Sysboost.Platform.Engine
import Sysboost.Interaction.Runs

/-!
# The world of the transaction engine

A world holds the state files, what each engine keeps in `self.active`, who
holds the lock, and a log of everything that happened, newest first.  The laws
say what the store, the lease and a backend's `apply` promise; every other
answer is arbitrary.
-/

namespace Sysboost.Platform

open Sysboost.Core Interaction

/-- An engine together with the process it lives in. -/
abbrev EngineId := Nat

/-- A port call with its answer. -/
structure Event where
  call : Call
  answer : Answer call
  /-- Whether a backend apply changed its target; no engine can read it. -/
  changed : Bool

/-- The public operations of an engine. -/
inductive Request where
  | prepare (plan : Plan)
  | apply (sessionId : SessionId)
  | restore (sessionId : SessionId)
  | abortPrepared (sessionId : SessionId)
  | recoverUnfinished

/-- What they return. -/
inductive Reply where
  | prepared (result : Except SysboostError SessionId)
  | state (result : Except SysboostError SessionState)
  | aborted (result : Except SysboostError Unit)
  | recovered (result : Except SysboostError (List TransactionStatus))
deriving DecidableEq

/-- One entry of the log. -/
inductive Entry where
  | port (engine : EngineId) (event : Event)
  | requested (engine : EngineId) (request : Request)
  | returned (engine : EngineId) (request : Request) (reply : Reply)

structure World where
  files : List SessionRecord
  log : List Entry
  active : EngineId → Option SessionId
  holder : Option EngineId

/-- Nothing has happened and nothing is stored. -/
def World.empty : World :=
  ⟨[], [], fun _ => none, none⟩

/-! ## The state store -/

/-- No record of this session is stored. -/
def Fresh (files : List SessionRecord) (sessionId : SessionId) : Prop :=
  ∀ record ∈ files, record.sessionId ≠ sessionId

/-- The files after a replacement that took effect. -/
def substitute (record : SessionRecord) (files : List SessionRecord) : List SessionRecord :=
  files.map fun stored => if stored.sessionId = record.sessionId then record else stored

/-- The files after a removal that took effect. -/
def discard (sessionId : SessionId) (files : List SessionRecord) : List SessionRecord :=
  files.filter fun stored => stored.sessionId ≠ sessionId

/-- The records that are not positively restored. -/
def unfinished (files : List SessionRecord) : List SessionRecord :=
  files.filter fun stored => stored.session.state ≠ .restored

/-- A store update that fails may or may not have taken effect. -/
def StoreLaw (files after : List SessionRecord) : (call : Call) → Answer call → Prop
  | .create record, .ok () => Fresh files record.sessionId ∧ after = files ++ [record]
  | .create record, .error _ =>
      after = files ∨ Fresh files record.sessionId ∧ after = files ++ [record]
  | .replace record, .ok () =>
      ¬ Fresh files record.sessionId ∧ after = substitute record files
  | .replace record, .error _ => after = files ∨ after = substitute record files
  | .remove sessionId, .ok () => after = discard sessionId files
  | .remove sessionId, .error _ => after = files ∨ after = discard sessionId files
  | .load sessionId, .ok record =>
      after = files ∧ record ∈ files ∧ record.sessionId = sessionId
  | .loadUnfinished, .ok records => after = files ∧ records.Perm (unfinished files)
  | _, _ => after = files

/-! ## The lease and the lock -/

/-- `self.active` is private to its engine. -/
def LeaseLaw (engine : EngineId) (active after : EngineId → Option SessionId) :
    (call : Call) → Answer call → Prop
  | .active, answer => answer = active engine ∧ after = active
  | .hold sessionId, _ => after = Function.update active engine (some sessionId)
  | .release, _ => after = Function.update active engine none
  | _, _ => after = active

/-- The lock once a guard of this engine, if it holds one, is dropped. -/
def unlocked (engine : EngineId) (holder : Option EngineId) : Option EngineId :=
  if holder = some engine then none else holder

/-- An exclusive lock. -/
def LockLaw (engine : EngineId) (holder after : Option EngineId) :
    (call : Call) → Answer call → Prop
  | .acquire, .ok () => holder = none ∧ after = some engine
  | .release, _ => after = unlocked engine holder
  | .dropGuard, _ => after = unlocked engine holder
  | _, _ => after = holder

/-! ## The backend -/

/-- An apply that reports a failure whose retryability is known has left its
target unchanged. -/
def ApplyLaw : (call : Call) → Answer call → Bool → Prop
  | .apply _ _ _, .error error, changed => error.retryability ≠ .unknown → changed = false
  | _, _, _ => True

/-! ## Runs -/

/-- One port call of an engine.  The lock and all answers that no law mentions
are arbitrary. -/
structure Law (engine : EngineId) (before : World) (call : Call) (answer : Answer call)
    (after : World) : Prop where
  store : StoreLaw before.files after.files call answer
  lease : LeaseLaw engine before.active after.active call answer
  log : ∃ changed, ApplyLaw call answer changed ∧
    after.log = .port engine ⟨call, answer, changed⟩ :: before.log

/-- The program that serves a request. -/
def Request.program : Request → Engine Reply
  | .prepare plan => do return .prepared (← (Platform.prepare plan).run)
  | .apply sessionId => do return .state (← (Platform.apply sessionId).run)
  | .restore sessionId => do return .state (← (Platform.restore sessionId).run)
  | .abortPrepared sessionId => do return .aborted (← (Platform.abortPrepared sessionId).run)
  | .recoverUnfinished => do return .recovered (← Platform.recoverUnfinished.run)

/-- Note an entry in the log. -/
def World.note (world : World) (entry : Entry) : World :=
  { world with log := entry :: world.log }

/-- The process of an engine ends: its lease is forgotten and its lock is
released by the system. -/
def World.crash (world : World) (engine : EngineId) : World :=
  { world with
    active := Function.update world.active engine none
    holder := unlocked engine world.holder }

/-- Engines serving requests under given laws. -/
def service (law : EngineId → Environment Answer World) :
    Service Answer EngineId Request Reply World where
  program := Request.program
  env := law
  issue engine request world := world.note (.requested engine request)
  reply engine request reply world := world.note (.returned engine request reply)
  stop engine world := world.crash engine

/-- A run of engines, one request at a time, with crashes between any two port
calls. -/
abbrev Run := Service.Serial Answer EngineId Request Reply World

/-- The states that such runs reach. -/
abbrev Reachable : Run → Prop :=
  (service Law).SerialReachable World.empty

end Sysboost.Platform
