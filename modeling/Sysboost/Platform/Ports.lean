import Sysboost.Core.Record
import Sysboost.Interaction.Program

/-!
# The ports of the transaction engine

The engine reaches the outside only through its backend, state store, lock,
clock and session-ID source.  Each port method is a call, so the engine can be
stopped between any two of them.  The engine's own `active` field is read and
written by calls as well, because other engines share the lock its guard keeps.

The session of a backend call and the stage of a readback are not arguments of
the port; they label the call with the place it is made from.
-/

namespace Sysboost.Platform

open Sysboost.Core Interaction

/-- One port method with its arguments. -/
inductive Call where
  /-- Read the session of `self.active`. -/
  | active
  /-- Store a lease, and with it the lock guard, in `self.active`. -/
  | hold (sessionId : SessionId)
  /-- Clear `self.active`; the guard in it is dropped. -/
  | release
  /-- `ExclusiveSessionLock::acquire`. -/
  | acquire
  /-- Drop a guard that is not stored in `self.active`. -/
  | dropGuard
  /-- `Clock::now`. -/
  | now
  /-- `SessionIdSource::next_id`. -/
  | nextId
  | create (record : SessionRecord)
  | replace (record : SessionRecord)
  | remove (sessionId : SessionId)
  | load (sessionId : SessionId)
  | loadUnfinished
  | snapshot (mutation : PlannedMutation) (now : Timestamp)
  | apply (sessionId : SessionId) (mutation : PlannedMutation) (snapshot : Snapshot)
  | verify (sessionId : SessionId) (stage : Stage) (mutation : PlannedMutation)
      (expected : StateFingerprint) (expectedTargetIdentity : TargetIdentity)
  | restore (sessionId : SessionId) (mutation : PlannedMutation) (snapshot : Snapshot)
      (expectedOwnership : StateFingerprint)

/-- What a port method returns. -/
abbrev Answer : Call → Type
  | .active => Option SessionId
  | .hold _ => Unit
  | .release => Unit
  | .acquire => Except SysboostError Unit
  | .dropGuard => Unit
  | .now => Except SysboostError Timestamp
  | .nextId => Except SysboostError SessionId
  | .create _ => Except SysboostError Unit
  | .replace _ => Except SysboostError Unit
  | .remove _ => Except SysboostError Unit
  | .load _ => Except SysboostError SessionRecord
  | .loadUnfinished => Except SysboostError (List SessionRecord)
  | .snapshot _ _ => Except SysboostError Snapshot
  | .apply _ _ _ => Except SysboostError ApplyReceipt
  | .verify _ _ _ _ _ => Except SysboostError StateFingerprint
  | .restore _ _ _ _ => Except SysboostError RestoreReceipt

/-- Engine code. -/
abbrev Engine := Prog Answer

/-- Engine code that returns a `Result`; its `bind` is the `?` operator. -/
abbrev Fallible := ExceptT SysboostError Engine

namespace Fallible

/-- Call a port method that may fail. -/
def port {α : Type} (program : Engine (Except SysboostError α)) : Fallible α :=
  ExceptT.mk program

/-- `Result::map_err`. -/
def mapErr {α : Type} (change : SysboostError → SysboostError) (program : Fallible α) :
    Fallible α :=
  ExceptT.mk (program.run >>= fun result => Prog.ret (result.mapError change))

/-- Inspect a result instead of returning its error. -/
def attempt {α : Type} (program : Fallible α) : Fallible (Except SysboostError α) :=
  ExceptT.lift program.run

/-- `if condition { return Err(error); }` -/
def refuseIf (condition : Bool) (error : SysboostError) : Fallible Unit :=
  if condition then throw error else pure ()

/-- A step that calls no port; its error is returned. -/
def check {α : Type} (result : Except SysboostError α) : Fallible α :=
  ExceptT.mk (Prog.ret result)

end Fallible

end Sysboost.Platform
