import Sysboost.Core.Plan

/-!
# Session state machine and journal transition records
-/

namespace Sysboost.Core

open ByteCodec

/-- Durable transaction/session state. -/
inductive SessionState where
  | new
  | detected
  | planned
  | snapshotted
  | intentDurable
  | applying
  | active
  | restoring
  | restored
  | rollingBack
  | degraded
  | recoveryPending
deriving DecidableEq, Repr

namespace SessionState

/-- The frozen legal state transition table. -/
def canTransition : SessionState → SessionState → Bool
  | new, detected => true
  | detected, planned => true
  | planned, snapshotted => true
  | snapshotted, intentDurable => true
  | intentDurable, applying => true
  | intentDurable, rollingBack => true
  | applying, active => true
  | applying, rollingBack => true
  | active, restoring => true
  | restoring, restored => true
  | restoring, degraded => true
  | rollingBack, restored => true
  | rollingBack, degraded => true
  | degraded, recoveryPending => true
  | recoveryPending, restoring => true
  | recoveryPending, degraded => true
  | _, _ => false

/-- The derived `Debug` text. -/
def debug : SessionState → String
  | new => "New"
  | detected => "Detected"
  | planned => "Planned"
  | snapshotted => "Snapshotted"
  | intentDurable => "IntentDurable"
  | applying => "Applying"
  | active => "Active"
  | restoring => "Restoring"
  | restored => "Restored"
  | rollingBack => "RollingBack"
  | degraded => "Degraded"
  | recoveryPending => "RecoveryPending"

/-- No transition leaves `restored`. -/
theorem canTransition_restored (next : SessionState) : restored.canTransition next = false := by
  cases next <;> rfl

/-- No transition leads back to `new`. -/
theorem canTransition_new (state : SessionState) : state.canTransition new = false := by
  cases state <;> rfl

end SessionState

/-- Header persisted before mutation. -/
structure SessionHeader where
  sessionId : SessionId
  planId : PlanId
  planDigest : Block 32
  createdAt : Timestamp
  targets : List TargetId
deriving DecidableEq

/-- In-memory authoritative session state owned by the helper. -/
structure Session where
  header : SessionHeader
  state : SessionState
deriving DecidableEq

def stageForState : SessionState → Stage
  | .new | .detected => .detect
  | .planned => .plan
  | .snapshotted => .snapshot
  | .intentDurable => .durableIntent
  | .applying => .apply
  | .active => .verify
  | .restoring | .restored => .restore
  | .rollingBack | .degraded | .recoveryPending => .recovery

namespace Session

/-- Create a new session in `new` state from a planned transaction. -/
def new (sessionId : SessionId) (plan : Plan) (createdAt : Timestamp) : Session where
  header := {
    sessionId
    planId := plan.id
    planDigest := plan.planDigest
    createdAt
    targets := plan.mutations.map PlannedMutation.target }
  state := .new

/-- Apply one legal state transition. -/
def transition (session : Session) (next : SessionState) : Except SysboostError Session :=
  if !session.state.canTransition next then
    .error (((SysboostError.new .invariantViolation "illegal session state transition").withStage
      (stageForState next)).withSession session.header.sessionId)
  else .ok { session with state := next }

end Session

/-- One append-only journal state transition. -/
structure TransitionRecord where
  sequence : UInt64
  sessionId : SessionId
  fromState : SessionState
  toState : SessionState
  at_ : Timestamp
  reason : String
deriving DecidableEq

end Sysboost.Core
