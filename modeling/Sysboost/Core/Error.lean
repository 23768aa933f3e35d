import Sysboost.Core.Ids

/-!
# Error taxonomy

Every fallible operation returns a `SysboostError`.  The builders replace one
component each; a new error has an empty context and is not retryable.
-/

namespace Sysboost.Core

/-- Transaction stage at which an error occurred. -/
inductive Stage where
  | detect
  | plan
  | snapshot
  | durableIntent
  | apply
  | verify
  | restore
  | recovery
  | transport
  | config
deriving DecidableEq, Repr

/-- Stable public error category. -/
inductive ErrorCode where
  | configError
  | capabilityError
  | unsupported
  | authorizationError
  | targetError
  | planningError
  | snapshotError
  | durabilityError
  | transportError
  | applyError
  | verificationError
  | restoreConflict
  | restoreError
  | journalCorrupt
  | invariantViolation
  | invalidInput
deriving DecidableEq, Repr

/-- The `Display` text of an error code. -/
def ErrorCode.display : ErrorCode → String
  | configError => "config_error"
  | capabilityError => "capability_error"
  | unsupported => "unsupported"
  | authorizationError => "authorization_error"
  | targetError => "target_error"
  | planningError => "planning_error"
  | snapshotError => "snapshot_error"
  | durabilityError => "durability_error"
  | transportError => "transport_error"
  | applyError => "apply_error"
  | verificationError => "verification_error"
  | restoreConflict => "restore_conflict"
  | restoreError => "restore_error"
  | journalCorrupt => "journal_corrupt"
  | invariantViolation => "invariant_violation"
  | invalidInput => "invalid_input"

/-- Whether retrying without changing state is safe. -/
inductive Retryability where
  | never
  | retry
  | afterRecovery
  | unknown
deriving DecidableEq, Repr

/-- Structured identifiers attached to an error. -/
structure ErrorContext where
  stage : Option Stage
  sessionId : Option SessionId
  mutationId : Option MutationId
  backendId : Option BackendId
  capabilityId : Option CapabilityId
  targetId : Option TargetId
deriving DecidableEq

/-- `ErrorContext::default`. -/
def ErrorContext.default : ErrorContext :=
  ⟨none, none, none, none, none, none⟩

/-- Domain error with stable category and useful context. -/
structure SysboostError where
  code : ErrorCode
  message : String
  context : ErrorContext
  retryability : Retryability
deriving DecidableEq

namespace SysboostError

/-- A fail-closed error with non-retryable default guidance. -/
def new (code : ErrorCode) (message : String) : SysboostError :=
  ⟨code, message, .default, .never⟩

def withStage (error : SysboostError) (stage : Stage) : SysboostError :=
  { error with context := { error.context with stage := some stage } }

def withSession (error : SysboostError) (sessionId : SessionId) : SysboostError :=
  { error with context := { error.context with sessionId := some sessionId } }

def withMutation (error : SysboostError) (mutationId : MutationId) : SysboostError :=
  { error with context := { error.context with mutationId := some mutationId } }

def withTarget (error : SysboostError) (targetId : TargetId) : SysboostError :=
  { error with context := { error.context with targetId := some targetId } }

def withBackend (error : SysboostError) (backendId : BackendId) : SysboostError :=
  { error with context := { error.context with backendId := some backendId } }

def withCapability (error : SysboostError) (capabilityId : CapabilityId) : SysboostError :=
  { error with context := { error.context with capabilityId := some capabilityId } }

/-- Set retry guidance. -/
def retryable (error : SysboostError) (retryability : Retryability) : SysboostError :=
  { error with retryability := retryability }

section Builders

variable (error : SysboostError) (stage : Stage) (sessionId : SessionId)
  (mutationId : MutationId) (targetId : TargetId) (retryability : Retryability)

@[simp] theorem new_code (code : ErrorCode) (message : String) : (new code message).code = code :=
  rfl

@[simp] theorem new_message (code : ErrorCode) (message : String) :
    (new code message).message = message :=
  rfl

@[simp] theorem withStage_code : (error.withStage stage).code = error.code := rfl

@[simp] theorem withSession_code : (error.withSession sessionId).code = error.code := rfl

@[simp] theorem withMutation_code : (error.withMutation mutationId).code = error.code := rfl

@[simp] theorem withTarget_code : (error.withTarget targetId).code = error.code := rfl

@[simp] theorem retryable_code : (error.retryable retryability).code = error.code := rfl

@[simp] theorem withStage_message : (error.withStage stage).message = error.message := rfl

@[simp] theorem withSession_message : (error.withSession sessionId).message = error.message := rfl

@[simp] theorem withMutation_message :
    (error.withMutation mutationId).message = error.message :=
  rfl

@[simp] theorem withTarget_message : (error.withTarget targetId).message = error.message := rfl

@[simp] theorem withBackend_message (backendId : BackendId) :
    (error.withBackend backendId).message = error.message :=
  rfl

@[simp] theorem withCapability_message (capabilityId : CapabilityId) :
    (error.withCapability capabilityId).message = error.message :=
  rfl

@[simp] theorem retryable_message : (error.retryable retryability).message = error.message := rfl

@[simp] theorem withStage_retryability :
    (error.withStage stage).retryability = error.retryability :=
  rfl

@[simp] theorem withSession_retryability :
    (error.withSession sessionId).retryability = error.retryability :=
  rfl

@[simp] theorem withMutation_retryability :
    (error.withMutation mutationId).retryability = error.retryability :=
  rfl

end Builders

end SysboostError

end Sysboost.Core
