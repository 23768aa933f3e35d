import Sysboost.Core.Plan

/-!
# Planner input

The effective policy with its proposals and preserve rules, and the
current-state facts that discovery collected.
-/

namespace Sysboost.Planner

open Sysboost.Core

/-! ## Policy -/

/-- Runtime mode selected by policy. -/
inductive PolicyMode where
  | report
  | boost
deriving DecidableEq

/-- One user/configuration request before capability planning. -/
structure PolicyRequest where
  capability : CapabilityId
  target : TargetId
  operation : MutationKind
  required : Bool
deriving DecidableEq

/-- Source precedence for explicit policy proposals. -/
inductive PolicySource where
  | profile
  | invocation
  | user
  | system
deriving DecidableEq

/-- The precedence of a source, which is also its place in the derived order. -/
def PolicySource.precedence : PolicySource → Nat
  | profile => 0
  | invocation => 1
  | user => 2
  | system => 3

/-- A preserve rule that suppresses a profile or lower-level mutation intent. -/
structure PreserveRule where
  feature : Feature
  target : Option TargetId
  reason : String
deriving DecidableEq

/-- Whether the rule preserves the feature at the target; a rule without a
target preserves the entire family. -/
def PreserveRule.covers (rule : PreserveRule) (feature : Feature) (target : Option TargetId) :
    Bool :=
  rule.feature = feature && (rule.target.isNone || rule.target = target)

/-- A typed proposal with an explicit trust/source precedence. -/
structure PolicyProposal where
  source : PolicySource
  request : PolicyRequest
deriving DecidableEq

/-- Effective planner policy after configuration trust resolution; the opt-ins
are listed in their order. -/
structure PlannerPolicy where
  profile : Profile
  mode : PolicyMode
  maxRisk : RiskClass
  allowExperimental : Bool
  requiredDefault : Bool
  sessionTimeoutMs : UInt64
  preserves : List PreserveRule
  explicitOptIns : List Feature
  proposals : List PolicyProposal
deriving DecidableEq

namespace PlannerPolicy

/-- A mutation-admitting policy for a profile with experimental features
disabled until the caller opts in. -/
def forProfile (profile : Profile) : PlannerPolicy where
  profile := profile
  mode := .boost
  maxRisk := .critical
  allowExperimental := false
  requiredDefault := false
  sessionTimeoutMs := 30000
  preserves := []
  explicitOptIns := []
  proposals := []

/-- The reason of the first rule that preserves the feature at the target. -/
def isPreserved (policy : PlannerPolicy) (feature : Feature) (target : Option TargetId) :
    Option String :=
  policy.preserves.findSome? fun rule => if rule.covers feature target then rule.reason else none

def isOptedIn (policy : PlannerPolicy) (feature : Feature) : Bool :=
  feature ∈ policy.explicitOptIns

/-- `validate_policy`. -/
def validate (policy : PlannerPolicy) : Except SysboostError Unit :=
  if policy.sessionTimeoutMs = 0 then
    .error ((SysboostError.new .configError
      "planner policy requires a positive session timeout").withStage .config)
  else .ok ()

end PlannerPolicy

/-! ## Current state -/

/-- Whether a current-state fact is known or deliberately indeterminate. -/
inductive CurrentValue where
  | known (value : PlanValue)
  | unknown (reason : String)
deriving DecidableEq

/-- A typed target reference supplied by discovery. -/
inductive TypedTarget where
  | cpuPolicy (policy : CpuPolicyId)
  | cpuSystem
  | cgroup (cgroup : CgroupId)
  | process (process : ProcessId)
  | gpu (device : GpuId)
  | irq (irq : IrqId)
  | sysctl (key : ApprovedSysctlKey)
deriving DecidableEq

/-- One immutable current-state fact consumed by the planner. -/
structure CurrentStateFact where
  capability : CapabilityId
  target : TargetId
  control : ControlId
  value : CurrentValue
  fingerprint : Option StateFingerprint
  targetIdentity : Option TargetIdentity
  supportedValues : List PlanValue
  evidence : List CapabilityEvidence
  typedTarget : Option TypedTarget
deriving DecidableEq

/-- The value of a fact, if it is known. -/
def CurrentStateFact.current (fact : CurrentStateFact) : Option PlanValue :=
  match fact.value with
  | .known value => some value
  | .unknown _ => none

/-- Complete current-state input to the pure planner. -/
structure CurrentState where
  observedAt : Timestamp
  facts : List CurrentStateFact
deriving DecidableEq

/-- Pure planner input. -/
structure PlannerInput where
  policy : PlannerPolicy
  inventory : CapabilityInventory
  currentState : CurrentState
deriving DecidableEq

end Sysboost.Planner
