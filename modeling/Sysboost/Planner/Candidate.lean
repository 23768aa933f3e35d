import Sysboost.Ordered.Map
import Sysboost.Planner.Contract
import Sysboost.Planner.Specs
import Mathlib.Data.List.MinMax
import Mathlib.Order.WithBot

/-!
# Candidates

A candidate is a decision about one operation at one target, with the draft of
its mutation if it has one.  Proposals and candidates are kept in the order of
their keys.
-/

namespace Sysboost.Planner

open Sysboost.Core Ordered

/-- What tells candidates apart. -/
structure CandidateKey where
  capability : CapabilityId
  target : Option TargetId
  operation : OperationId
  order : Nat

namespace CandidateKey

/-- The place of a key in the derived order. -/
def place (key : CandidateKey) : CapabilityId ×ₗ WithBot TargetId ×ₗ OperationId ×ₗ Nat :=
  toLex (key.capability, toLex (key.target, toLex (key.operation, key.order)))

theorem place_injective : Function.Injective place := by
  rintro ⟨capability, target, operation, order⟩ ⟨capability', target', operation', order'⟩ same
  simp only [place, toLex_inj, Prod.mk.injEq] at same
  obtain ⟨rfl, rfl, rfl, rfl⟩ := same
  rfl

instance : LinearOrder CandidateKey :=
  .lift' place place_injective

end CandidateKey

/-- The key under which a request is selected. -/
def PolicyRequest.key (request : PolicyRequest) : CandidateKey :=
  ⟨request.capability, some request.target, request.operation.operationId, 0⟩

/-- A mutation before its ID and its dependencies are assigned. -/
structure MutationDraft where
  capability : CapabilityId
  target : TargetId
  kind : MutationKind
  desired : TypedValue
  precondition : StateFingerprint
  equality : EqualityKind
  targetIdentity : TargetIdentity
  dependencies : List OperationId
deriving DecidableEq

structure Candidate where
  key : CandidateKey
  item : PlanItem
  mutation : Option MutationDraft
  dependencies : List OperationId

/-- What a decision states about its operation and target. -/
structure Decision where
  capability : CapabilityId
  operation : OperationId
  backend : Option BackendId
  target : Option TargetId
  control : ControlId
  current : Option PlanValue
  desired : Option PlanValue
  action : PlanAction
  feature : Feature
  featureClass : FeatureClass
  risk : RiskClass
  explicitOptInRequired : Bool
  experimental : ExperimentalStatus
  evidence : List CapabilityEvidence
  rationale : String
  reason : Option String
  targetIdentity : Option TargetIdentity

namespace Candidate

/-- A decision that changes nothing. -/
def nonMutating (order : Nat) (decision : Decision) : Candidate where
  key := ⟨decision.capability, decision.target, decision.operation, order⟩
  item := {
    capability := decision.capability
    operation := decision.operation
    backend := decision.backend
    target := decision.target
    control := decision.control
    current := decision.current
    desired := decision.desired
    action := decision.action
    feature := decision.feature
    featureClass := decision.featureClass
    risk := decision.risk
    explicitOptInRequired := decision.explicitOptInRequired
    experimental := decision.experimental
    evidence := decision.evidence
    rationale := decision.rationale
    reason := decision.reason
    targetIdentity := decision.targetIdentity
    snapshot := .notApplicable
    restore := .notApplicable
    verification := .notApplicable
    dependencies := []
    mutation := none }
  mutation := none
  dependencies := []

/-- An admitted mutation. -/
def mutating (order : Nat) (capability : CapabilityId) (operation : OperationId)
    (contract : OperationContract) (target : TargetId) (control : ControlId)
    (current desired : Option PlanValue) (feature : Feature) (evidence : List CapabilityEvidence)
    (draft : MutationDraft) : Candidate where
  key := ⟨capability, some target, operation, order⟩
  item := {
    capability := capability
    operation := operation
    backend := some contract.backend
    target := some target
    control := control
    current := current
    desired := desired
    action := .mutation
    feature := feature
    featureClass := contract.classification
    risk := contract.risk
    explicitOptInRequired := contract.explicitOptIn
    experimental :=
      if contract.classification = .experimental then .enabled else .notExperimental
    evidence := evidence
    rationale := "typed operation is supported, policy-admitted, and reversible by contract"
    reason := none
    targetIdentity := some draft.targetIdentity
    snapshot := contract.snapshot
    restore := contract.restore
    verification := contract.verification
    dependencies := []
    mutation := none }
  mutation := some draft
  dependencies := draft.dependencies

end Candidate

/-! ## Collecting candidates -/

/-- The proposals selected for their keys. -/
abbrev Proposals := OrderedMap CandidateKey PolicyProposal

/-- The order in which proposals are selected: by key, then the most trusted
source first. -/
def PolicyProposal.selectionKey (proposal : PolicyProposal) :
    CapabilityId ×ₗ TargetId ×ₗ OperationId ×ₗ Natᵒᵈ :=
  toLex (proposal.request.capability, toLex (proposal.request.target,
    toLex (proposal.request.operation.operationId, OrderDual.toDual proposal.source.precedence)))

/-- The loop body of `select_proposals`. -/
def selectProposal (selected : Proposals) (proposal : PolicyProposal) :
    Except SysboostError Proposals := do
  proposal.request.validate
  match selected.get proposal.request.key with
  | none => return selected.insert proposal.request.key proposal
  | some existing =>
      if existing.request.operation = proposal.request.operation then return selected
      else if existing.source.precedence > proposal.source.precedence then return selected
      else if existing.source.precedence < proposal.source.precedence then
        return selected.insert proposal.request.key proposal
      else
        throw ((SysboostError.new .planningError
          "equal-precedence policy sources propose incompatible values").withStage .plan)

def selectProposals (proposals : List PolicyProposal) : Except SysboostError Proposals :=
  (sortBy PolicyProposal.selectionKey proposals).foldlM selectProposal .empty

/-- The candidates inserted so far. -/
abbrev Candidates := OrderedMap CandidateKey Candidate

def insertCandidate (candidates : Candidates) (candidate : Candidate) :
    Except SysboostError Candidates :=
  match candidates.get candidate.key with
  | none => .ok (candidates.insert candidate.key candidate)
  | some existing =>
      if existing.item.action = .mutation ∧ candidate.item.action = .mutation ∧
          existing.item.desired ≠ candidate.item.desired then
        let error := ((SysboostError.new .planningError
          "duplicate target/control proposals have incompatible desired values").withStage
            .plan).withCapability candidate.item.capability
        .error (candidate.item.target.elim error error.withTarget)
      else if existing.item ≠ candidate.item then
        .error (((SysboostError.new .planningError
          "duplicate plan keys carry contradictory decisions").withStage .plan).withCapability
            candidate.item.capability)
      else .ok candidates

/-! ## Descriptors and evidence -/

/-- How far a descriptor is from being available. -/
def descriptorRank : CapabilityState → Nat
  | .available => 0
  | .readOnly => 1
  | .denied => 2
  | .indeterminate => 3
  | .unsupported => 4

/-- `DescriptorIndex::new`. -/
def descriptorIndex (inventory : CapabilityInventory) : List CapabilityDescriptor :=
  sortBy (fun descriptor : CapabilityDescriptor =>
    (toLex (descriptor.id, toLex (descriptorRank descriptor.state, descriptor.backend)) :
      CapabilityId ×ₗ ℕ ×ₗ BackendId)) inventory.capabilities

/-- `DescriptorIndex::select`: the first descriptor of the capability that is
the closest to being available. -/
def selectDescriptor (inventory : CapabilityInventory) (capability : CapabilityId) :
    Option CapabilityDescriptor :=
  ((descriptorIndex inventory).filter fun descriptor => descriptor.id = capability).argmin
    fun descriptor =>
      (toLex (descriptorRank descriptor.state, descriptor.backend) : ℕ ×ₗ BackendId)

/-- The derived `Debug` text. -/
def evidenceDebug : EvidenceSource → String
  | .sysfs => "Sysfs"
  | .procfs => "Procfs"
  | .cgroupV1 => "CgroupV1"
  | .cgroupV2 => "CgroupV2"
  | .device => "Device"
  | .permission => "Permission"
  | .synthetic => "Synthetic"

def canonicalizeEvidence (evidence : List CapabilityEvidence) : List CapabilityEvidence :=
  dropRepeats (sortBy (fun observed : CapabilityEvidence =>
    (toLex (evidenceDebug observed.source, observed.detail) : String ×ₗ String)) evidence)

end Sysboost.Planner
