import Sysboost.Planner.Digest
import Sysboost.Planner.Resolve

/-!
# Building a plan

The planner resolves every reviewed specification at every target it has a fact
or a proposal for, then the proposals for other operations, and puts the
decisions into one digested plan.
-/

namespace Sysboost.Planner

open Sysboost.Core Ordered

/-- The targets at which a specification is resolved; one without targets is
resolved once for its family. -/
def specTargets (facts : List CurrentStateFact) (proposals : List PolicyProposal) :
    List (Option TargetId) :=
  match dropRepeats (sortBy id (facts.map CurrentStateFact.target ++
      proposals.map fun proposal => proposal.request.target)) with
  | [] => [none]
  | targets => targets.map some

/-- The facts about a specification. -/
def specFacts (input : PlannerInput) (spec : FeatureSpec) : List CurrentStateFact :=
  input.currentState.facts.filter fun fact =>
    fact.capability = spec.capability && fact.control = spec.control

/-- The selected proposals for a specification. -/
def specProposals (proposals : Proposals) (spec : FeatureSpec) : List PolicyProposal :=
  proposals.values.filter fun proposal =>
    proposal.request.capability = spec.capability &&
      proposal.request.operation.operationId = spec.operation

/-- The key of a selected proposal. -/
def proposalFor (proposals : Proposals) (spec : FeatureSpec) (target : Option TargetId) :
    Option PolicyProposal :=
  target.bind fun target => proposals.get ⟨spec.capability, some target, spec.operation, 0⟩

/-- A specification at a target. -/
def specSubject (input : PlannerInput) (proposals : Proposals) (spec : FeatureSpec) (order : Nat)
    (target : Option TargetId) : Subject where
  spec := spec
  order := order
  target := target
  fact := target.bind fun target =>
    (specFacts input spec).find? fun fact => fact.target = target
  proposal := proposalFor proposals spec target
  descriptor := selectDescriptor input.inventory spec.capability

/-- Every specification at every one of its targets. -/
def specSubjects (input : PlannerInput) (proposals : Proposals) : List Subject :=
  featureSpecs.zipIdx.flatMap fun (spec, order) =>
    (specTargets (specFacts input spec) (specProposals proposals spec)).map
      (specSubject input proposals spec order)

/-- The specification of an operation that no reviewed family names. -/
def customSpec (request : PolicyRequest) : FeatureSpec :=
  let feature := Feature.fromCapability request.capability
  { feature := feature
    capability := request.capability
    operation := request.operation.operationId
    control := (operationShape request.operation).1
    risk := if feature.isExperimental then .critical else .medium
    classification := if feature.isExperimental then .experimental else .conditional
    explicitOptIn := feature.isExperimental
    extremeCandidate := false
    profileTarget := .none }

/-- A proposal for an operation that no reviewed family names. -/
def customSubject (input : PlannerInput) (proposal : PolicyProposal) : Subject where
  spec := customSpec proposal.request
  order := featureSpecs.length
  target := some proposal.request.target
  fact := input.currentState.facts.find? fun fact =>
    fact.capability = proposal.request.capability && fact.target = proposal.request.target &&
      fact.control = (operationShape proposal.request.operation).1
  proposal := some proposal
  descriptor := selectDescriptor input.inventory proposal.request.capability

/-- Whether a reviewed family names the operation of a proposal. -/
def isReviewed (proposal : PolicyProposal) : Bool :=
  featureSpecs.any fun spec =>
    spec.capability = proposal.request.capability &&
      spec.operation = proposal.request.operation.operationId

namespace OperationCatalog

variable (catalog : OperationCatalog)

/-- Resolve a subject and keep the candidate. -/
def consider (policy : PlannerPolicy) (candidates : Candidates) (subject : Subject) :
    Except SysboostError Candidates := do
  insertCandidate candidates (← subject.resolveSpec policy catalog)

/-- `resolve_custom`. -/
def considerCustom (input : PlannerInput) (candidates : Candidates) (proposal : PolicyProposal) :
    Except SysboostError Candidates := do
  let subject := customSubject input proposal
  if subject.descriptor.any fun descriptor =>
      descriptor.targetKind ≠ (operationShape proposal.request.operation).2 then
    throw (((SysboostError.new .invariantViolation
      "explicit operation target kind disagrees with capability evidence").withStage
        .plan).withCapability proposal.request.capability)
  else catalog.consider input.policy candidates subject

/-- The candidates of all selected proposals and specifications. -/
def collect (input : PlannerInput) (proposals : Proposals) : Except SysboostError Candidates := do
  let candidates ← (specSubjects input proposals).foldlM (catalog.consider input.policy) .empty
  (proposals.values.filter fun proposal => !isReviewed proposal).foldlM
    (catalog.considerCustom input) candidates

/-- `PolicyResolver::resolve`. -/
def resolve (input : PlannerInput) : Except SysboostError PolicyResolution := do
  input.policy.validate
  catalog.validate
  let proposals ← selectProposals input.policy.proposals
  let candidates ← catalog.collect input proposals
  finalizeCandidates input.policy candidates

/-- `TypedPlanner::build`. -/
def build (input : PlannerInput) : Except SysboostError Plan := do
  let resolution ← catalog.resolve input
  let policyDigest := digestPolicy input.policy
  let capabilityDigest := digestInventory input.inventory
  let planDigest := digestResolution resolution policyDigest capabilityDigest
  Plan.fromItems ⟨⟨planDigest.bytes.take 16, by simp [planDigest.length_eq]⟩⟩ planDigest
    policyDigest capabilityDigest resolution.profile resolution.items

end OperationCatalog

end Sysboost.Planner
