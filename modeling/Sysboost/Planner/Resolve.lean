import Sysboost.Planner.Candidate

/-!
# Resolving one operation at one target

Every operation passes the same chain of gates: preserve rules, the state of
its capability, the wish of the policy, and then the gates of a mutation.  A
gate that is not passed ends the chain with a decision that changes nothing, or
with an error.
-/

namespace Sysboost.Planner

open Sysboost.Core

/-- One operation at one target with what is known of it: the arguments of
`resolve_spec`. -/
structure Subject where
  spec : FeatureSpec
  order : Nat
  target : Option TargetId
  fact : Option CurrentStateFact
  proposal : Option PolicyProposal
  descriptor : Option CapabilityDescriptor

namespace Subject

variable (subject : Subject) (policy : PlannerPolicy)

def current : Option PlanValue :=
  subject.fact.bind CurrentStateFact.current

def targetIdentity : Option TargetIdentity :=
  subject.fact.bind CurrentStateFact.targetIdentity

def evidence : List CapabilityEvidence :=
  canonicalizeEvidence ((subject.descriptor.elim [] CapabilityDescriptor.evidence) ++
    subject.fact.elim [] CurrentStateFact.evidence)

def featureClass : FeatureClass :=
  subject.descriptor.elim subject.spec.classification CapabilityDescriptor.classification

def risk : RiskClass :=
  subject.descriptor.elim subject.spec.risk CapabilityDescriptor.risk

def experimental : ExperimentalStatus :=
  if subject.featureClass = .experimental || subject.spec.feature.isExperimental then
    if !policy.allowExperimental then .disabled
    else if subject.spec.explicitOptIn && !policy.isOptedIn subject.spec.feature then .optInRequired
    else .enabled
  else .notExperimental

/-- The desired value, and why the interface cannot have one. -/
def desired : Option PlanValue × Option String :=
  match subject.proposal with
  | some proposal => (some (.typed proposal.request.operation.typedValue), none)
  | none => profileDesired policy.profile subject.spec subject.fact

/-- A decision that changes nothing and names the reason. -/
def withhold (desired : Option PlanValue) (action : PlanAction) (rationale reason : String) :
    Decision where
  capability := subject.spec.capability
  operation := subject.spec.operation
  backend := subject.descriptor.map CapabilityDescriptor.backend
  target := subject.target
  control := subject.spec.control
  current := subject.current
  desired := desired
  action := action
  feature := subject.spec.feature
  featureClass := subject.featureClass
  risk := subject.risk
  explicitOptInRequired := subject.spec.explicitOptIn
  experimental := subject.experimental policy
  evidence := subject.evidence
  rationale := rationale
  reason := some reason
  targetIdentity := subject.targetIdentity

/-- The same decision once the contract of the operation is known. -/
def withholdUnder (contract : OperationContract) (desired : PlanValue) (action : PlanAction)
    (rationale reason : String) : Decision :=
  { subject.withhold policy (some desired) action rationale reason with
    backend := some contract.backend
    featureClass := contract.classification
    risk := contract.risk
    explicitOptInRequired := subject.spec.explicitOptIn || contract.explicitOptIn }

/-! ## The gates of a mutation -/

/-- The operation for a desired value: the one proposed, or the default one. -/
def kind (fact : CurrentStateFact) (desired : TypedValue) : Option MutationKind :=
  match subject.proposal with
  | some proposal => some proposal.request.operation
  | none => defaultKind subject.spec.control fact desired

/-- The gates on the observed state of the target. -/
def resolveTarget (contract : OperationContract) (desired : PlanValue) :
    Except SysboostError Candidate :=
  let withheld (action : PlanAction) (rationale reason : String) : Except SysboostError Candidate :=
    .ok (.nonMutating subject.order
      (subject.withholdUnder policy contract desired action rationale reason))
  match subject.fact with
  | none =>
      withheld .indeterminate "current state is required but was not supplied by discovery"
        "re-detect current state before planning a mutation"
  | some fact =>
      match fact.value with
      | .known (.typed currentTyped) =>
          match desired with
          | .text _ =>
              withheld .unsupported
                "the requested target is not represented by a closed typed operation"
                "use an approved typed operation instead of a raw interface value"
          | .typed desiredTyped =>
              match subject.target with
              | none =>
                  withheld .indeterminate "mutation target identity is ambiguous"
                    "bind the operation to an enumerated target"
              | some target =>
                  match fact.targetIdentity with
                  | none =>
                      withheld .indeterminate "target identity evidence is incomplete"
                        "re-detect the target identity before mutation admission"
                  | some targetIdentity =>
                      match fact.fingerprint with
                      | none =>
                          withheld .indeterminate "current-state fingerprint is missing"
                            "capture a backend-owned precondition before planning"
                      | some precondition =>
                          match subject.kind fact desiredTyped with
                          | none =>
                              withheld .indeterminate
                                "typed target information is missing for the closed operation"
                                "pass a typed target reference from discovery"
                          | some kind =>
                              if kind.typedValue ≠ desiredTyped then
                                .error ((SysboostError.new .planningError
                                  "resolved desired value does not match the closed operation"
                                  ).withStage .plan)
                              else
                                .ok (.mutating subject.order subject.spec.capability
                                  subject.spec.operation contract target subject.spec.control
                                  (some (.typed currentTyped)) (some (.typed desiredTyped))
                                  subject.spec.feature subject.evidence {
                                    capability := subject.spec.capability
                                    target := target
                                    kind := kind
                                    desired := desiredTyped
                                    precondition := precondition
                                    equality := contract.equality
                                    targetIdentity := targetIdentity
                                    dependencies := contract.dependencies })
      | _ =>
          withheld .indeterminate "current state is not a typed value admitted by the operation"
            "retain the feature as report-only until parsing is complete"

/-- The contract and the descriptor disagree. -/
def disagrees (contract : OperationContract) (descriptor : CapabilityDescriptor) : Bool :=
  contract.backend ≠ descriptor.backend || contract.targetKind ≠ descriptor.targetKind ||
    contract.control ≠ subject.spec.control || contract.equality ≠ descriptor.equality ||
    contract.classification ≠ descriptor.classification ||
    !descriptor.operations.any fun operation => operation.id = subject.spec.operation

/-- The gates on the contract of the operation. -/
def resolveContract (descriptor : CapabilityDescriptor) (contract : OperationContract)
    (desired : PlanValue) : Except SysboostError Candidate := do
  contract.validate
  if contract.explicitOptIn && !policy.isOptedIn subject.spec.feature then
    return .nonMutating subject.order
      { subject.withholdUnder policy contract desired .explicitOptInRequired
          "backend contract requires an explicit feature opt-in"
          "supply the feature-specific opt-in" with
        explicitOptInRequired := true
        experimental :=
          if contract.classification = .experimental then .optInRequired
          else subject.experimental policy }
  else if !contract.isComplete then
    throw ((((SysboostError.new .planningError
      "a proposed mutation has an incomplete snapshot/restore/verification contract").withStage
        .plan).withCapability subject.spec.capability).withBackend contract.backend)
  else if subject.disagrees contract descriptor then
    throw ((((SysboostError.new .invariantViolation
      "capability evidence and backend operation contract disagree").withStage
        .plan).withCapability subject.spec.capability).withBackend contract.backend)
  else if contract.risk.rank > policy.maxRisk.rank then
    return .nonMutating subject.order
      (subject.withholdUnder policy contract desired .deniedByPolicy
        "effective policy risk ceiling denies this operation" "raise the trusted risk ceiling")
  else subject.resolveTarget policy contract desired

def resolveMutation (catalog : OperationCatalog) (descriptor : CapabilityDescriptor)
    (desired : PlanValue) : Except SysboostError Candidate :=
  let withheld (action : PlanAction) (rationale reason : String) : Except SysboostError Candidate :=
    .ok (.nonMutating subject.order
      (subject.withhold policy (some desired) action rationale reason))
  if policy.mode = .report then
    withheld .deniedByPolicy "report mode prohibits mutation admission"
      "select an explicit mutation-admitting policy mode"
  else if subject.experimental policy = .disabled then
    withheld .experimentalDisabled "experimental permission is disabled by effective policy"
      "enable the trusted experimental policy permission"
  else if subject.experimental policy = .optInRequired then
    withheld .explicitOptInRequired
      "experimental capability is supported but its feature opt-in is absent"
      "supply the feature-specific opt-in"
  else
    match catalog.find subject.spec.capability subject.spec.operation with
    | none =>
        withheld .unsupported "no approved typed backend operation contract is registered"
          "operation remains report-only until a reviewed contract exists"
    | some contract => subject.resolveContract policy descriptor contract desired

/-! ## The chain -/

/-- The decision that the state of a capability forces. -/
def descriptorAction (state : CapabilityState) (current desired : Option PlanValue) :
    Option (PlanAction × String) :=
  match state with
  | .unsupported => some (.unsupported, "runtime interface was not detected")
  | .denied => some (.capabilityDenied, "capability evidence was permission denied")
  | .indeterminate => some (.indeterminate, "capability evidence was malformed or incomplete")
  | .readOnly =>
      if desired.isSome && current ≠ desired then
        some (.unsupported, "interface is readable but no mutation operation is admitted")
      else none
  | .available => none

/-- The decision about a family of which nothing is desired. -/
def undesired : PlanAction × String :=
  if subject.experimental policy = .disabled then
    (.experimentalDisabled, "experimental permission is disabled by effective policy")
  else if subject.spec.extremeCandidate && policy.profile = .extreme &&
      subject.experimental policy = .optInRequired then
    (.explicitOptInRequired,
      "extreme profile considers this experimental family only after explicit opt-in")
  else (.preserved, "profile has no executable target for this capability family")

def resolveSpecInner (catalog : OperationCatalog) : Except SysboostError Candidate :=
  let withheld (desired : Option PlanValue) (action : PlanAction) (rationale reason : String) :
      Except SysboostError Candidate :=
    .ok (.nonMutating subject.order (subject.withhold policy desired action rationale reason))
  match policy.isPreserved subject.spec.feature subject.target with
  | some reason =>
      withheld none .preserved "policy preserve override takes precedence over profile intent" reason
  | none =>
      let (desired, unavailable) := subject.desired policy
      match subject.descriptor with
      | none =>
          let reason := "capability evidence was not present in the inventory"
          withheld desired .unsupported reason reason
      | some descriptor =>
          match descriptorAction descriptor.state subject.current desired with
          | some (action, reason) => withheld desired action reason reason
          | none =>
              match unavailable, desired with
              | some reason, _ => withheld desired .unsupported reason reason
              | none, none =>
                  let (action, reason) := subject.undesired policy
                  withheld none action reason reason
              | none, some value =>
                  if subject.current = some value then
                    withheld desired .noOp
                      "current value already equals the resolved profile target"
                      "no mutation is required"
                  else subject.resolveMutation policy catalog descriptor value

/-- Whether a decision admits its request. -/
def admits : PlanAction → Bool
  | .mutation | .noOp => true
  | _ => false

/-- A request that must be admitted. -/
def required : Bool :=
  subject.proposal.any fun proposal => proposal.request.required || policy.requiredDefault

def resolveSpec (catalog : OperationCatalog) : Except SysboostError Candidate := do
  let candidate ← subject.resolveSpecInner policy catalog
  if subject.required policy && !admits candidate.item.action then
    let error := ((SysboostError.new .planningError
      "required policy request could not be admitted").withStage .plan).withCapability
        candidate.item.capability
    throw (candidate.item.target.elim error error.withTarget)
  else return candidate

end Subject

end Sysboost.Planner
