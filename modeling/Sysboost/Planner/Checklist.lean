import Sysboost.Core.PlanOrder
import Sysboost.Planner.Fixtures
import Sysboost.Planner.Outcome

/-!
# The admission checklist

Every mutation of a plan has passed every gate: what the gates asked of the
descriptor, the contract, the policy and the observed state is collected for
the item that the plan shows.
-/

namespace Sysboost.Planner

open Sysboost.Core Ordered Results

/-! ## Checked items -/

theorem Composed.item_validate {catalog : OperationCatalog} {input : PlannerInput}
    {proposals : Proposals} {plan : Plan} (composed : Composed catalog input proposals plan)
    {item : PlanItem} (member : item ∈ plan.items) : item.validate = .ok () :=
  Plan.validate_of_validateComplete composed.validated member

/-- A valid executable item carries a mutation and evidence. -/
theorem executable_of_validate {item : PlanItem} (valid : item.validate = .ok ())
    (action : item.action = .mutation) : item.mutation.isSome = true ∧ item.evidence ≠ [] := by
  unfold PlanItem.validate at valid
  simp only [action, PlanAction.isExecutable, Bool.not_true, Bool.false_eq_true, if_false] at valid
  split at valid
  · cases valid
  next mutation planned =>
    split at valid
    · cases valid
    next present =>
      simp only [Bool.or_eq_true, not_or, List.isEmpty_iff] at present
      exact ⟨by rw [planned]; rfl, present.2⟩

/-- A valid item that carries a mutation is executable. -/
theorem action_of_validate {item : PlanItem} (valid : item.validate = .ok ())
    (planned : item.mutation.isSome = true) : item.action = .mutation := by
  cases executable : item.action.isExecutable with
  | false =>
      simp only [PlanItem.validate, executable, planned, Bool.not_false, if_true] at valid
      cases valid
  | true => cases action : item.action <;> simp [action, PlanAction.isExecutable] at executable ⊢

/-! ## Gates -/

theorem mem_of_factAbout {state : CurrentState} {capability : CapabilityId} {target : TargetId}
    {control : ControlId} {fact : CurrentStateFact}
    (found : state.factAbout capability target control = some fact) :
    fact ∈ state.facts ∧ fact.capability = capability ∧ fact.target = target ∧
      fact.control = control := by
  have about := List.find?_some found
  simp only [Bool.and_eq_true, decide_eq_true_eq] at about
  exact ⟨List.mem_of_find?_eq_some found, about.1.1, about.1.2, about.2⟩

theorem covers_of_isPreserved {policy : PlannerPolicy} {feature : Feature}
    {target : Option TargetId} (unpreserved : policy.isPreserved feature target = none) :
    ∀ rule ∈ policy.preserves, rule.covers feature target = false := by
  intro rule member
  have none := List.findSome?_eq_none_iff.mp unpreserved rule member
  cases covers : rule.covers feature target with
  | false => rfl
  | true => simp [covers] at none

/-- What the gates asked of an executable item, and what they found. -/
structure Justified (catalog : OperationCatalog) (input : PlannerInput) (item : PlanItem)
    (descriptor : CapabilityDescriptor) (contract : OperationContract) (fact : CurrentStateFact)
    (mutation : PlannedMutation) : Prop where
  boost : input.policy.mode = .boost
  described : selectDescriptor input.inventory item.capability = some descriptor
  available : descriptor.state = .available
  found : catalog.find item.capability item.operation = some contract
  complete : contract.isComplete = true
  backend : contract.backend = descriptor.backend
  targetKind : contract.targetKind = descriptor.targetKind
  equality : contract.equality = descriptor.equality
  classification : contract.classification = descriptor.classification
  listed : ∃ operation ∈ descriptor.operations, operation.id = item.operation
  risk : contract.risk.rank ≤ input.policy.maxRisk.rank
  experimental : contract.classification = .experimental ∨ item.feature.isExperimental = true →
    input.policy.allowExperimental = true
  optedIn : item.feature.isExperimental = true ∨ contract.explicitOptIn = true →
    input.policy.isOptedIn item.feature = true
  unpreserved : ∀ rule ∈ input.policy.preserves, rule.covers item.feature item.target = false
  observed : fact ∈ input.currentState.facts
  about : fact.capability = item.capability ∧ item.target = some fact.target ∧
    fact.control = item.control
  known : ∃ current, fact.value = .known current ∧ item.current = some current
  planned : item.mutation = some mutation
  precondition : fact.fingerprint = some mutation.precondition
  identified : item.targetIdentity.isSome = true ∧ item.targetIdentity = fact.targetIdentity
  evidence : item.evidence ≠ []

/-- What agreement with the descriptor means. -/
theorem Subject.agrees_iff {subject : Subject} {contract : OperationContract}
    {descriptor : CapabilityDescriptor} :
    subject.disagrees contract descriptor = false ↔
      contract.backend = descriptor.backend ∧ contract.targetKind = descriptor.targetKind ∧
        contract.control = subject.spec.control ∧ contract.equality = descriptor.equality ∧
        contract.classification = descriptor.classification ∧
        ∃ operation ∈ descriptor.operations, operation.id = subject.spec.operation := by
  simp [disagrees, and_assoc]

/-- What the experimental gates mean for a subject whose opt-in follows its
feature. -/
theorem Subject.experimental_gates {subject : Subject} {policy : PlannerPolicy}
    (optIn : subject.spec.explicitOptIn = subject.spec.feature.isExperimental)
    (permitted : subject.experimental policy ≠ .disabled)
    (optedIn : subject.experimental policy ≠ .optInRequired) :
    (subject.featureClass = .experimental ∨ subject.spec.feature.isExperimental = true →
        policy.allowExperimental = true) ∧
      (subject.spec.feature.isExperimental = true →
        policy.isOptedIn subject.spec.feature = true) := by
  unfold experimental at permitted optedIn
  rw [optIn] at permitted optedIn
  constructor
  · intro experimental
    by_contra disabled
    simp [experimental, disabled] at permitted
  · intro experimental
    by_contra missing
    cases allowed : policy.allowExperimental with
    | false => simp [experimental, allowed] at permitted
    | true => simp [experimental, allowed, missing] at optedIn

/-- A mutation is planned only when every gate of the checklist was passed. -/
theorem mutation_justified {catalog : OperationCatalog} {input : PlannerInput} {plan : Plan}
    (ok : catalog.build input = .ok plan) {item : PlanItem} (member : item ∈ plan.items)
    (action : item.action = .mutation) :
    ∃ descriptor contract fact mutation,
      Justified catalog input item descriptor contract fact mutation := by
  obtain ⟨proposals, composed⟩ := composed_of_build ok
  obtain ⟨carries, evidence⟩ := executable_of_validate (composed.item_validate member) action
  obtain ⟨subject, considered, admission, completes⟩ := composed.admitted member action
  have grounded := grounded_of_considered composed.selected considered
  obtain ⟨backend, targetKind, -, equality, classification, listed⟩ :=
    Subject.agrees_iff.mp admission.agrees
  obtain ⟨experimental, optedIn⟩ :=
    Subject.experimental_gates grounded.optIn admission.permitted admission.optedIn
  have featureClass : subject.featureClass = admission.contract.classification := by
    simp [Subject.featureClass, admission.described, classification]
  have observed : input.currentState.factAbout subject.spec.capability admission.target
      subject.spec.control = some admission.fact := by
    rw [← admission.observed, grounded.observed, admission.targeted]
    rfl
  obtain ⟨present, capability, target, control⟩ := mem_of_factAbout observed
  cases completes with
  | unplanned => cases carries
  | planned drafted made =>
      cases drafted
      refine ⟨admission.descriptor, admission.contract, admission.fact, _, {
        boost := ?_
        described := grounded.described ▸ admission.described
        available := admission.available
        found := admission.found
        complete := admission.complete
        backend := backend
        targetKind := targetKind
        equality := equality
        classification := classification
        listed := listed
        risk := admission.risk
        experimental := featureClass ▸ experimental
        optedIn := fun required => required.elim optedIn admission.contractOptIn
        unpreserved := ?_
        observed := present
        about := ⟨capability, congrArg some target.symm, control⟩
        known := ⟨_, admission.known, rfl⟩
        planned := rfl
        precondition := ?_
        identified := ⟨rfl, admission.identified.symm⟩
        evidence := evidence }⟩
      · cases mode : input.policy.mode with
        | report => exact absurd mode admission.boost
        | boost => rfl
      · have unpreserved := covers_of_isPreserved admission.unpreserved
        rwa [admission.targeted] at unpreserved
      · rw [(PlannedMutation.eq_of_new made).1]
        exact admission.fingerprinted

/-- The governor of the fixture passes the checklist. -/
theorem mutation_justified_governor :
    ∃ plan item, Fixtures.cpuCatalog.build (Fixtures.cpuInput .performance) = .ok plan ∧
      item ∈ plan.items ∧ item.action = .mutation ∧
      ∃ descriptor contract fact mutation, Justified Fixtures.cpuCatalog
        (Fixtures.cpuInput .performance) item descriptor contract fact mutation := by
  obtain ⟨plan, ok, executable⟩ := exists_ok_of_any
    (x := Fixtures.cpuCatalog.build (Fixtures.cpuInput .performance))
    (p := fun plan => plan.items.any fun item => item.action = .mutation) (by decide +kernel)
  obtain ⟨item, member, action⟩ := List.any_eq_true.mp executable
  have action := of_decide_eq_true action
  exact ⟨plan, item, ok, member, action, mutation_justified ok member action⟩

/-! ## Boot-only capabilities -/

/-- No operation whose contract is classified as boot-only passes the other
gates. -/
def BootOnlyBarred (catalog : OperationCatalog) (input : PlannerInput) : Prop :=
  ∀ proposals, selectProposals input.policy.proposals = .ok proposals →
    ∀ subject ∈ considered input proposals, ∀ admission : Admission input.policy catalog subject,
      admission.contract.classification ≠ .bootOnlyReportOnly

/-- Nothing boot-only is changed: no such item is a mutation, and no mutation
belongs to such a capability. -/
structure ReportsBootOnly (input : PlannerInput) (plan : Plan) : Prop where
  items : ∀ item ∈ plan.items, item.featureClass = .bootOnlyReportOnly → item.action ≠ .mutation
  mutations : ∀ mutation ∈ plan.mutations, ∀ descriptor,
    selectDescriptor input.inventory mutation.capability = some descriptor →
      descriptor.classification ≠ .bootOnlyReportOnly

/-- The class is no gate, so a plan keeps away from boot-only capabilities
exactly when the other gates bar them. -/
theorem reportsBootOnly_iff {catalog : OperationCatalog} {input : PlannerInput} {plan : Plan}
    (ok : catalog.build input = .ok plan) :
    ReportsBootOnly input plan ↔ BootOnlyBarred catalog input := by
  obtain ⟨proposals, composed⟩ := composed_of_build ok
  constructor
  · intro reports proposals' selected subject member admission bootOnly
    obtain rfl : proposals' = proposals := by
      rw [composed.selected] at selected
      exact (Except.ok.inj selected).symm
    obtain ⟨item, present, completes⟩ := composed.exists_item member admission
    refine reports.items item present ?_ ?_
    · rw [completes.featureClass]
      exact bootOnly
    · rw [completes.action]
      rfl
  · intro barred
    have barred := barred proposals composed.selected
    constructor
    · intro item member bootOnly action
      obtain ⟨subject, considered, admission, completes⟩ := composed.admitted member action
      rw [completes.featureClass] at bootOnly
      exact barred subject considered admission bootOnly
    · intro mutation member descriptor described bootOnly
      obtain ⟨item, present, carries⟩ := composed.exists_carrier member
      have action := action_of_validate (composed.item_validate present) (by rw [carries]; rfl)
      obtain ⟨subject, considered, admission, completes⟩ := composed.admitted present action
      have grounded := grounded_of_considered composed.selected considered
      have own : mutation.capability = subject.spec.capability := by
        cases completes with
        | unplanned => cases carries
        | planned drafted made =>
            cases drafted
            cases carries
            rw [(PlannedMutation.eq_of_new made).1]
            rfl
      rw [own, ← grounded.described, admission.described] at described
      cases described
      refine barred subject considered admission ?_
      rw [(Subject.agrees_iff.mp admission.agrees).2.2.2.2.1, bootOnly]

namespace Fixtures

/-- The governor, classified as boot-only by its descriptor and its contract. -/
def bootOnlyInput : PlannerInput where
  policy := .forProfile .performance
  inventory := ⟨.fromUnixMillis 10, [descriptor CapabilityIds.cpuPolicyGovernor governorOperation
    .cpuPolicy .bootOnlyReportOnly .low]⟩
  currentState := cpuCurrent schedutil .balancePerformance

def bootOnlyCatalog : OperationCatalog :=
  .new [completeContract CapabilityIds.cpuPolicyGovernor governorOperation .cpuGovernor .cpuPolicy
    .bootOnlyReportOnly .low false]

end Fixtures

/-- The planner changes a boot-only governor. -/
theorem reportsBootOnly_governor :
    ∃ plan, Fixtures.bootOnlyCatalog.build Fixtures.bootOnlyInput = .ok plan ∧
      ¬ReportsBootOnly Fixtures.bootOnlyInput plan := by
  obtain ⟨plan, ok, executable⟩ := exists_ok_of_any
    (x := Fixtures.bootOnlyCatalog.build Fixtures.bootOnlyInput)
    (p := fun plan => plan.items.any fun item =>
      item.featureClass = .bootOnlyReportOnly && item.action = .mutation) (by decide +kernel)
  obtain ⟨item, member, changed⟩ := List.any_eq_true.mp executable
  simp only [Bool.and_eq_true, decide_eq_true_eq] at changed
  exact ⟨plan, ok, fun reports => reports.items item member changed.1 changed.2⟩

/-- The fixture has no boot-only capability. -/
theorem reportsBootOnly_fixture :
    ∃ plan, Fixtures.cpuCatalog.build (Fixtures.cpuInput .performance) = .ok plan ∧
      (ReportsBootOnly (Fixtures.cpuInput .performance) plan ↔
        BootOnlyBarred Fixtures.cpuCatalog (Fixtures.cpuInput .performance)) := by
  obtain ⟨plan, ok, -⟩ := exists_ok_of_any
    (x := Fixtures.cpuCatalog.build (Fixtures.cpuInput .performance))
    (p := fun _ => true) (by decide +kernel)
  exact ⟨plan, ok, reportsBootOnly_iff ok⟩

end Sysboost.Planner
