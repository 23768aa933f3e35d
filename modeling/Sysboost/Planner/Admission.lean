import Sysboost.Results.Loops
import Sysboost.Planner.Build

/-!
# Admission

An operation is admitted as a mutation exactly when it passes every gate of the
chain.  `Admission` collects the gates with the evidence they were passed on.
-/

namespace Sysboost.Planner

open Sysboost.Core Ordered Results

/-- The gates a subject has passed, with what was found at each of them. -/
structure Admission (policy : PlannerPolicy) (catalog : OperationCatalog)
    (subject : Subject) where
  descriptor : CapabilityDescriptor
  contract : OperationContract
  fact : CurrentStateFact
  current : TypedValue
  desired : TypedValue
  target : TargetId
  targetIdentity : TargetIdentity
  precondition : StateFingerprint
  kind : MutationKind
  unpreserved : policy.isPreserved subject.spec.feature subject.target = none
  described : subject.descriptor = some descriptor
  available : descriptor.state = .available
  wanted : subject.desired policy = (some (.typed desired), none)
  changes : current ≠ desired
  boost : policy.mode ≠ .report
  permitted : subject.experimental policy ≠ .disabled
  optedIn : subject.experimental policy ≠ .optInRequired
  found : catalog.find subject.spec.capability subject.spec.operation = some contract
  valid : contract.validate = .ok ()
  contractOptIn : contract.explicitOptIn = true → policy.isOptedIn subject.spec.feature = true
  complete : contract.isComplete = true
  agrees : subject.disagrees contract descriptor = false
  risk : contract.risk.rank ≤ policy.maxRisk.rank
  observed : subject.fact = some fact
  known : fact.value = .known (.typed current)
  targeted : subject.target = some target
  identified : fact.targetIdentity = some targetIdentity
  fingerprinted : fact.fingerprint = some precondition
  operation : subject.kind fact desired = some kind
  represents : kind.typedValue = desired

namespace Admission

variable {policy : PlannerPolicy} {catalog : OperationCatalog} {subject : Subject}

/-- The draft of an admitted mutation. -/
def draft (admission : Admission policy catalog subject) : MutationDraft where
  capability := subject.spec.capability
  target := admission.target
  kind := admission.kind
  desired := admission.desired
  precondition := admission.precondition
  equality := admission.contract.equality
  targetIdentity := admission.targetIdentity
  dependencies := admission.contract.dependencies

/-- The candidate of an admitted mutation. -/
def candidate (admission : Admission policy catalog subject) : Candidate :=
  .mutating subject.order subject.spec.capability subject.spec.operation admission.contract
    admission.target subject.spec.control (some (.typed admission.current))
    (some (.typed admission.desired)) subject.spec.feature subject.evidence admission.draft

end Admission

namespace Subject

variable {policy : PlannerPolicy} {catalog : OperationCatalog} {subject : Subject}
  {candidate : Candidate}

/-- Decisions that change nothing are no mutations. -/
theorem refused {p : Prop} {order : Nat} {decision : Decision}
    (action : candidate.item.action = .mutation)
    (ok : (.ok (Candidate.nonMutating order decision) : Except SysboostError Candidate) =
      .ok candidate) (other : decision.action ≠ .mutation) : p := by
  cases ok
  exact absurd action other

theorem resolveTarget_mutation {contract : OperationContract} {desired : PlanValue}
    (ok : subject.resolveTarget policy contract desired = .ok candidate)
    (action : candidate.item.action = .mutation) :
    ∃ fact current desiredTyped target targetIdentity precondition kind,
      subject.fact = some fact ∧ fact.value = .known (.typed current) ∧
      desired = .typed desiredTyped ∧ subject.target = some target ∧
      fact.targetIdentity = some targetIdentity ∧ fact.fingerprint = some precondition ∧
      subject.kind fact desiredTyped = some kind ∧ kind.typedValue = desiredTyped ∧
      candidate = .mutating subject.order subject.spec.capability subject.spec.operation contract
        target subject.spec.control (some (.typed current)) (some (.typed desiredTyped))
        subject.spec.feature subject.evidence ⟨subject.spec.capability, target, kind,
          desiredTyped, precondition, contract.equality, targetIdentity,
          contract.dependencies⟩ := by
  unfold resolveTarget at ok
  split at ok
  · exact refused action ok (by simp [withholdUnder, withhold])
  next fact observed =>
    split at ok
    next current known =>
      split at ok
      · exact refused action ok (by simp [withholdUnder, withhold])
      next desiredTyped =>
        split at ok
        · exact refused action ok (by simp [withholdUnder, withhold])
        next target targeted =>
          split at ok
          · exact refused action ok (by simp [withholdUnder, withhold])
          next targetIdentity identified =>
            split at ok
            · exact refused action ok (by simp [withholdUnder, withhold])
            next precondition fingerprinted =>
              split at ok
              · exact refused action ok (by simp [withholdUnder, withhold])
              next kind operation =>
                split at ok
                · cases ok
                next represents =>
                  cases ok
                  exact ⟨fact, current, desiredTyped, target, targetIdentity, precondition, kind,
                    observed, known, rfl, targeted, identified, fingerprinted, operation,
                    not_not.mp represents, rfl⟩
    · exact refused action ok (by simp [withholdUnder, withhold])

theorem resolveContract_mutation {descriptor : CapabilityDescriptor}
    {contract : OperationContract} {desired : PlanValue}
    (ok : subject.resolveContract policy descriptor contract desired = .ok candidate)
    (action : candidate.item.action = .mutation) :
    contract.validate = .ok () ∧
      (contract.explicitOptIn = true → policy.isOptedIn subject.spec.feature = true) ∧
      contract.isComplete = true ∧ subject.disagrees contract descriptor = false ∧
      contract.risk.rank ≤ policy.maxRisk.rank ∧
      subject.resolveTarget policy contract desired = .ok candidate := by
  obtain ⟨⟨⟩, valid, ok⟩ := bind_eq_ok_iff.mp ok
  split at ok
  · exact refused action ok (by simp [withholdUnder, withhold])
  next optIn =>
    split at ok
    · cases ok
    next complete =>
      split at ok
      · cases ok
      next agrees =>
        split at ok
        · exact refused action ok (by simp [withholdUnder, withhold])
        next risk =>
          refine ⟨valid, fun explicit => ?_, by simpa using complete, by simpa using agrees,
            not_lt.mp risk, ok⟩
          simpa [explicit] using optIn

theorem resolveMutation_mutation {descriptor : CapabilityDescriptor} {desired : PlanValue}
    (ok : subject.resolveMutation policy catalog descriptor desired = .ok candidate)
    (action : candidate.item.action = .mutation) :
    policy.mode ≠ .report ∧ subject.experimental policy ≠ .disabled ∧
      subject.experimental policy ≠ .optInRequired ∧
      ∃ contract, catalog.find subject.spec.capability subject.spec.operation = some contract ∧
        subject.resolveContract policy descriptor contract desired = .ok candidate := by
  unfold resolveMutation at ok
  split at ok
  · exact refused action ok (by simp [withhold])
  next boost =>
    split at ok
    · exact refused action ok (by simp [withhold])
    next permitted =>
      split at ok
      · exact refused action ok (by simp [withhold])
      next optedIn =>
        split at ok
        · exact refused action ok (by simp [withhold])
        next contract found => exact ⟨boost, permitted, optedIn, contract, found, ok⟩

/-- No decision that a capability state forces is a mutation. -/
theorem descriptorAction_ne {state : CapabilityState} {current desired : Option PlanValue}
    {forced : PlanAction × String} (same : descriptorAction state current desired = some forced) :
    forced.1 ≠ .mutation := by
  unfold descriptorAction at same
  split at same
  · cases same
    simp
  · cases same
    simp
  · cases same
    simp
  · split at same
    · cases same
      simp
    · cases same
  · cases same

/-- A capability whose state forces no decision about a change is available. -/
theorem available_of_descriptorAction {state : CapabilityState} {current : Option PlanValue}
    {value : PlanValue} (free : descriptorAction state current (some value) = none)
    (changes : current ≠ some value) : state = .available := by
  cases state with
  | available => rfl
  | readOnly => simp [descriptorAction, changes] at free
  | unsupported => cases free
  | indeterminate => cases free
  | denied => cases free

theorem undesired_ne : (subject.undesired policy).1 ≠ .mutation := by
  unfold undesired
  split
  · simp
  · split
    · simp
    · simp

theorem resolveSpecInner_mutation (ok : subject.resolveSpecInner policy catalog = .ok candidate)
    (action : candidate.item.action = .mutation) :
    ∃ admission : Admission policy catalog subject, candidate = admission.candidate := by
  unfold resolveSpecInner at ok
  split at ok
  · exact refused action ok (by simp [withhold])
  next unpreserved =>
    rcases wanted : subject.desired policy with ⟨desired, unavailable⟩
    simp only [wanted] at ok
    split at ok
    · exact refused action ok (by simp [withhold])
    next descriptor described =>
      split at ok
      next forced => exact refused action ok (descriptorAction_ne forced)
      next free =>
        split at ok
        · exact refused action ok (by simp [withhold])
        · exact refused action ok undesired_ne
        next value =>
          split at ok
          · exact refused action ok (by simp [withhold])
          next changes =>
            obtain ⟨boost, permitted, optedIn, contract, found, ok⟩ :=
              resolveMutation_mutation ok action
            obtain ⟨valid, contractOptIn, complete, agrees, risk, ok⟩ :=
              resolveContract_mutation ok action
            obtain ⟨fact, current, desired, target, targetIdentity, precondition, kind, observed,
              known, rfl, targeted, identified, fingerprinted, operation, represents, rfl⟩ :=
              resolveTarget_mutation ok action
            have read : subject.current = some (.typed current) := by
              simp [Subject.current, observed, CurrentStateFact.current, known]
            refine ⟨⟨descriptor, contract, fact, current, desired, target, targetIdentity,
              precondition, kind, unpreserved, described,
              available_of_descriptorAction free changes, wanted, ?_, boost, permitted, optedIn,
              found, valid, contractOptIn, complete, agrees, risk, observed, known, targeted,
              identified, fingerprinted, operation, represents⟩, rfl⟩
            rintro rfl
            exact changes read

theorem resolveTarget_of_admission (admission : Admission policy catalog subject) :
    subject.resolveTarget policy admission.contract (.typed admission.desired) =
      .ok admission.candidate := by
  simp only [resolveTarget, admission.observed, admission.known, admission.targeted,
    admission.identified, admission.fingerprinted, admission.operation, admission.represents,
    ne_eq, not_true_eq_false, if_false]
  rfl

theorem resolveContract_of_admission (admission : Admission policy catalog subject) :
    subject.resolveContract policy admission.descriptor admission.contract
      (.typed admission.desired) = .ok admission.candidate := by
  have optIn : (admission.contract.explicitOptIn && !policy.isOptedIn subject.spec.feature) =
      false := by
    cases explicit : admission.contract.explicitOptIn with
    | false => rfl
    | true => rw [admission.contractOptIn explicit]; rfl
  rw [resolveContract, admission.valid, optIn, admission.complete, admission.agrees,
    ← resolveTarget_of_admission admission]
  simp [not_lt.mpr admission.risk, bind, Except.bind]

theorem resolveMutation_of_admission (admission : Admission policy catalog subject) :
    subject.resolveMutation policy catalog admission.descriptor (.typed admission.desired) =
      .ok admission.candidate := by
  simp only [resolveMutation, if_neg admission.boost, if_neg admission.permitted,
    if_neg admission.optedIn, admission.found]
  exact resolveContract_of_admission admission

/-- Whoever passes every gate is admitted. -/
theorem resolveSpecInner_of_admission (admission : Admission policy catalog subject) :
    subject.resolveSpecInner policy catalog = .ok admission.candidate := by
  have read : subject.current = some (.typed admission.current) := by
    simp [Subject.current, admission.observed, CurrentStateFact.current, admission.known]
  have changes : subject.current ≠ some (.typed admission.desired) := by
    rw [read]
    simpa using admission.changes
  simp only [resolveSpecInner, admission.unpreserved, admission.wanted, admission.described,
    admission.available, descriptorAction, if_neg changes]
  exact resolveMutation_of_admission admission

/-- A subject is a mutation exactly when it passes every gate. -/
theorem resolveSpec_mutation_iff :
    subject.resolveSpec policy catalog = .ok candidate ∧ candidate.item.action = .mutation ↔
      ∃ admission : Admission policy catalog subject, candidate = admission.candidate := by
  constructor
  · rintro ⟨ok, action⟩
    obtain ⟨inner, resolved, ok⟩ := bind_eq_ok_iff.mp ok
    split at ok
    · cases ok
    · cases ok
      exact resolveSpecInner_mutation resolved action
  · rintro ⟨admission, rfl⟩
    refine ⟨?_, rfl⟩
    rw [resolveSpec, resolveSpecInner_of_admission admission]
    simp [bind, Except.bind, Admission.candidate, Candidate.mutating, admits, pure, Except.pure]

end Subject

end Sysboost.Planner
