import Sysboost.Planner.Admission

/-!
# Decisions

Whatever is decided about a subject is decided about its operation at its
target.  A decision that is no mutation is in place already, or withheld.
-/

namespace Sysboost.Planner

open Sysboost.Core Results

namespace Subject

variable {policy : PlannerPolicy} {catalog : OperationCatalog} {subject : Subject}
  {candidate : Candidate}

/-- The current value of an available or readable capability is the desired
one. -/
structure InPlace (policy : PlannerPolicy) (subject : Subject) : Prop where
  unpreserved : policy.isPreserved subject.spec.feature subject.target = none
  readable : ∃ descriptor, subject.descriptor = some descriptor ∧
    (descriptor.state = .available ∨ descriptor.state = .readOnly)
  wanted : ∃ value, subject.desired policy = (some value, none) ∧ subject.current = some value

/-- A decision about the operation and the target of a subject. -/
structure Decides (policy : PlannerPolicy) (subject : Subject) (decision : Decision) : Prop where
  capability : decision.capability = subject.spec.capability
  operation : decision.operation = subject.spec.operation
  target : decision.target = subject.target
  action : decision.action ≠ .mutation
  inPlace : decision.action = .noOp →
    subject.InPlace policy ∧ decision.desired = (subject.desired policy).1

/-- Decisions that withhold a change are none in place. -/
theorem decides_withhold {desired : Option PlanValue} {action : PlanAction}
    {rationale reason : String} (mutation : action ≠ .mutation) (noOp : action ≠ .noOp) :
    subject.Decides policy (subject.withhold policy desired action rationale reason) :=
  ⟨rfl, rfl, rfl, mutation, fun same => absurd same noOp⟩

theorem decides_withholdUnder {contract : OperationContract} {desired : PlanValue}
    {action : PlanAction} {rationale reason : String} (mutation : action ≠ .mutation)
    (noOp : action ≠ .noOp) :
    subject.Decides policy
      (subject.withholdUnder policy contract desired action rationale reason) :=
  ⟨rfl, rfl, rfl, mutation, fun same => absurd same noOp⟩

/-- What comes of a subject: a mutation, or a decision that changes nothing. -/
def Settles (policy : PlannerPolicy) (subject : Subject) (candidate : Candidate) : Prop :=
  candidate.item.action = .mutation ∨
    ∃ decision, subject.Decides policy decision ∧
      candidate = .nonMutating subject.order decision

theorem Decides.settles {decision : Decision} (decides : subject.Decides policy decision)
    (ok : (.ok (Candidate.nonMutating subject.order decision) : Except SysboostError Candidate) =
      .ok candidate) : subject.Settles policy candidate := by
  cases ok
  exact .inr ⟨decision, decides, rfl⟩

theorem resolveTarget_settles {contract : OperationContract} {desired : PlanValue}
    (ok : subject.resolveTarget policy contract desired = .ok candidate) :
    subject.Settles policy candidate := by
  unfold resolveTarget at ok
  split at ok
  · exact (decides_withholdUnder (by decide) (by decide)).settles ok
  · split at ok
    · split at ok
      · exact (decides_withholdUnder (by decide) (by decide)).settles ok
      · split at ok
        · exact (decides_withholdUnder (by decide) (by decide)).settles ok
        · split at ok
          · exact (decides_withholdUnder (by decide) (by decide)).settles ok
          · split at ok
            · exact (decides_withholdUnder (by decide) (by decide)).settles ok
            · split at ok
              · exact (decides_withholdUnder (by decide) (by decide)).settles ok
              · split at ok
                · cases ok
                · cases ok
                  exact .inl rfl
    · exact (decides_withholdUnder (by decide) (by decide)).settles ok

theorem resolveContract_settles {descriptor : CapabilityDescriptor} {contract : OperationContract}
    {desired : PlanValue}
    (ok : subject.resolveContract policy descriptor contract desired = .ok candidate) :
    subject.Settles policy candidate := by
  obtain ⟨⟨⟩, -, ok⟩ := bind_eq_ok_iff.mp ok
  split at ok
  · cases ok
    exact .inr ⟨_, ⟨rfl, rfl, rfl, by simp [withholdUnder, withhold], by
      simp [withholdUnder, withhold]⟩, rfl⟩
  · split at ok
    · cases ok
    · split at ok
      · cases ok
      · split at ok
        · exact (decides_withholdUnder (by decide) (by decide)).settles ok
        · exact resolveTarget_settles ok

theorem resolveMutation_settles {descriptor : CapabilityDescriptor} {desired : PlanValue}
    (ok : subject.resolveMutation policy catalog descriptor desired = .ok candidate) :
    subject.Settles policy candidate := by
  unfold resolveMutation at ok
  split at ok
  · exact (decides_withhold (by decide) (by decide)).settles ok
  · split at ok
    · exact (decides_withhold (by decide) (by decide)).settles ok
    · split at ok
      · exact (decides_withhold (by decide) (by decide)).settles ok
      · split at ok
        · exact (decides_withhold (by decide) (by decide)).settles ok
        · exact resolveContract_settles ok

/-- No decision that a capability state forces is one in place. -/
theorem descriptorAction_ne_noOp {state : CapabilityState} {current desired : Option PlanValue}
    {forced : PlanAction × String} (same : descriptorAction state current desired = some forced) :
    forced.1 ≠ .noOp := by
  unfold descriptorAction at same
  split at same
  · cases same
    simp
  · cases same
    simp
  · cases same
    simp
  · split at same
    · cases same
      simp
    · cases same
  · cases same

/-- Only available and readable capabilities leave a decision open. -/
theorem readable_of_descriptorAction {state : CapabilityState} {current desired : Option PlanValue}
    (free : descriptorAction state current desired = none) :
    state = .available ∨ state = .readOnly := by
  cases state with
  | available => exact .inl rfl
  | readOnly => exact .inr rfl
  | unsupported => cases free
  | indeterminate => cases free
  | denied => cases free

theorem undesired_ne_noOp : (subject.undesired policy).1 ≠ .noOp := by
  unfold undesired
  split
  · simp
  · split
    · simp
    · simp

theorem resolveSpecInner_settles (ok : subject.resolveSpecInner policy catalog = .ok candidate) :
    subject.Settles policy candidate := by
  unfold resolveSpecInner at ok
  split at ok
  · exact (decides_withhold (by decide) (by decide)).settles ok
  next unpreserved =>
    rcases wanted : subject.desired policy with ⟨desired, unavailable⟩
    simp only [wanted] at ok
    split at ok
    · exact (decides_withhold (by decide) (by decide)).settles ok
    next descriptor described =>
      split at ok
      next forced =>
        exact (decides_withhold (descriptorAction_ne forced)
          (descriptorAction_ne_noOp forced)).settles ok
      next free =>
        split at ok
        · exact (decides_withhold (by decide) (by decide)).settles ok
        · exact (decides_withhold undesired_ne undesired_ne_noOp).settles ok
        next value =>
          split at ok
          next same =>
            refine Decides.settles ⟨rfl, rfl, rfl, by simp [withhold], fun _ => ?_⟩ ok
            exact ⟨⟨unpreserved, ⟨descriptor, described, readable_of_descriptorAction free⟩,
              value, wanted, same⟩, by rw [wanted]; rfl⟩
          · exact resolveMutation_settles ok

/-- A resolved subject is admitted, or a decision changes nothing. -/
theorem resolveSpec_settles (ok : subject.resolveSpec policy catalog = .ok candidate) :
    (∃ admission : Admission policy catalog subject, candidate = admission.candidate) ∨
      ∃ decision, subject.Decides policy decision ∧
        candidate = .nonMutating subject.order decision := by
  obtain ⟨inner, resolved, checked⟩ := bind_eq_ok_iff.mp ok
  rcases resolveSpecInner_settles resolved with action | ⟨decision, decides, rfl⟩
  · obtain ⟨admission, rfl⟩ := resolveSpecInner_mutation resolved action
    left
    refine ⟨admission, ?_⟩
    split at checked
    · cases checked
    · cases checked
      rfl
  · right
    refine ⟨decision, decides, ?_⟩
    split at checked
    · cases checked
    · cases checked
      rfl

/-- What is decided about a subject is kept under its key, and names its
operation at its target. -/
theorem identity_of_resolveSpec (ok : subject.resolveSpec policy catalog = .ok candidate) :
    candidate.key = ⟨subject.spec.capability, subject.target, subject.spec.operation,
        subject.order⟩ ∧
      candidate.item.capability = subject.spec.capability ∧
      candidate.item.target = subject.target ∧
      candidate.item.operation = subject.spec.operation := by
  rcases resolveSpec_settles ok with ⟨admission, rfl⟩ | ⟨decision, decides, rfl⟩
  · refine ⟨?_, rfl, admission.targeted.symm, rfl⟩
    rw [admission.targeted]
    rfl
  · refine ⟨?_, decides.capability, decides.target, decides.operation⟩
    rw [← decides.capability, ← decides.target, ← decides.operation]
    rfl

/-- A required subject is admitted or in place. -/
theorem admits_of_required (ok : subject.resolveSpec policy catalog = .ok candidate)
    (required : subject.required policy = true) : admits candidate.item.action = true := by
  obtain ⟨inner, -, checked⟩ := bind_eq_ok_iff.mp ok
  split at checked
  · cases checked
  next admitted =>
    cases checked
    simpa [required] using admitted

/-- What is in place already is a decision to change nothing. -/
theorem resolveSpec_of_inPlace (inPlace : subject.InPlace policy) :
    ∃ candidate, subject.resolveSpec policy catalog = .ok candidate ∧
      candidate.item.action = .noOp := by
  obtain ⟨unpreserved, ⟨descriptor, described, readable⟩, value, wanted, same⟩ := inPlace
  have free : descriptorAction descriptor.state (some value) (some value) = none := by
    rcases readable with state | state
    · simp [state, descriptorAction]
    · simp [state, descriptorAction]
  refine ⟨.nonMutating subject.order (subject.withhold policy (some value) .noOp
    "current value already equals the resolved profile target" "no mutation is required"), ?_, rfl⟩
  rw [resolveSpec, resolveSpecInner]
  simp only [unpreserved, wanted, described, same, free, if_true]
  simp [bind, Except.bind, Candidate.nonMutating, withhold, admits, pure, Except.pure]

end Subject

end Sysboost.Planner
