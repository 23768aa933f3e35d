import Sysboost.Planner.Outcome

/-!
# What an item is decided on

Whatever is decided about a subject shows its evidence, the identity of its
target and the value that is wanted of it.
-/

namespace Sysboost.Planner

open Sysboost.Core Results

namespace Subject

variable {policy : PlannerPolicy} {catalog : OperationCatalog} {subject : Subject}
  {candidate : Candidate}

/-- The value that is wanted of a subject; nothing is wanted of one that is
preserved. -/
def wanted (policy : PlannerPolicy) (subject : Subject) : Option PlanValue :=
  if (policy.isPreserved subject.spec.feature subject.target).isSome then none
  else (subject.desired policy).1

/-- An item without a mutation that shows the grounds of its decision. -/
structure Shows (policy : PlannerPolicy) (subject : Subject) (item : PlanItem) : Prop where
  evidence : item.evidence = subject.evidence
  targetIdentity : item.targetIdentity = subject.targetIdentity
  desired : item.desired = subject.wanted policy
  independent : item.dependencies = []
  unplanned : item.mutation = none

/-- A decision that changes nothing and shows its grounds. -/
structure Grounds (policy : PlannerPolicy) (subject : Subject) (decision : Decision) : Prop where
  evidence : decision.evidence = subject.evidence
  targetIdentity : decision.targetIdentity = subject.targetIdentity
  desired : decision.desired = subject.wanted policy

theorem Grounds.shows {decision : Decision} (grounds : subject.Grounds policy decision)
    (ok : (.ok (Candidate.nonMutating subject.order decision) : Except SysboostError Candidate) =
      .ok candidate) : subject.Shows policy candidate.item := by
  cases ok
  exact ⟨grounds.evidence, grounds.targetIdentity, grounds.desired, rfl, rfl⟩

theorem grounds_withhold {desired : Option PlanValue} {action : PlanAction}
    {rationale reason : String} (wants : desired = subject.wanted policy) :
    subject.Grounds policy (subject.withhold policy desired action rationale reason) :=
  ⟨rfl, rfl, wants⟩

theorem grounds_withholdUnder {contract : OperationContract} {desired : PlanValue}
    {action : PlanAction} {rationale reason : String}
    (wants : some desired = subject.wanted policy) :
    subject.Grounds policy
      (subject.withholdUnder policy contract desired action rationale reason) :=
  ⟨rfl, rfl, wants⟩

theorem resolveTarget_shows {contract : OperationContract} {desired : PlanValue}
    (wants : some desired = subject.wanted policy)
    (ok : subject.resolveTarget policy contract desired = .ok candidate) :
    subject.Shows policy candidate.item := by
  unfold resolveTarget at ok
  split at ok
  · exact (grounds_withholdUnder wants).shows ok
  next fact observed =>
    split at ok
    · split at ok
      · exact (grounds_withholdUnder wants).shows ok
      · split at ok
        · exact (grounds_withholdUnder wants).shows ok
        · split at ok
          · exact (grounds_withholdUnder wants).shows ok
          next identified =>
            split at ok
            · exact (grounds_withholdUnder wants).shows ok
            · split at ok
              · exact (grounds_withholdUnder wants).shows ok
              · split at ok
                · cases ok
                · cases ok
                  refine ⟨rfl, ?_, wants, rfl, rfl⟩
                  simp [Candidate.mutating, Subject.targetIdentity, observed, identified]
    · exact (grounds_withholdUnder wants).shows ok

theorem resolveContract_shows {descriptor : CapabilityDescriptor} {contract : OperationContract}
    {desired : PlanValue} (wants : some desired = subject.wanted policy)
    (ok : subject.resolveContract policy descriptor contract desired = .ok candidate) :
    subject.Shows policy candidate.item := by
  obtain ⟨⟨⟩, -, ok⟩ := bind_eq_ok_iff.mp ok
  split at ok
  · cases ok
    exact ⟨rfl, rfl, wants, rfl, rfl⟩
  · split at ok
    · cases ok
    · split at ok
      · cases ok
      · split at ok
        · exact (grounds_withholdUnder wants).shows ok
        · exact resolveTarget_shows wants ok

theorem resolveMutation_shows {descriptor : CapabilityDescriptor} {desired : PlanValue}
    (wants : some desired = subject.wanted policy)
    (ok : subject.resolveMutation policy catalog descriptor desired = .ok candidate) :
    subject.Shows policy candidate.item := by
  unfold resolveMutation at ok
  split at ok
  · exact (grounds_withhold wants).shows ok
  · split at ok
    · exact (grounds_withhold wants).shows ok
    · split at ok
      · exact (grounds_withhold wants).shows ok
      · split at ok
        · exact (grounds_withhold wants).shows ok
        · exact resolveContract_shows wants ok

theorem resolveSpecInner_shows (ok : subject.resolveSpecInner policy catalog = .ok candidate) :
    subject.Shows policy candidate.item := by
  unfold resolveSpecInner at ok
  split at ok
  next preserved => exact (grounds_withhold (by simp [wanted, preserved])).shows ok
  next unpreserved =>
    have wants : subject.wanted policy = (subject.desired policy).1 := by
      simp [wanted, unpreserved]
    rcases desires : subject.desired policy with ⟨desired, unavailable⟩
    simp only [desires] at ok wants
    split at ok
    · exact (grounds_withhold wants.symm).shows ok
    · split at ok
      · exact (grounds_withhold wants.symm).shows ok
      · split at ok
        · exact (grounds_withhold wants.symm).shows ok
        · exact (grounds_withhold wants.symm).shows ok
        · split at ok
          · exact (grounds_withhold wants.symm).shows ok
          · exact resolveMutation_shows wants.symm ok

theorem resolveSpec_shows (ok : subject.resolveSpec policy catalog = .ok candidate) :
    subject.Shows policy candidate.item := by
  obtain ⟨inner, resolved, checked⟩ := bind_eq_ok_iff.mp ok
  split at checked
  · cases checked
  · cases checked
    exact resolveSpecInner_shows resolved

end Subject

/-- Where an item stands, and the grounds it shows. -/
structure Subject.Behind (policy : PlannerPolicy) (subject : Subject) (item : PlanItem) :
    Prop where
  capability : item.capability = subject.spec.capability
  operation : item.operation = subject.spec.operation
  target : item.target = subject.target
  evidence : item.evidence = subject.evidence
  targetIdentity : item.targetIdentity = subject.targetIdentity
  desired : item.desired = subject.wanted policy

theorem Completes.behind {policy : PlannerPolicy} {catalog : OperationCatalog}
    {subject : Subject} {candidate : Candidate} {item : PlanItem}
    (resolves : subject.resolveSpec policy catalog = .ok candidate)
    (completes : Completes candidate item) : subject.Behind policy item := by
  have shows' := Subject.resolveSpec_shows resolves
  obtain ⟨-, capability, target, operation⟩ := Subject.identity_of_resolveSpec resolves
  cases completes with
  | unplanned =>
      exact ⟨capability, operation, target, shows'.evidence, shows'.targetIdentity,
        shows'.desired⟩
  | planned drafted made =>
      refine ⟨capability, operation, target, shows'.evidence, ?_, shows'.desired⟩
      rcases Subject.resolveSpec_settles resolves with ⟨admission, rfl⟩ | ⟨decision, -, rfl⟩
      · cases drafted
        simp [Admission.draft, Subject.targetIdentity, admission.observed, admission.identified]
      · cases drafted

end Sysboost.Planner
