import Sysboost.Planner.Checklist

/-!
# Required requests

Proposals for one operation at one target are merged into the one that is
selected.  A required request is met exactly when the selected proposal has its
value and is admitted.
-/

namespace Sysboost.Planner

open Sysboost.Core Results

/-- The plan carries out the request, or finds it carried out. -/
def Met (plan : Plan) (request : PolicyRequest) : Prop :=
  ∃ item ∈ plan.items, item.capability = request.capability ∧
    item.target = some request.target ∧ item.operation = request.operation.operationId ∧
    (item.action = .mutation ∨ item.action = .noOp) ∧
    item.desired = some (.typed request.operation.typedValue)

instance (plan : Plan) (request : PolicyRequest) : Decidable (Met plan request) :=
  inferInstanceAs (Decidable (∃ item ∈ plan.items, _))

/-- The operation of a request passes every gate at its target, or is in place
there. -/
def Admissible (catalog : OperationCatalog) (input : PlannerInput) (request : PolicyRequest) :
    Prop :=
  ∃ proposals, selectProposals input.policy.proposals = .ok proposals ∧
    ∃ subject ∈ considered input proposals, subject.spec.capability = request.capability ∧
      subject.target = some request.target ∧
      subject.spec.operation = request.operation.operationId ∧
      (Nonempty (Admission input.policy catalog subject) ∨ subject.InPlace input.policy)

/-- The proposal selected in place of a request has its value, and is required
itself or admissible anyway. -/
def Honoured (catalog : OperationCatalog) (input : PlannerInput) (request : PolicyRequest) : Prop :=
  ∃ winner, input.policy.selection request.key = some winner ∧
    winner.request.operation.typedValue = request.operation.typedValue ∧
    (winner.request.required = true ∨ input.policy.requiredDefault = true ∨
      Admissible catalog input request)

/-- What an admitting decision wants is what is desired of the subject. -/
theorem Subject.desired_of_resolveSpec {policy : PlannerPolicy} {catalog : OperationCatalog}
    {subject : Subject} {candidate : Candidate}
    (ok : subject.resolveSpec policy catalog = .ok candidate)
    (action : candidate.item.action = .mutation ∨ candidate.item.action = .noOp) :
    candidate.item.desired = (subject.desired policy).1 ∧
      (Nonempty (Admission policy catalog subject) ∨ subject.InPlace policy) := by
  rcases resolveSpec_settles ok with ⟨admission, rfl⟩ | ⟨decision, decides, rfl⟩
  · exact ⟨by rw [admission.wanted]; rfl, .inl ⟨admission⟩⟩
  · rcases action with action | action
    · exact absurd action decides.action
    · obtain ⟨inPlace, desired⟩ := decides.inPlace action
      exact ⟨desired, .inr inPlace⟩

theorem Subject.action_of_admissible {policy : PlannerPolicy} {catalog : OperationCatalog}
    {subject : Subject} {candidate : Candidate}
    (ok : subject.resolveSpec policy catalog = .ok candidate)
    (admissible : Nonempty (Admission policy catalog subject) ∨ subject.InPlace policy) :
    candidate.item.action = .mutation ∨ candidate.item.action = .noOp := by
  rcases admissible with ⟨⟨admission⟩⟩ | inPlace
  · have admitted := (resolveSpec_mutation_iff.mpr ⟨admission, rfl⟩).1
    rw [ok] at admitted
    cases admitted
    exact .inl rfl
  · have resolved : ∃ candidate, subject.resolveSpec policy catalog = .ok candidate ∧
        candidate.item.action = .noOp := resolveSpec_of_inPlace inPlace
    obtain ⟨other, resolves, action⟩ := resolved
    rw [ok] at resolves
    cases resolves
    exact .inr action

theorem Subject.admits_iff {action : PlanAction} :
    admits action = true ↔ action = .mutation ∨ action = .noOp := by
  cases action <;> simp [admits]

/-- The subject of a selected proposal wants its value. -/
theorem Subject.Grounded.desired {input : PlannerInput} {subject : Subject}
    (grounded : subject.Grounded input) {request : PolicyRequest} {winner : PolicyProposal}
    (capability : subject.spec.capability = request.capability)
    (target : subject.target = some request.target)
    (operation : subject.spec.operation = request.operation.operationId)
    (wins : input.policy.selection request.key = some winner) :
    subject.proposal = some winner ∧
      (subject.desired input.policy).1 = some (.typed winner.request.operation.typedValue) := by
  have proposed : subject.proposal = some winner := by
    rw [grounded.proposed, target, ← wins, capability, operation]
    rfl
  exact ⟨proposed, by rw [Subject.desired, proposed]⟩

/-- Every listed proposal is selected or has another selected in its place. -/
theorem exists_winner {policy : PlannerPolicy} {proposal : PolicyProposal}
    (listed : proposal ∈ policy.proposals) :
    ∃ winner, policy.selection proposal.request.key = some winner :=
  Option.isSome_iff_exists.mp
    (List.find?_isSome.mpr ⟨proposal, (Ordered.mem_sortBy _).mpr listed, by simp⟩)

/-- Every required request is met exactly when each of them is honoured. -/
theorem required_met_iff {catalog : OperationCatalog} {input : PlannerInput} {plan : Plan}
    (ok : catalog.build input = .ok plan) :
    (∀ proposal ∈ input.policy.proposals, proposal.request.required = true →
        Met plan proposal.request) ↔
      ∀ proposal ∈ input.policy.proposals, proposal.request.required = true →
        Honoured catalog input proposal.request := by
  obtain ⟨proposals, composed⟩ := composed_of_build ok
  have met_iff (proposal : PolicyProposal) (listed : proposal ∈ input.policy.proposals) :
      Met plan proposal.request ↔ Honoured catalog input proposal.request := by
    obtain ⟨winner, wins⟩ := exists_winner listed
    constructor
    · rintro ⟨item, member, capability, target, operation, action, desired⟩
      obtain ⟨subject, considered, candidate, resolves, completes⟩ :=
        composed.decided item member
      obtain ⟨-, capability', target', operation'⟩ := Subject.identity_of_resolveSpec resolves
      rw [completes.capability, capability'] at capability
      rw [completes.target, target'] at target
      rw [completes.operation, operation'] at operation
      rw [completes.action] at action
      rw [completes.desired] at desired
      obtain ⟨wanted, admissible⟩ := Subject.desired_of_resolveSpec resolves action
      have value := ((grounded_of_considered composed.selected considered).desired capability
        target operation wins).2
      rw [← wanted, desired] at value
      refine ⟨winner, wins, ?_, .inr (.inr ⟨proposals, composed.selected, subject, considered,
        capability, target, operation, admissible⟩)⟩
      simpa using value.symm
    · rintro ⟨winner', wins', value, why⟩
      rw [wins] at wins'
      cases wins'
      have decided {subject : Subject} (considered : subject ∈ considered input proposals)
          (capability : subject.spec.capability = proposal.request.capability)
          (target : subject.target = some proposal.request.target)
          (operation : subject.spec.operation = proposal.request.operation.operationId)
          (admits : ∀ candidate, subject.resolveSpec input.policy catalog = .ok candidate →
            candidate.item.action = .mutation ∨ candidate.item.action = .noOp) :
          Met plan proposal.request := by
        obtain ⟨candidate, resolves, item, member, completes⟩ :=
          composed.complete subject considered
        obtain ⟨-, capability', target', operation'⟩ := Subject.identity_of_resolveSpec resolves
        have action := admits candidate resolves
        obtain ⟨wanted, -⟩ := Subject.desired_of_resolveSpec resolves action
        refine ⟨item, member, ?_, ?_, ?_, ?_, ?_⟩
        · rw [completes.capability, capability', capability]
        · rw [completes.target, target', target]
        · rw [completes.operation, operation', operation]
        · rwa [completes.action]
        · rw [completes.desired, wanted, ← value]
          exact ((grounded_of_considered composed.selected considered).desired capability target
            operation wins).2
      obtain ⟨subject, considered, capability, target, operation⟩ :=
        exists_considered composed.selected listed
      have proposed := ((grounded_of_considered composed.selected considered).desired capability
        target operation wins).1
      rcases why with required | required | admissible
      · refine decided considered capability target operation fun candidate resolves => ?_
        exact Subject.admits_iff.mp (Subject.admits_of_required resolves
          (by simp [Subject.required, proposed, required]))
      · refine decided considered capability target operation fun candidate resolves => ?_
        exact Subject.admits_iff.mp (Subject.admits_of_required resolves
          (by simp [Subject.required, proposed, required]))
      · obtain ⟨proposals', selected, subject, considered, capability, target, operation,
          admissible⟩ := admissible
        rw [composed.selected] at selected
        cases selected
        exact decided considered capability target operation fun candidate resolves =>
          Subject.action_of_admissible resolves admissible
  constructor
  · exact fun met proposal listed required =>
      (met_iff proposal listed).mp (met proposal listed required)
  · exact fun honoured proposal listed required =>
      (met_iff proposal listed).mpr (honoured proposal listed required)

namespace Fixtures

/-- A request for the performance governor. -/
def governorRequest (required : Bool) : PolicyRequest where
  capability := CapabilityIds.cpuPolicyGovernor
  target := cpuTarget
  operation := .cpuGovernor ⟨0⟩ performanceGovernor
  required := required

/-- A report-only policy with the given proposals. -/
def reportInput (proposals : List PolicyProposal) : PlannerInput :=
  { cpuInput .balanced with
    policy := { PlannerPolicy.forProfile .balanced with mode := .report, proposals := proposals } }

/-- The user requires what the system proposes as optional. -/
def mergedInput : PlannerInput :=
  reportInput [⟨.system, governorRequest false⟩, ⟨.user, governorRequest true⟩]

end Fixtures

/-- The optional proposal is selected, and the required one is dropped. -/
theorem required_met_merged :
    ∃ plan, Fixtures.cpuCatalog.build Fixtures.mergedInput = .ok plan ∧
      ¬∀ proposal ∈ Fixtures.mergedInput.policy.proposals, proposal.request.required = true →
        Met plan proposal.request := by
  obtain ⟨plan, ok, unmet⟩ := exists_ok_of_any
    (x := Fixtures.cpuCatalog.build Fixtures.mergedInput)
    (p := fun plan => ¬Met plan (Fixtures.governorRequest true)) (by decide +kernel)
  refine ⟨plan, ok, fun met => of_decide_eq_true unmet ?_⟩
  exact met ⟨.user, Fixtures.governorRequest true⟩ (by simp [Fixtures.mergedInput,
    Fixtures.reportInput]) rfl

theorem required_met_merged_iff :
    ∃ plan, Fixtures.cpuCatalog.build Fixtures.mergedInput = .ok plan ∧
      ((∀ proposal ∈ Fixtures.mergedInput.policy.proposals, proposal.request.required = true →
          Met plan proposal.request) ↔
        ∀ proposal ∈ Fixtures.mergedInput.policy.proposals, proposal.request.required = true →
          Honoured Fixtures.cpuCatalog Fixtures.mergedInput proposal.request) := by
  obtain ⟨plan, ok, -⟩ := exists_ok_of_any
    (x := Fixtures.cpuCatalog.build Fixtures.mergedInput) (p := fun _ => true) (by decide +kernel)
  exact ⟨plan, ok, required_met_iff ok⟩

end Sysboost.Planner
