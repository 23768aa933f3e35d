import Sysboost.Planner.Checklist

/-!
# Observed facts under a mutation

The value that a profile chooses is one the interface offers, and its operation
acts on the object of the fact.  An explicit proposal, and the value that the
extreme profile chooses for a GPU, are taken without a look at the fact.
-/

namespace Sysboost.Core

open Planner

/-- The object on which an operation acts. -/
def MutationKind.object : MutationKind → TypedTarget
  | cpuFrequency policy .. => .cpuPolicy policy
  | cpuGovernor policy _ => .cpuPolicy policy
  | cpuEnergyPreference policy _ => .cpuPolicy policy
  | cpuBoost _ => .cpuSystem
  | platformProfile _ => .cpuSystem
  | cgroupCpuWeight cgroup _ => .cgroup cgroup
  | cgroupCpuMax cgroup .. => .cgroup cgroup
  | cgroupCpuset cgroup _ => .cgroup cgroup
  | cgroupIoWeight cgroup _ => .cgroup cgroup
  | cgroupUclampMin cgroup _ => .cgroup cgroup
  | cgroupUclampMax cgroup _ => .cgroup cgroup
  | cgroupWorkload parent _ => .cgroup parent
  | cgroupBackground parent _ => .cgroup parent
  | processPlacement process _ => .process process
  | processNice process _ => .process process
  | processIoPriority process _ => .process process
  | gpuPerformanceProfile device _ => .gpu device
  | gpuPowerLimit device _ => .gpu device
  | irqAffinity irq _ => .irq irq
  | runtimeSysctl key _ => .sysctl key

end Sysboost.Core

namespace Sysboost.Planner

open Sysboost.Core Results

/-- A default operation acts on the object of the fact. -/
theorem object_of_defaultKind {control : ControlId} {fact : CurrentStateFact}
    {desired : TypedValue} {kind : MutationKind}
    (chosen : defaultKind control fact desired = some kind) :
    fact.typedTarget = some kind.object := by
  unfold defaultKind at chosen
  split at chosen
  · cases chosen
  next target typed =>
    rw [typed]
    split at chosen <;> cases chosen <;> rfl

theorem offers_of_chooseValue {fact : CurrentStateFact} {candidates : List TypedValue}
    {value : PlanValue} (chosen : chooseValue (some fact) candidates = some value) :
    fact.offers value = true :=
  List.find?_some chosen

theorem chosen_eq {fact : Option CurrentStateFact} {reason : String} {choice : Option PlanValue}
    {value : PlanValue} {unavailable : Option String}
    (same : chosen fact reason choice = (some value, unavailable)) : choice = some value := by
  cases choice with
  | none => cases same
  | some chosen => cases same; rfl

/-- Except for a GPU, a profile chooses what the interface offers. -/
theorem offers_of_profileDesired {profile : Profile} {spec : FeatureSpec}
    {fact : CurrentStateFact} {value : PlanValue} {reason : Option String}
    (wanted : profileDesired profile spec (some fact) = (some value, reason))
    (other : spec.profileTarget ≠ .gpuPerformance) : fact.offers value = true := by
  unfold profileDesired at wanted
  split at wanted
  · have choice := chosen_eq wanted
    unfold chooseGovernor at choice
    split at choice <;> exact offers_of_chooseValue choice
  · have choice := chosen_eq wanted
    unfold chooseEnergyPreference at choice
    split at choice <;> exact offers_of_chooseValue choice
  · split at wanted
    · cases wanted
    · exact offers_of_chooseValue (chosen_eq wanted)
  next gpu => exact absurd gpu other
  · cases wanted

theorem mem_of_offers {fact : CurrentStateFact} {value : PlanValue}
    (offers : fact.offers value = true) (filled : fact.supportedValues ≠ []) :
    value ∈ fact.supportedValues := by
  simpa [CurrentStateFact.offers, filled] using offers

/-- An item rests on a fact: its value is among those that the interface
advertises, and its operation acts on the object that the fact names. -/
structure RestsOn (fact : CurrentStateFact) (item : PlanItem) : Prop where
  offered : fact.supportedValues ≠ [] → ∃ desired ∈ fact.supportedValues,
    item.desired = some desired
  object : ∃ mutation, item.mutation = some mutation ∧
    fact.typedTarget = some mutation.kind.object

/-- What is taken without a look at the fact agrees with it anyway. -/
def Subject.Agrees (subject : Subject) (fact : CurrentStateFact) : Prop :=
  match subject.proposal with
  | some proposal =>
      fact.offers (.typed proposal.request.operation.typedValue) = true ∧
        fact.typedTarget = some proposal.request.operation.object
  | none =>
      subject.spec.profileTarget = .gpuPerformance →
        fact.offers (.typed (.gpuPerformanceProfile .performance)) = true

section Rests

variable {policy : PlannerPolicy} {catalog : OperationCatalog} {subject : Subject}
  (admission : Admission policy catalog subject)

/-- The fact offers the value and names the object of an admitted subject
exactly when what was taken unseen agrees with it. -/
theorem agrees_iff :
    subject.Agrees admission.fact ↔
      admission.fact.offers (.typed admission.desired) = true ∧
        admission.fact.typedTarget = some admission.kind.object := by
  have wanted := admission.wanted
  have operation := admission.operation
  unfold Subject.Agrees
  unfold Subject.desired at wanted
  unfold Subject.kind at operation
  cases proposed : subject.proposal with
  | some proposal =>
      simp only [proposed, Prod.mk.injEq, Option.some.injEq, PlanValue.typed.injEq, and_true]
        at wanted operation
      rw [← wanted, ← operation]
  | none =>
      simp only [proposed, admission.observed] at wanted operation
      have object := object_of_defaultKind operation
      by_cases gpu : subject.spec.profileTarget = .gpuPerformance
      · simp only [gpu, profileDesired, forall_const] at wanted ⊢
        split at wanted
        · simp only [Prod.mk.injEq, Option.some.injEq, PlanValue.typed.injEq, and_true] at wanted
          rw [← wanted]
          exact ⟨fun offers => ⟨offers, object⟩, And.left⟩
        · cases wanted
      · have offers := offers_of_profileDesired wanted gpu
        exact ⟨fun _ => ⟨offers, object⟩, fun _ target => absurd target gpu⟩

theorem restsOn_iff {item : PlanItem} (completes : Completes admission.candidate item)
    (planned : item.mutation.isSome = true) :
    RestsOn admission.fact item ↔ subject.Agrees admission.fact := by
  have desired : item.desired = some (.typed admission.desired) := completes.desired
  have carried : ∃ mutation, item.mutation = some mutation ∧ mutation.kind = admission.kind := by
    cases completes with
    | unplanned => cases planned
    | planned drafted made =>
        cases drafted
        exact ⟨_, rfl, by rw [(PlannedMutation.eq_of_new made).1]; rfl⟩
  obtain ⟨mutation, carries, kind⟩ := carried
  rw [agrees_iff]
  constructor
  · rintro ⟨offered, other, carries', object⟩
    rw [carries] at carries'
    cases carries'
    refine ⟨?_, kind ▸ object⟩
    by_cases filled : admission.fact.supportedValues = []
    · simp [CurrentStateFact.offers, filled]
    · obtain ⟨value, member, same⟩ := offered filled
      rw [desired] at same
      cases same
      simp [CurrentStateFact.offers, member]
  · rintro ⟨offers, object⟩
    exact ⟨fun filled => ⟨_, mem_of_offers offers filled, desired⟩, mutation, carries,
      kind ▸ object⟩

end Rests

/-- Every mutation of the plan rests on the fact about its control at its
target. -/
def RestsOnFacts (input : PlannerInput) (plan : Plan) : Prop :=
  ∀ item ∈ plan.items, item.action = .mutation → ∃ target fact, item.target = some target ∧
    input.currentState.factAbout item.capability target item.control = some fact ∧
    RestsOn fact item

/-- Whatever an admitted operation takes unseen agrees with its fact. -/
def AgreesWithFacts (catalog : OperationCatalog) (input : PlannerInput) : Prop :=
  ∀ proposals, selectProposals input.policy.proposals = .ok proposals →
    ∀ subject ∈ considered input proposals, ∀ admission : Admission input.policy catalog subject,
      subject.Agrees admission.fact

/-- The mutations of a plan rest on the observed facts exactly when explicit
proposals, and the value for a GPU, agree with the facts about them. -/
theorem restsOnFacts_iff {catalog : OperationCatalog} {input : PlannerInput} {plan : Plan}
    (ok : catalog.build input = .ok plan) :
    RestsOnFacts input plan ↔ AgreesWithFacts catalog input := by
  obtain ⟨proposals, composed⟩ := composed_of_build ok
  have found {subject : Subject} (member : subject ∈ considered input proposals)
      (admission : Admission input.policy catalog subject) :
      input.currentState.factAbout subject.spec.capability admission.target subject.spec.control =
        some admission.fact := by
    rw [← admission.observed, (grounded_of_considered composed.selected member).observed,
      admission.targeted]
    rfl
  have planned {item : PlanItem} (member : item ∈ plan.items) (action : item.action = .mutation) :
      item.mutation.isSome = true :=
    (executable_of_validate (composed.item_validate member) action).1
  constructor
  · intro rests proposals' selected subject member admission
    obtain rfl : proposals' = proposals := by
      rw [composed.selected] at selected
      exact (Except.ok.inj selected).symm
    obtain ⟨item, present, completes⟩ := composed.exists_item member admission
    obtain ⟨target, fact, targeted, about, rests⟩ := rests item present completes.action
    rw [completes.target] at targeted
    cases targeted
    rw [completes.capability, completes.control] at about
    have same : fact = admission.fact := Option.some.inj (about.symm.trans (found member admission))
    rw [same] at rests
    exact (restsOn_iff admission completes (planned present completes.action)).mp rests
  · intro agrees item present action
    obtain ⟨subject, member, admission, completes⟩ := composed.admitted present action
    refine ⟨admission.target, admission.fact, completes.target, ?_, ?_⟩
    · rw [completes.capability, completes.control]
      exact found member admission
    · exact (restsOn_iff admission completes (planned present action)).mpr
        (agrees proposals composed.selected subject member admission)

namespace Fixtures

/-- A proposal at CPU policy 0 whose operation writes another policy. -/
def otherPolicyInput : PlannerInput :=
  { cpuInput .balanced with
    policy := { PlannerPolicy.forProfile .balanced with
      proposals := [⟨.user, {
        capability := CapabilityIds.cpuPolicyGovernor
        target := cpuTarget
        operation := .cpuGovernor ⟨1⟩ performanceGovernor
        required := false }⟩] } }

end Fixtures

/-- The plan names CPU policy 0 and writes policy 1. -/
theorem restsOnFacts_otherPolicy :
    ∃ plan, Fixtures.cpuCatalog.build Fixtures.otherPolicyInput = .ok plan ∧
      ¬RestsOnFacts Fixtures.otherPolicyInput plan := by
  obtain ⟨plan, ok, writes⟩ := exists_ok_of_any
    (x := Fixtures.cpuCatalog.build Fixtures.otherPolicyInput)
    (p := fun plan => plan.items.any fun item =>
      item.action = .mutation && item.capability = CapabilityIds.cpuPolicyGovernor &&
        item.target = some Fixtures.cpuTarget && item.control = .cpuGovernor &&
        item.mutation.any fun mutation => mutation.kind.object = .cpuPolicy ⟨1⟩)
    (by decide +kernel)
  refine ⟨plan, ok, fun rests => ?_⟩
  obtain ⟨item, member, writes⟩ := List.any_eq_true.mp writes
  simp only [Bool.and_eq_true, decide_eq_true_eq, Option.any_eq_true] at writes
  obtain ⟨⟨⟨⟨action, capability⟩, target⟩, control⟩, mutation, carries, object⟩ := writes
  obtain ⟨target', fact, targeted, about, rests⟩ := rests item member action
  obtain ⟨mutation', carries', named⟩ := rests.object
  rw [target] at targeted
  cases targeted
  rw [capability, control] at about
  rw [carries] at carries'
  cases carries'
  have observed : Fixtures.otherPolicyInput.currentState.factAbout CapabilityIds.cpuPolicyGovernor
      Fixtures.cpuTarget .cpuGovernor = some (Fixtures.governorFact Fixtures.schedutil) := by
    decide +kernel
  rw [observed] at about
  cases about
  rw [object] at named
  exact absurd named (by decide)

theorem restsOnFacts_otherPolicy_iff :
    ∃ plan, Fixtures.cpuCatalog.build Fixtures.otherPolicyInput = .ok plan ∧
      (RestsOnFacts Fixtures.otherPolicyInput plan ↔
        AgreesWithFacts Fixtures.cpuCatalog Fixtures.otherPolicyInput) := by
  obtain ⟨plan, ok, -⟩ := exists_ok_of_any
    (x := Fixtures.cpuCatalog.build Fixtures.otherPolicyInput)
    (p := fun _ => true) (by decide +kernel)
  exact ⟨plan, ok, restsOnFacts_iff ok⟩

end Sysboost.Planner
