import Sysboost.Planner.Build
import Sysboost.Results.Loops

/-!
# Selected proposals and considered subjects

Of the proposals for one operation at one target the most trusted one is
selected, and among equally trusted ones the first.  What is known of a
considered subject comes from the input.
-/

namespace Sysboost.Planner

open Sysboost.Core Ordered Results

/-! ## Selection -/

/-- The proposal that is selected for the operation and target of a request. -/
def PlannerPolicy.selection (policy : PlannerPolicy) (key : CandidateKey) :
    Option PolicyProposal :=
  (sortBy PolicyProposal.selectionKey policy.proposals).find? fun proposal =>
    proposal.request.key = key

/-- Of two proposals for the same key the one sorted first is at least as
trusted. -/
theorem precedence_of_selectionKey {first second : PolicyProposal}
    (le : first.selectionKey ≤ second.selectionKey)
    (same : first.request.key = second.request.key) :
    second.source.precedence ≤ first.source.precedence := by
  simp only [PolicyRequest.key, CandidateKey.mk.injEq, Option.some.injEq] at same
  obtain ⟨capability, target, operation, -⟩ := same
  simp only [PolicyProposal.selectionKey, capability, target, operation, Prod.Lex.toLex_le_toLex,
    lt_irrefl, false_or, true_and] at le
  exact OrderDual.toDual_le_toDual.mp le

theorem selectProposal_eq_ok {selected after : Proposals} {proposal : PolicyProposal}
    (trusted : ∀ existing, selected.get proposal.request.key = some existing →
      proposal.source.precedence ≤ existing.source.precedence)
    (ok : selectProposal selected proposal = .ok after) :
    proposal.request.validate = .ok () ∧
      ((selected.get proposal.request.key = none ∧
          after = selected.insert proposal.request.key proposal) ∨
        ∃ existing, selected.get proposal.request.key = some existing ∧ after = selected) := by
  obtain ⟨⟨⟩, valid, ok⟩ := bind_eq_ok_iff.mp ok
  refine ⟨valid, ?_⟩
  split at ok
  next missing =>
    cases ok
    exact .inl ⟨missing, rfl⟩
  next existing found =>
    right
    refine ⟨existing, found, ?_⟩
    split at ok
    · cases ok
      rfl
    · split at ok
      · cases ok
        rfl
      · split at ok
        next lower => exact absurd (trusted existing found) (not_le.mpr lower)
        · cases ok

/-- Selection keeps the first proposal of every key. -/
theorem get_selectProposals {policy : PlannerPolicy} {proposals : Proposals}
    (ok : selectProposals policy.proposals = .ok proposals) :
    (∀ proposal ∈ policy.proposals, proposal.request.validate = .ok ()) ∧
      ∀ key, proposals.get key = policy.selection key := by
  have sorted := sortBy_pairwise PolicyProposal.selectionKey policy.proposals
  have selected := foldlM_eq_ok (p := fun selected front =>
    (∀ proposal ∈ front, proposal.request.validate = .ok ()) ∧
      ∀ key, selected.get key = front.find? fun proposal => proposal.request.key = key) ok
        ⟨by simp, fun key => OrderedMap.get_empty key⟩ ?_
  · exact ⟨fun proposal member => selected.1 proposal ((mem_sortBy _).mpr member), selected.2⟩
  · intro state front proposal rest after whole known step
    have trusted : ∀ existing, state.get proposal.request.key = some existing →
        proposal.source.precedence ≤ existing.source.precedence := by
      intro existing found
      rw [known.2] at found
      have same : existing.request.key = proposal.request.key := by
        simpa using List.find?_some found
      rw [← whole, List.pairwise_append] at sorted
      exact precedence_of_selectionKey
        (sorted.2.2 existing (List.mem_of_find?_eq_some found) proposal List.mem_cons_self) same
    obtain ⟨valid, outcome⟩ := selectProposal_eq_ok trusted step
    refine ⟨?_, fun key => ?_⟩
    · intro other member
      rcases List.mem_append.mp member with member | member
      · exact known.1 other member
      · rwa [List.mem_singleton.mp member]
    · rw [List.find?_append]
      rcases outcome with ⟨missing, rfl⟩ | ⟨existing, found, rfl⟩
      · by_cases own : proposal.request.key = key
        · subst own
          rw [← known.2, missing]
          simp
        · rw [OrderedMap.get_insert_of_ne (Ne.symm own), known.2]
          simp [own]
      · rw [known.2]
        by_cases own : proposal.request.key = key
        · subst own
          rw [← known.2, found]
          rfl
        · simp [own]

theorem key_of_selection {policy : PlannerPolicy} {key : CandidateKey} {proposal : PolicyProposal}
    (selected : policy.selection key = some proposal) : proposal.request.key = key := by
  simpa using List.find?_some selected

/-! ## Subjects -/

/-- The subjects of an input: every specification at every one of its targets,
and the proposals that no specification covers. -/
def considered (input : PlannerInput) (proposals : Proposals) : List Subject :=
  specSubjects input proposals ++
    (proposals.values.filter fun proposal => !isReviewed proposal).map (customSubject input)

/-- The first fact about a control of a capability at a target. -/
def CurrentState.factAbout (state : CurrentState) (capability : CapabilityId) (target : TargetId)
    (control : ControlId) : Option CurrentStateFact :=
  state.facts.find? fun fact =>
    fact.capability = capability && fact.target = target && fact.control = control

/-- What is known of a subject comes from the input. -/
structure Subject.Grounded (input : PlannerInput) (subject : Subject) : Prop where
  described : subject.descriptor = selectDescriptor input.inventory subject.spec.capability
  observed : subject.fact = subject.target.bind fun target =>
    input.currentState.factAbout subject.spec.capability target subject.spec.control
  proposed : subject.proposal = subject.target.bind fun target =>
    input.policy.selection ⟨subject.spec.capability, some target, subject.spec.operation, 0⟩
  optIn : subject.spec.explicitOptIn = subject.spec.feature.isExperimental

theorem featureSpecs_optIn :
    ∀ spec ∈ featureSpecs, spec.explicitOptIn = spec.feature.isExperimental := by
  decide

theorem featureSpecs_nodup : (featureSpecs.map FeatureSpec.operation).Nodup := by
  decide +kernel

/-- A reviewed operation belongs to the capability of its family. -/
theorem reviewed_capability {spec : FeatureSpec} (reviewed : spec ∈ featureSpecs)
    {kind : MutationKind} (same : spec.operation = kind.operationId) :
    spec.capability = expectedCapability kind := by
  have texts : ∀ spec ∈ featureSpecs, spec.operation.asStr = kind.operationText →
      spec.capability = expectedCapability kind := by
    cases kind <;> (simp only [MutationKind.operationText, expectedCapability]; decide +kernel)
  exact texts spec reviewed (congrArg TextId.asStr same)

/-- The operation determines the capability, the control and the kind of
target. -/
theorem expectedCapability_congr {kind other : MutationKind}
    (same : kind.operationId = other.operationId) :
    expectedCapability kind = expectedCapability other ∧
      operationShape kind = operationShape other := by
  cases kind <;> cases other <;> first
    | exact ⟨rfl, rfl⟩
    | (simp [MutationKind.operationId, MutationKind.operationText] at same)

theorem capability_of_validate {request : PolicyRequest} (valid : request.validate = .ok ()) :
    request.capability = expectedCapability request.operation := by
  unfold PolicyRequest.validate at valid
  split at valid
  · cases valid
  next same => exact not_not.mp same

/-- Where a considered subject comes from. -/
inductive Origin (input : PlannerInput) (proposals : Proposals) : Subject → Prop
  | reviewed {spec : FeatureSpec} {order : Nat} (target : Option TargetId)
      (listed : featureSpecs[order]? = some spec) :
      Origin input proposals (specSubject input proposals spec order target)
  | custom {proposal : PolicyProposal}
      (selected : input.policy.selection proposal.request.key = some proposal)
      (valid : proposal.request.validate = .ok ()) (unreviewed : isReviewed proposal = false) :
      Origin input proposals (customSubject input proposal)

section Considered

variable {input : PlannerInput} {proposals : Proposals}
  (selected : selectProposals input.policy.proposals = .ok proposals)

include selected

theorem origin_of_considered {subject : Subject} (member : subject ∈ considered input proposals) :
    Origin input proposals subject := by
  rcases List.mem_append.mp member with member | member
  · obtain ⟨⟨spec, order⟩, listed, member⟩ := List.mem_flatMap.mp member
    obtain ⟨target, -, rfl⟩ := List.mem_map.mp member
    exact .reviewed target (List.mem_zipIdx_iff_getElem?.mp listed)
  · obtain ⟨proposal, kept, rfl⟩ := List.mem_map.mp member
    obtain ⟨present, unreviewed⟩ := List.mem_filter.mp kept
    obtain ⟨valid, known⟩ := get_selectProposals selected
    obtain ⟨key, found⟩ := OrderedMap.mem_values.mp present
    rw [known] at found
    refine .custom ?_ (valid proposal ((mem_sortBy _).mp (List.mem_of_find?_eq_some found)))
      (by simpa using unreviewed)
    rw [key_of_selection found, found]

theorem grounded_of_considered {subject : Subject} (member : subject ∈ considered input proposals) :
    subject.Grounded input := by
  cases origin_of_considered selected member with
  | @reviewed spec order target listed =>
      refine ⟨rfl, ?_, ?_, featureSpecs_optIn spec (List.mem_of_getElem? listed)⟩
      · cases target with
        | none => rfl
        | some target =>
            show (specFacts input spec).find? _ =
              input.currentState.factAbout spec.capability target spec.control
            rw [specFacts, List.find?_filter, CurrentState.factAbout]
            congr 1
            funext fact
            rw [Bool.and_right_comm]
            simp
      · cases target with
        | none => rfl
        | some target => exact (get_selectProposals selected).2 _
  | custom selected _ _ => exact ⟨rfl, rfl, selected.symm, rfl⟩

/-- An operation is considered once at a target. -/
theorem considered_eq {subject other : Subject} (member : subject ∈ considered input proposals)
    (member' : other ∈ considered input proposals) (target : subject.target = other.target)
    (operation : subject.spec.operation = other.spec.operation) : subject = other := by
  have disjoint {spec : FeatureSpec} {order : Nat} {proposal : PolicyProposal}
      (listed : featureSpecs[order]? = some spec) (valid : proposal.request.validate = .ok ())
      (unreviewed : isReviewed proposal = false)
      (operation : spec.operation = proposal.request.operation.operationId) : False := by
    have present := List.mem_of_getElem? listed
    have capability := (reviewed_capability present operation).trans
      (capability_of_validate valid).symm
    rw [isReviewed, List.any_eq_false] at unreviewed
    exact unreviewed spec present (by simp [capability, operation])
  cases origin_of_considered selected member with
  | @reviewed spec order target' listed =>
      cases origin_of_considered selected member' with
      | @reviewed spec' order' target'' listed' =>
          have ordered : order < (featureSpecs.map FeatureSpec.operation).length := by
            simpa using (List.getElem?_eq_some_iff.mp listed).1
          obtain rfl : order = order' := by
            refine (List.getElem?_inj ordered featureSpecs_nodup).mp ?_
            rw [List.getElem?_map, List.getElem?_map, listed, listed']
            exact congrArg some operation
          rw [listed] at listed'
          cases listed'
          obtain rfl : target' = target'' := target
          rfl
      | custom _ valid unreviewed => exact (disjoint listed valid unreviewed operation).elim
  | @custom proposal chosen valid unreviewed =>
      cases origin_of_considered selected member' with
      | reviewed _ listed => exact (disjoint listed valid unreviewed operation.symm).elim
      | @custom proposal' chosen' valid' unreviewed' =>
          have capability : proposal.request.capability = proposal'.request.capability := by
            rw [capability_of_validate valid, capability_of_validate valid']
            exact (expectedCapability_congr operation).1
          have target : proposal.request.target = proposal'.request.target :=
            Option.some.inj target
          have same : proposal.request.key = proposal'.request.key := by
            rw [PolicyRequest.key, PolicyRequest.key, capability, target]
            exact congrArg (CandidateKey.mk _ _ · 0) operation
          rw [same, chosen'] at chosen
          cases chosen
          rfl

end Considered

theorem mem_specTargets {facts : List CurrentStateFact} {proposals : List PolicyProposal}
    {proposal : PolicyProposal} (member : proposal ∈ proposals) :
    some proposal.request.target ∈ specTargets facts proposals := by
  have present : proposal.request.target ∈ dropRepeats (sortBy id
      (facts.map CurrentStateFact.target ++ proposals.map fun proposal =>
        proposal.request.target)) := by
    rw [mem_dropRepeats, mem_sortBy]
    exact List.mem_append_right _ (List.mem_map_of_mem member)
  unfold specTargets
  split
  next none => simp [none] at present
  · exact List.mem_map_of_mem present

/-- Every proposed operation is considered at its target. -/
theorem exists_considered {input : PlannerInput} {proposals : Proposals}
    (selected : selectProposals input.policy.proposals = .ok proposals)
    {proposal : PolicyProposal} (listed : proposal ∈ input.policy.proposals) :
    ∃ subject ∈ considered input proposals,
      subject.spec.capability = proposal.request.capability ∧
        subject.target = some proposal.request.target ∧
        subject.spec.operation = proposal.request.operation.operationId := by
  have known := (get_selectProposals selected).2 proposal.request.key
  obtain ⟨winner, wins⟩ : ∃ winner, input.policy.selection proposal.request.key = some winner :=
    Option.isSome_iff_exists.mp
      (List.find?_isSome.mpr ⟨proposal, (mem_sortBy _).mpr listed, by simp⟩)
  have same := key_of_selection wins
  rw [wins] at known
  have present : winner ∈ proposals.values := OrderedMap.mem_values.mpr ⟨_, known⟩
  simp only [PolicyRequest.key, CandidateKey.mk.injEq, Option.some.injEq] at same
  obtain ⟨capability, target, operation, -⟩ := same
  rw [← capability, ← target, ← operation]
  cases reviewed : isReviewed winner with
  | false =>
      refine ⟨customSubject input winner, List.mem_append_right _ ?_, rfl, rfl, rfl⟩
      exact List.mem_map_of_mem (List.mem_filter.mpr ⟨present, by simp [reviewed]⟩)
  | true =>
      obtain ⟨spec, member, covers⟩ := List.any_eq_true.mp reviewed
      simp only [Bool.and_eq_true, decide_eq_true_eq] at covers
      obtain ⟨order, at'⟩ := List.getElem?_of_mem member
      refine ⟨specSubject input proposals spec order (some winner.request.target),
        List.mem_append_left _ (List.mem_flatMap.mpr
          ⟨(spec, order), List.mem_zipIdx_iff_getElem?.mpr at', List.mem_map_of_mem ?_⟩),
        covers.1, rfl, covers.2⟩
      exact mem_specTargets (List.mem_filter.mpr ⟨present, by simp [covers]⟩)

end Sysboost.Planner
