import Sysboost.Planner.Decision
import Sysboost.Planner.Selection

/-!
# What a plan is made of

Every item of a plan completes the candidate of a subject that was considered,
and every subject that was considered has such an item.
-/

namespace Sysboost.Planner

open Sysboost.Core Ordered Results

/-! ## Collecting -/

/-- The candidates are those of the subjects, under their keys. -/
structure Collected (policy : PlannerPolicy) (catalog : OperationCatalog)
    (candidates : Candidates) (subjects : List Subject) : Prop where
  resolved : ∀ key candidate, candidates.get key = some candidate → candidate.key = key ∧
    ∃ subject ∈ subjects, subject.resolveSpec policy catalog = .ok candidate
  kept : ∀ subject ∈ subjects, ∃ candidate, subject.resolveSpec policy catalog = .ok candidate ∧
    ∃ kept, candidates.get candidate.key = some kept

theorem insertCandidate_eq_ok {candidates after : Candidates} {candidate : Candidate}
    (ok : insertCandidate candidates candidate = .ok after) :
    (candidates.get candidate.key = none ∧ after = candidates.insert candidate.key candidate) ∨
      ∃ kept, candidates.get candidate.key = some kept ∧ after = candidates := by
  unfold insertCandidate at ok
  split at ok
  next missing =>
    cases ok
    exact .inl ⟨missing, rfl⟩
  next kept found =>
    split at ok
    · cases ok
    · split at ok
      · cases ok
      · cases ok
        exact .inr ⟨kept, found, rfl⟩

theorem Collected.insert {policy : PlannerPolicy} {catalog : OperationCatalog}
    {candidates after : Candidates} {subjects : List Subject} {subject : Subject}
    {candidate : Candidate} (collected : Collected policy catalog candidates subjects)
    (resolves : subject.resolveSpec policy catalog = .ok candidate)
    (ok : insertCandidate candidates candidate = .ok after) :
    Collected policy catalog after (subjects ++ [subject]) := by
  have member {p : Subject → Prop} (holds : ∃ other ∈ subjects, p other) :
      ∃ other ∈ subjects ++ [subject], p other := by
    obtain ⟨other, present, known⟩ := holds
    exact ⟨other, List.mem_append_left _ present, known⟩
  rcases insertCandidate_eq_ok ok with ⟨missing, rfl⟩ | ⟨kept, found, rfl⟩
  · constructor
    · intro key other found
      by_cases own : key = candidate.key
      · rw [own, OrderedMap.get_insert_self] at found
        cases found
        exact ⟨own.symm, subject, by simp, resolves⟩
      · rw [OrderedMap.get_insert_of_ne own] at found
        exact (collected.resolved key other found).imp_right member
    · intro other present
      rcases List.mem_append.mp present with present | present
      · obtain ⟨earlier, resolves', kept, found⟩ := collected.kept other present
        have differs : earlier.key ≠ candidate.key := by
          intro equal
          rw [equal, missing] at found
          cases found
        exact ⟨earlier, resolves', kept, by rw [OrderedMap.get_insert_of_ne differs, found]⟩
      · obtain rfl := List.mem_singleton.mp present
        exact ⟨candidate, resolves, candidate, OrderedMap.get_insert_self _ _ _⟩
  · constructor
    · exact fun key other found => (collected.resolved key other found).imp_right member
    · intro other present
      rcases List.mem_append.mp present with present | present
      · exact collected.kept other present
      · obtain rfl := List.mem_singleton.mp present
        exact ⟨candidate, resolves, kept, found⟩

theorem collect_collected {catalog : OperationCatalog} {input : PlannerInput}
    {proposals : Proposals} {candidates : Candidates}
    (ok : catalog.collect input proposals = .ok candidates) :
    Collected input.policy catalog candidates (considered input proposals) := by
  obtain ⟨reviewed, specsOk, customsOk⟩ := bind_eq_ok_iff.mp ok
  have specs : Collected input.policy catalog reviewed (specSubjects input proposals) := by
    refine foldlM_eq_ok specsOk ⟨fun _ _ found => (by cases found), by simp⟩ ?_
    intro state front subject _ after _ collected step
    obtain ⟨candidate, resolves, inserted⟩ := bind_eq_ok_iff.mp step
    exact collected.insert resolves inserted
  refine foldlM_eq_ok (p := fun candidates front =>
    Collected input.policy catalog candidates
      (specSubjects input proposals ++ front.map (customSubject input))) customsOk
        (by simpa using specs) ?_
  intro state front proposal _ after _ collected step
  unfold OperationCatalog.considerCustom at step
  dsimp only at step
  split at step
  · cases step
  · obtain ⟨candidate, resolves, inserted⟩ := bind_eq_ok_iff.mp step
    simpa using collected.insert resolves inserted

/-- With subjects that differ in their operation or their target, every subject
has its own candidate. -/
theorem collect_members {catalog : OperationCatalog} {input : PlannerInput}
    {proposals : Proposals} {candidates : Candidates}
    (selected : selectProposals input.policy.proposals = .ok proposals)
    (ok : catalog.collect input proposals = .ok candidates) :
    (∀ candidate ∈ candidates.values, ∃ subject ∈ considered input proposals,
        subject.resolveSpec input.policy catalog = .ok candidate) ∧
      ∀ subject ∈ considered input proposals, ∃ candidate ∈ candidates.values,
        subject.resolveSpec input.policy catalog = .ok candidate := by
  have collected := collect_collected ok
  constructor
  · intro candidate member
    obtain ⟨key, found⟩ := OrderedMap.mem_values.mp member
    exact (collected.resolved key candidate found).2
  · intro subject member
    obtain ⟨candidate, resolves, kept, found⟩ := collected.kept subject member
    obtain ⟨key, other, member', resolves'⟩ := collected.resolved _ _ found
    obtain ⟨own, -⟩ := Subject.identity_of_resolveSpec resolves
    obtain ⟨own', -⟩ := Subject.identity_of_resolveSpec resolves'
    rw [own', own] at key
    simp only [CandidateKey.mk.injEq] at key
    obtain rfl := considered_eq selected member' member key.2.1 key.2.2.1
    exact ⟨kept, OrderedMap.mem_values.mpr ⟨_, found⟩, resolves'⟩

/-! ## Completing -/

/-- An item completes a candidate: it is the item of the candidate, with the
planned mutation when the candidate carries a draft. -/
inductive Completes (candidate : Candidate) : PlanItem → Prop
  | unplanned : Completes candidate candidate.item
  | planned {draft : MutationDraft} {mutation : PlannedMutation} {mutationId : MutationId}
      {dependencies : List MutationId} (drafted : candidate.mutation = some draft)
      (made : PlannedMutation.new mutationId draft.capability draft.target draft.kind draft.desired
        draft.precondition draft.equality dependencies = .ok mutation) :
      Completes candidate { candidate.item with
        dependencies := mutation.dependencies
        mutation := some mutation
        targetIdentity := some draft.targetIdentity }

namespace Completes

variable {candidate : Candidate} {item : PlanItem}

/-! Completing an item leaves its decision as it is. -/

theorem capability (completes : Completes candidate item) :
    item.capability = candidate.item.capability := by
  cases completes <;> rfl

theorem target (completes : Completes candidate item) :
    item.target = candidate.item.target := by
  cases completes <;> rfl

theorem operation (completes : Completes candidate item) :
    item.operation = candidate.item.operation := by
  cases completes <;> rfl

theorem action (completes : Completes candidate item) :
    item.action = candidate.item.action := by
  cases completes <;> rfl

theorem control (completes : Completes candidate item) :
    item.control = candidate.item.control := by
  cases completes <;> rfl

theorem featureClass (completes : Completes candidate item) :
    item.featureClass = candidate.item.featureClass := by
  cases completes <;> rfl

theorem desired (completes : Completes candidate item) :
    item.desired = candidate.item.desired := by
  cases completes <;> rfl

end Completes

/-- An entry that stands for a candidate at its index. -/
def Indexed.StandsIn (entry : Indexed) (candidates : List Candidate) : Prop :=
  candidates[entry.index]? = some entry.candidate ∧ entry.candidate.mutation = some entry.draft

theorem standsIn_of_mem {candidates : List Candidate} {entry : Indexed}
    (member : entry ∈ mutationCandidates candidates) : entry.StandsIn candidates := by
  rw [mutationCandidates, mem_sortBy, List.mem_filterMap] at member
  obtain ⟨⟨candidate, index⟩, present, drafted⟩ := member
  obtain ⟨draft, has, rfl⟩ := Option.map_eq_some_iff.mp drafted
  exact ⟨by simpa using List.mem_zipIdx_iff_getElem?.mp present, has⟩

theorem linkAll_eq_ok {candidates : List Candidate} {linked : List Linked}
    (ok : linkAll candidates = .ok linked) {entry : Linked} (member : entry ∈ linked) :
    entry.toIndexed.StandsIn candidates ∧
      linkCandidate candidates entry.index entry.candidate = .ok entry.dependencies := by
  obtain ⟨indexed, present, made⟩ := exists_of_mapM_mem ok member
  obtain ⟨dependencies, linked, made⟩ := bind_eq_ok_iff.mp made
  cases made
  exact ⟨standsIn_of_mem present, linked⟩

/-- Whatever is scheduled was waiting. -/
theorem mem_of_schedule {rounds : Nat} {waiting : List Waiting} {entry : Linked}
    (scheduled : entry ∈ schedule rounds waiting) : ∃ other ∈ waiting, other.toLinked = entry := by
  induction rounds generalizing waiting with
  | zero => cases scheduled
  | succ rounds ih =>
      unfold schedule at scheduled
      split at scheduled
      · cases scheduled
      next ready popped =>
        rcases List.mem_cons.mp scheduled with rfl | later
        · exact ⟨ready, (List.mem_filter.mp (List.argmin_mem popped)).1, rfl⟩
        · obtain ⟨other, released, same⟩ := ih later
          obtain ⟨earlier, kept, rfl⟩ := List.mem_map.mp released
          refine ⟨earlier, (List.mem_filter.mp kept).1, ?_⟩
          rw [← same]
          split <;> rfl

theorem mem_of_topological {linked : List Linked} {entry : Linked}
    (ordered : entry ∈ topological linked) : entry ∈ linked := by
  obtain ⟨waiting, waits, rfl⟩ := mem_of_schedule ordered
  obtain ⟨other, present, rfl⟩ := List.mem_map.mp waits
  exact present

/-- The item that a candidate gets completes it. -/
theorem completes_completeItem {planned : List (Linked × PlannedMutation)}
    {candidates : List Candidate} {ordered : List Linked}
    (made : ∀ pair ∈ planned, pair.1.toIndexed.StandsIn candidates ∧
      planMutation ordered pair.1 = .ok pair.2)
    {candidate : Candidate} {index : Nat} (present : candidates[index]? = some candidate) :
    Completes candidate (completeItem planned candidate index).item := by
  unfold completeItem
  split
  · exact .unplanned
  next entry mutation found =>
    obtain ⟨⟨stands, drafted⟩, mutationOk⟩ := made _ (List.mem_of_find?_eq_some found)
    have own : entry.index = index := by simpa using List.find?_some found
    rw [own, present] at stands
    cases stands
    exact .planned drafted mutationOk

/-- What the items of a resolution are made of. -/
theorem finalizeCandidates_items {policy : PlannerPolicy} {candidates : Candidates}
    {resolution : PolicyResolution} (ok : finalizeCandidates policy candidates = .ok resolution) :
    (∀ item ∈ resolution.items, ∃ candidate ∈ candidates.values, Completes candidate item) ∧
      ∀ candidate ∈ candidates.values, ∃ item ∈ resolution.items, Completes candidate item := by
  obtain ⟨linked, links, ok⟩ := bind_eq_ok_iff.mp ok
  dsimp only at ok
  split at ok
  · cases ok
  obtain ⟨planned, plans, ok⟩ := bind_eq_ok_iff.mp ok
  cases ok
  have made : ∀ pair ∈ planned, pair.1.toIndexed.StandsIn candidates.values ∧
      planMutation (topological linked) pair.1 = .ok pair.2 := by
    intro pair member
    obtain ⟨entry, ordered, gives⟩ := exists_of_mapM_mem plans member
    obtain ⟨mutation, mutationOk, gives⟩ := bind_eq_ok_iff.mp gives
    cases gives
    exact ⟨(linkAll_eq_ok links (mem_of_topological ordered)).1, mutationOk⟩
  simp only [List.mem_map, mem_sortBy]
  constructor
  · rintro item ⟨completed, ⟨⟨candidate, index⟩, present, rfl⟩, rfl⟩
    have at' := List.mem_zipIdx_iff_getElem?.mp present
    exact ⟨candidate, List.mem_of_getElem? at', completes_completeItem made at'⟩
  · intro candidate present
    obtain ⟨index, at'⟩ := List.getElem?_of_mem present
    exact ⟨_, ⟨_, ⟨(candidate, index), List.mem_zipIdx_iff_getElem?.mpr at', rfl⟩, rfl⟩,
      completes_completeItem made at'⟩

/-! ## Building -/

/-- The subjects that the items of a plan decide, and the checks of the plan. -/
structure Composed (catalog : OperationCatalog) (input : PlannerInput) (proposals : Proposals)
    (plan : Plan) : Prop where
  selected : selectProposals input.policy.proposals = .ok proposals
  cataloged : catalog.validate = .ok ()
  validated : plan.validateComplete = .ok ()
  mutations : plan.mutations = Plan.sortMutations (plan.items.filterMap PlanItem.mutation)
  decided : ∀ item ∈ plan.items, ∃ subject ∈ considered input proposals, ∃ candidate,
    subject.resolveSpec input.policy catalog = .ok candidate ∧ Completes candidate item
  complete : ∀ subject ∈ considered input proposals, ∃ candidate,
    subject.resolveSpec input.policy catalog = .ok candidate ∧
      ∃ item ∈ plan.items, Completes candidate item

theorem composed_of_build {catalog : OperationCatalog} {input : PlannerInput} {plan : Plan}
    (ok : catalog.build input = .ok plan) : ∃ proposals, Composed catalog input proposals plan := by
  obtain ⟨resolution, resolved, ok⟩ := bind_eq_ok_iff.mp ok
  obtain ⟨⟨⟩, _, resolved⟩ := bind_eq_ok_iff.mp resolved
  obtain ⟨⟨⟩, cataloged, resolved⟩ := bind_eq_ok_iff.mp resolved
  obtain ⟨proposals, selected, resolved⟩ := bind_eq_ok_iff.mp resolved
  obtain ⟨candidates, collected, finalized⟩ := bind_eq_ok_iff.mp resolved
  obtain ⟨⟨⟩, validated, ok⟩ := bind_eq_ok_iff.mp ok
  cases ok
  obtain ⟨made, kept⟩ := finalizeCandidates_items finalized
  obtain ⟨resolved, members⟩ := collect_members selected collected
  refine ⟨proposals, selected, cataloged, validated, rfl, ?_, ?_⟩
  · intro item member
    obtain ⟨candidate, present, completes⟩ := made item member
    obtain ⟨subject, considered, resolves⟩ := resolved candidate present
    exact ⟨subject, considered, candidate, resolves, completes⟩
  · intro subject considered
    obtain ⟨candidate, present, resolves⟩ := members subject considered
    exact ⟨candidate, resolves, kept candidate present⟩

namespace Composed

variable {catalog : OperationCatalog} {input : PlannerInput} {proposals : Proposals} {plan : Plan}

/-- Every executable item was admitted. -/
theorem admitted (composed : Composed catalog input proposals plan) {item : PlanItem}
    (member : item ∈ plan.items) (action : item.action = .mutation) :
    ∃ subject ∈ considered input proposals, ∃ admission : Admission input.policy catalog subject,
      Completes admission.candidate item := by
  obtain ⟨subject, considered, candidate, resolves, completes⟩ := composed.decided item member
  obtain ⟨admission, rfl⟩ := Subject.resolveSpec_mutation_iff.mp
    ⟨resolves, completes.action.symm.trans action⟩
  exact ⟨subject, considered, admission, completes⟩

/-- Every admitted subject has an item. -/
theorem exists_item (composed : Composed catalog input proposals plan) {subject : Subject}
    (member : subject ∈ considered input proposals)
    (admission : Admission input.policy catalog subject) :
    ∃ item ∈ plan.items, Completes admission.candidate item := by
  obtain ⟨candidate, resolves, item, present, completes⟩ := composed.complete subject member
  have admitted := (Subject.resolveSpec_mutation_iff.mpr ⟨admission, rfl⟩).1
  rw [resolves] at admitted
  cases admitted
  exact ⟨item, present, completes⟩

/-- Every mutation of the plan is carried by an item. -/
theorem exists_carrier (composed : Composed catalog input proposals plan)
    {mutation : PlannedMutation} (member : mutation ∈ plan.mutations) :
    ∃ item ∈ plan.items, item.mutation = some mutation := by
  rw [composed.mutations, Plan.sortMutations, (List.perm_insertionSort _ _).mem_iff] at member
  exact List.mem_filterMap.mp member

end Composed

end Sysboost.Planner
