import Sysboost.Core.PlanOrder
import Sysboost.Planner.Checklist
import Sysboost.Planner.Grounds
import Sysboost.Planner.Linking

/-!
# Finalization is exact

Finalization succeeds exactly when every dependency resolves, no dependencies
form a cycle and every admitted operation is well formed.  It numbers the
mutations smallest-first, and the plan made of the items is then valid unless
an admitted one lacks evidence or two of them select one control.
-/

namespace Sysboost.Planner

open Sysboost.Core ByteCodec Ordered Results

/-- Every admitted operation passes its own check. -/
def WellFormed (candidates : List Candidate) : Prop :=
  ∀ candidate ∈ admitted candidates, ∀ draft, candidate.mutation = some draft →
    draft.kind.validate = .ok ()

/-- What a candidate becomes when the mutations of an order are numbered from
one on. -/
structure Numbered (order : List Candidate) (candidate : Candidate) (item : PlanItem) : Prop where
  completes : Completes candidate item
  planned : item.mutation.isSome = true ↔ candidate.item.action = .mutation
  number : ∀ mutation, item.mutation = some mutation → ∃ place, order[place]? = some candidate ∧
    mutation.mutationId.get.toNat = place + 1

/-- Two items execute a mutation of one control of one target. -/
def Conflicting (first second : PlanItem) : Prop :=
  first.action.isExecutable = true ∧ second.action.isExecutable = true ∧
    first.target = second.target ∧ first.control = second.control

instance (first second : PlanItem) : Decidable (Conflicting first second) :=
  inferInstanceAs (Decidable (_ ∧ _))

/-- The mutations of items in the order of a plan. -/
def plannedMutations (items : List PlanItem) : List PlannedMutation :=
  Plan.sortMutations (items.filterMap PlanItem.mutation)

/-! ## Mutations -/

theorem new_eq_ok {mutationId : MutationId} {capability : CapabilityId} {target : TargetId}
    {kind : MutationKind} {desired : TypedValue} {precondition : StateFingerprint}
    {equality : EqualityKind} {dependencies : List MutationId} (valid : kind.validate = .ok ())
    (represents : kind.typedValue = desired) (independent : mutationId ∉ dependencies) :
    PlannedMutation.new mutationId capability target kind desired precondition equality
      dependencies = .ok ⟨mutationId, capability, target, kind, desired, precondition, equality,
        dependencies, ⟨equality, .compareAndRestore⟩⟩ := by
  simp [PlannedMutation.new, valid, represents, independent, bind, Except.bind, pure, Except.pure]

theorem validate_of_new {mutationId : MutationId} {capability : CapabilityId} {target : TargetId}
    {kind : MutationKind} {desired : TypedValue} {precondition : StateFingerprint}
    {equality : EqualityKind} {dependencies : List MutationId} {mutation : PlannedMutation}
    (ok : PlannedMutation.new mutationId capability target kind desired precondition equality
      dependencies = .ok mutation) : kind.validate = .ok () := by
  obtain ⟨⟨⟩, valid, -⟩ := bind_eq_ok_iff.mp ok
  exact valid

/-- A default operation changes its control, where the control has one
operation. -/
theorem control_of_defaultKind {control : ControlId} {fact : CurrentStateFact}
    {desired : TypedValue} {kind : MutationKind}
    (chosen : defaultKind control fact desired = some kind)
    (single : control ≠ .schedulerWorkload ∧ control ≠ .cgroupUclamp) :
    (operationShape kind).1 = control := by
  unfold defaultKind at chosen
  split at chosen
  · cases chosen
  · split at chosen <;> cases chosen <;> first
      | rfl
      | exact absurd rfl single.1
      | exact absurd rfl single.2

/-- A family of which a profile wants something has one operation. -/
theorem operation_of_profileTarget {spec : FeatureSpec} (reviewed : spec ∈ featureSpecs)
    (wanted : spec.profileTarget ≠ .none) :
    (spec.control ≠ .schedulerWorkload ∧ spec.control ≠ .cgroupUclamp) ∧
      ∀ kind, (operationShape kind).1 = spec.control → spec.operation = kind.operationId := by
  have listed : ∀ spec ∈ featureSpecs, spec.profileTarget ≠ .none →
      (spec.control, spec.operation.asStr) ∈ [(.cpuGovernor, "cpu.governor"),
        (.cpuEnergyPreference, "cpu.energy_preference"), (.platformProfile, "platform.profile"),
        (.gpuPerformanceProfile, "gpu.performance.profile")] := by
    decide +kernel
  have pair := listed spec reviewed wanted
  simp only [List.mem_cons, List.not_mem_nil, or_false, Prod.mk.injEq] at pair
  constructor
  · rcases pair with ⟨control, -⟩ | ⟨control, -⟩ | ⟨control, -⟩ | ⟨control, -⟩
    all_goals simp [control]
  · intro kind changes
    apply TextId.asStr_injective
    rcases pair with ⟨control, text⟩ | ⟨control, text⟩ | ⟨control, text⟩ | ⟨control, text⟩
    all_goals
      rw [control] at changes
      rw [text]
      cases kind <;> first | rfl | cases changes

theorem profileTarget_of_profileDesired {profile : Profile} {spec : FeatureSpec}
    {fact : Option CurrentStateFact} {desired : PlanValue}
    (wanted : profileDesired profile spec fact = (some desired, none)) :
    spec.profileTarget ≠ .none := by
  intro nothing
  simp [profileDesired, nothing] at wanted

/-- An admitted operation is the one that was considered. -/
theorem Admission.operationId {catalog : OperationCatalog} {input : PlannerInput}
    {proposals : Proposals} {subject : Subject}
    (selected : selectProposals input.policy.proposals = .ok proposals)
    (listed : subject ∈ considered input proposals)
    (admission : Admission input.policy catalog subject) :
    subject.spec.operation = admission.kind.operationId := by
  have operation := admission.operation
  have grounded := (grounded_of_considered selected listed).proposed
  unfold Subject.kind at operation
  split at operation
  next proposal proposed =>
    rw [← Option.some.inj operation]
    rw [proposed, admission.targeted] at grounded
    have key := key_of_selection grounded.symm
    exact (congrArg CandidateKey.operation key).symm
  next unproposed =>
    have wanted := admission.wanted
    simp only [Subject.desired, unproposed] at wanted
    have target := profileTarget_of_profileDesired wanted
    cases origin_of_considered selected listed with
    | @reviewed spec order target' listed' =>
        obtain ⟨single, known⟩ := operation_of_profileTarget (List.mem_of_getElem? listed') target
        exact known _ (control_of_defaultKind operation single)
    | custom => cases unproposed

/-- The completed item of an admitted operation is valid when it has evidence. -/
theorem validate_planned_iff {catalog : OperationCatalog} {input : PlannerInput}
    {proposals : Proposals} {subject : Subject}
    (selected : selectProposals input.policy.proposals = .ok proposals)
    (listed : subject ∈ considered input proposals)
    (admission : Admission input.policy catalog subject) {mutationId : MutationId}
    {dependencies : List MutationId} {mutation : PlannedMutation}
    (made : PlannedMutation.new mutationId admission.draft.capability admission.draft.target
      admission.draft.kind admission.draft.desired admission.draft.precondition
      admission.draft.equality dependencies = .ok mutation) :
    ({ admission.candidate.item with
        dependencies := mutation.dependencies
        mutation := some mutation
        targetIdentity := some admission.draft.targetIdentity } : PlanItem).validate = .ok () ↔
      admission.candidate.item.evidence ≠ [] := by
  obtain ⟨rfl, -⟩ := PlannedMutation.eq_of_new made
  have operation := Admission.operationId selected listed admission
  have complete := admission.complete
  simp only [OperationContract.isComplete, Bool.and_eq_true] at complete
  obtain ⟨⟨⟨⟨snapshot, restore⟩, verification⟩, -⟩, -⟩ := complete
  have valid := admission.valid
  unfold OperationContract.validate at valid
  split at valid
  · cases valid
  next equalities =>
    simp only [Bool.or_eq_true, decide_eq_true_eq, not_or, not_not] at equalities
    obtain ⟨⟨snapshot', restore'⟩, verification'⟩ := equalities
    simp only [PlanItem.validate, Admission.candidate, Candidate.mutating, Admission.draft,
      PlanAction.isExecutable, snapshot, restore, verification, snapshot', restore',
      verification', operation]
    simp

/-! ## Orders -/

/-- The candidates in the order in which their mutations are scheduled. -/
def scheduled (linked : List Linked) : List Candidate :=
  (topological linked).map fun entry => entry.candidate

/-- Plan every scheduled mutation. -/
def planAll (linked : List Linked) : Except SysboostError (List (Linked × PlannedMutation)) :=
  (topological linked).mapM fun entry => do
    return (entry, ← planMutation (topological linked) entry)

/-- The candidates with the planned mutations in their items. -/
def completed (candidates : Candidates) (planned : List (Linked × PlannedMutation)) :
    List Candidate :=
  candidates.values.zipIdx.map fun (candidate, index) => completeItem planned candidate index

theorem finalizeCandidates_eq_ok_iff {policy : PlannerPolicy} {candidates : Candidates}
    {resolution : PolicyResolution} :
    finalizeCandidates policy candidates = .ok resolution ↔
      ∃ linked planned, linkAll candidates.values = .ok linked ∧
        (topological linked).length = linked.length ∧ planAll linked = .ok planned ∧
        resolution = ⟨policy.profile, (sortBy (fun candidate : Candidate =>
          (toLex (candidate.key, candidate.item.action.ctorIdx) : CandidateKey ×ₗ ℕ))
            (completed candidates planned)).map Candidate.item⟩ := by
  constructor
  · intro ok
    obtain ⟨linked, links, ok⟩ := bind_eq_ok_iff.mp ok
    obtain ⟨whole, ok⟩ := guard_eq_ok_iff.mp ok
    obtain ⟨planned, plans, ok⟩ := bind_eq_ok_iff.mp ok
    cases ok
    exact ⟨linked, planned, links, not_ne_iff.mp whole, plans, rfl⟩
  · rintro ⟨linked, planned, links, whole, plans, rfl⟩
    refine bind_eq_ok_iff.mpr ⟨linked, links, guard_eq_ok_iff.mpr ⟨not_ne_iff.mpr whole, ?_⟩⟩
    exact bind_eq_ok_iff.mpr ⟨planned, plans, rfl⟩

theorem completeItem_key (planned : List (Linked × PlannedMutation)) (candidate : Candidate)
    (index : Nat) : (completeItem planned candidate index).key = candidate.key := by
  unfold completeItem
  split <;> rfl

/-- The completed candidates are in the order of their keys already. -/
theorem sortBy_completed {catalog : OperationCatalog} {input : PlannerInput}
    {proposals : Proposals} {candidates : Candidates}
    (collected : catalog.collect input proposals = .ok candidates)
    (planned : List (Linked × PlannedMutation)) :
    sortBy (fun candidate : Candidate =>
      (toLex (candidate.key, candidate.item.action.ctorIdx) : CandidateKey ×ₗ ℕ))
        (completed candidates planned) = completed candidates planned := by
  apply sortBy_of_pairwise
  have sorted := values_sorted collected
  rw [← List.zipIdx_map_fst 0 candidates.values, List.pairwise_map] at sorted
  rw [completed, List.pairwise_map]
  refine sorted.imp fun {first second} less => (Prod.Lex.toLex_lt_toLex.mpr (.inl ?_)).le
  simp only [completeItem_key]
  exact less

/-- A scheduled mutation gets its place, counted from one, as its ID. -/
theorem assignedId_toNat {linked : List Linked} (few : linked.length < 2 ^ 32) {place : Nat}
    {entry : Linked} (at' : (topological linked)[place]? = some entry) :
    (assignedId (topological linked) entry.index).get.toNat = place + 1 := by
  have bound := (List.getElem?_eq_some_iff.mp at').1
  have inside := (topological_subperm linked).length_le
  rw [assignedId, findIdx_of_getElem? (topological_nodup linked) at', UInt32.toNat_ofNat',
    Nat.mod_eq_of_lt (by omega)]

section Finalizing

variable {catalog : OperationCatalog} {input : PlannerInput} {proposals : Proposals}
  {candidates : Candidates} (selected : selectProposals input.policy.proposals = .ok proposals)
  (collected : catalog.collect input proposals = .ok candidates)
  {linked : List Linked} (links : linkAll candidates.values = .ok linked)

include selected collected links

theorem scheduled_perm (whole : (topological linked).length = linked.length) :
    (scheduled linked).Perm (admitted candidates.values) := by
  rw [← map_candidate_linked selected collected links]
  exact ((topological_subperm linked).perm_of_length_le whole.ge).map _

theorem scheduled_nodup (whole : (topological linked).length = linked.length) :
    (scheduled linked).Nodup :=
  (scheduled_perm selected collected links whole).nodup_iff.mpr
    ((values_nodup collected).filter _)

/-- The schedule is smallest-first. -/
theorem scheduled_smallestFirst (whole : (topological linked).length = linked.length) :
    SmallestFirst Candidate.Requires Candidate.key (scheduled linked) := by
  have listed {entry : Linked} (member : entry ∈ topological linked) :=
    mem_of_topological member
  -- What a scheduled mutation requires of the others stands among its links.
  have depends {entry other : Linked} (member : entry ∈ topological linked)
      (member' : other ∈ topological linked) (requires : entry.candidate.Requires other.candidate) :
      other.index ∈ entry.dependencies := by
    obtain ⟨at', admits, -⟩ := linksOf selected collected links (listed member')
    exact (mem_dependencies_iff selected collected links (listed member)).mpr
      ⟨other.candidate, at', admits, requires⟩
  constructor
  · intro front item back split other member requires
    obtain ⟨entries, rest, split', rfl, split''⟩ := List.map_eq_append_iff.mp split
    obtain ⟨entry, later, rfl, rfl, rfl⟩ := List.map_eq_cons_iff.mp split''
    obtain ⟨entry', member', rfl⟩ := List.mem_map.mp member
    have here : entry ∈ topological linked := by simp [split']
    rcases mem_front_of_schedule (awaits_initial linked) split' _
        (depends here member' requires) with before | ⟨found, present, same⟩
    · cases before
    · refine List.mem_map.mpr ⟨found, present, ?_⟩
      have known : found ∈ topological linked := by simp [split', present]
      obtain ⟨at', -⟩ := linksOf selected collected links (listed known)
      obtain ⟨at'', -⟩ := linksOf selected collected links (listed member')
      rw [same, at''] at at'
      exact (Option.some.inj at').symm
  · intro front item back split other member free
    obtain ⟨entries, rest, split', rfl, split''⟩ := List.map_eq_append_iff.mp split
    obtain ⟨entry, later, rfl, rfl, rfl⟩ := List.map_eq_cons_iff.mp split''
    obtain ⟨entry', present, rfl⟩ := List.mem_map.mp member
    have here : entry' ∈ topological linked := by simp [split', present]
    have turns : entry.turn ≤ entry'.turn := by
      refine turn_le_of_schedule
        (networked_of_linkAll selected collected links).poised split' present ?_
      intro dependency needs
      obtain ⟨next, at', admits, requires⟩ :=
        (mem_dependencies_iff selected collected links (listed here)).mp needs
      have inside := (scheduled_perm selected collected links whole).mem_iff.mpr admits
      obtain ⟨found, known, rfl⟩ := List.mem_map.mp (free next inside requires)
      have known' : found ∈ topological linked := by simp [split', known]
      obtain ⟨at'', -⟩ := linksOf selected collected links (listed known')
      exact .inr (List.mem_map.mpr ⟨found, known, place_inj collected at'' at'⟩)
    refine lt_of_le_of_ne (Prod.Lex.monotone_fst _ _ turns) fun tied => ?_
    -- Candidates with one key are one candidate, which is scheduled once.
    have nodup := scheduled_nodup selected collected links whole
    rw [scheduled, split', List.map_append, List.map_cons] at nodup
    have apart := (List.nodup_cons.mp (List.nodup_append.mp nodup).2.1).1
    have same : entry.candidate = entry'.candidate := by
      by_contra differ
      have symmetric : Std.Symm fun first second : Candidate => first.key ≠ second.key :=
        ⟨fun _ _ => Ne.symm⟩
      have keys := (values_sorted collected).imp fun {first second} less => less.ne
      have entry_ : entry ∈ topological linked := by simp [split']
      obtain ⟨at', -⟩ := linksOf selected collected links (listed entry_)
      obtain ⟨at'', -⟩ := linksOf selected collected links (listed here)
      exact keys.forall (List.mem_of_getElem? at') (List.mem_of_getElem? at'') differ tied
    exact apart (List.mem_map.mpr ⟨entry', present, same.symm⟩)

/-- The draft of a linked mutation is that of an admitted one. -/
theorem draft_of_linked {entry : Linked} (member : entry ∈ linked) :
    ∃ subject ∈ considered input proposals, ∃ admission : Admission input.policy catalog subject,
      entry.candidate = admission.candidate ∧ entry.draft = admission.draft := by
  obtain ⟨-, drafted⟩ := (linkAll_eq_ok links member).1
  obtain ⟨-, admits, -⟩ := linksOf selected collected links member
  obtain ⟨subject, listed, admission, same⟩ := admission_of_admitted selected collected admits
  rw [same] at drafted
  exact ⟨subject, listed, admission, same, (Option.some.inj drafted).symm⟩

/-- A scheduled mutation depends on scheduled ones with smaller numbers. -/
theorem exists_dependency_place (whole : (topological linked).length = linked.length)
    {entry : Linked} {place : Nat} (at' : (topological linked)[place]? = some entry)
    {dependency : Nat} (depends : dependency ∈ entry.dependencies) :
    ∃ earlier other, (topological linked)[earlier]? = some other ∧ other.index = dependency ∧
      earlier < place := by
  have member := List.mem_of_getElem? at'
  have perm := (topological_subperm linked).perm_of_length_le whole.ge
  have known := (networked_of_linkAll selected collected links).known entry
    (perm.mem_iff.mp member) dependency depends
  obtain ⟨other, present, rfl⟩ := List.mem_map.mp known
  obtain ⟨earlier, at''⟩ := List.mem_iff_getElem?.mp (perm.mem_iff.mpr present)
  have less := findIdx_dependency_lt member depends
  rw [findIdx_of_getElem? (topological_nodup linked) at',
    findIdx_of_getElem? (topological_nodup linked) at''] at less
  exact ⟨earlier, other, at'', rfl, less⟩

variable (few : linked.length < 2 ^ 32)

include few

/-- A scheduled mutation is planned when its operation is well formed. -/
theorem exists_planMutation_iff (whole : (topological linked).length = linked.length)
    {entry : Linked} (member : entry ∈ topological linked) :
    (∃ mutation, planMutation (topological linked) entry = .ok mutation) ↔
      entry.draft.kind.validate = .ok () := by
  constructor
  · rintro ⟨mutation, made⟩
    exact validate_of_new made
  · intro valid
    obtain ⟨subject, -, admission, -, same⟩ :=
      draft_of_linked selected collected links (mem_of_topological member)
    obtain ⟨place, at'⟩ := List.mem_iff_getElem?.mp member
    refine ⟨_, new_eq_ok valid (by rw [same]; exact admission.represents) fun own => ?_⟩
    obtain ⟨dependency, depends, again⟩ := List.mem_map.mp own
    obtain ⟨earlier, other, at'', rfl, less⟩ :=
      exists_dependency_place selected collected links whole at' depends
    have number := congrArg (fun id : MutationId => id.get.toNat) again
    simp only [assignedId_toNat few at', assignedId_toNat few at''] at number
    omega

section Numbering

variable (whole : (topological linked).length = linked.length)
  {planned : List (Linked × PlannedMutation)} (plans : planAll linked = .ok planned)

include whole plans

/-- Every candidate is completed with the number of its place in the schedule. -/
theorem numbered_completeItem {candidate : Candidate} {index : Nat}
    (at' : candidates.values[index]? = some candidate) :
    Numbered (scheduled linked) candidate (completeItem planned candidate index).item := by
  have present := List.mem_of_getElem? at'
  obtain ⟨subject, -, resolves⟩ := (collect_members selected collected).1 candidate present
  have fresh := (Subject.resolveSpec_shows resolves).unplanned
  have made : ∀ pair ∈ planned, pair.1 ∈ topological linked ∧
      planMutation (topological linked) pair.1 = .ok pair.2 := by
    intro pair member
    obtain ⟨entry, ordered, gives⟩ := exists_of_mapM_mem plans member
    obtain ⟨mutation, mutationOk, gives⟩ := bind_eq_ok_iff.mp gives
    cases gives
    exact ⟨ordered, mutationOk⟩
  constructor
  · exact completes_completeItem (fun pair member =>
      ⟨(linkAll_eq_ok links (mem_of_topological (made pair member).1)).1,
        (made pair member).2⟩) at'
  · constructor
    · intro carries
      unfold completeItem at carries
      split at carries
      · rw [fresh] at carries
        cases carries
      next entry mutation found =>
        have member := mem_of_topological (made _ (List.mem_of_find?_eq_some found)).1
        have own : entry.index = index := by simpa using List.find?_some found
        obtain ⟨at'', admits, -⟩ := linksOf selected collected links member
        rw [own, at'] at at''
        cases at''
        exact (mem_admitted.mp admits).2
    · intro action
      have admits := mem_admitted.mpr ⟨present, action⟩
      rw [← (scheduled_perm selected collected links whole).mem_iff] at admits
      obtain ⟨entry, ordered, rfl⟩ := List.mem_map.mp admits
      obtain ⟨at'', -⟩ := linksOf selected collected links (mem_of_topological ordered)
      obtain rfl := place_inj collected at' at''
      obtain ⟨mutation, -, carries⟩ :=
        completeItem_mutation (topological_nodup linked) plans ordered entry.candidate
      rw [carries]
      rfl
  · intro mutation carries
    unfold completeItem at carries
    split at carries
    · rw [fresh] at carries
      cases carries
    next entry mutation' found =>
      cases carries
      obtain ⟨ordered, gives⟩ := made _ (List.mem_of_find?_eq_some found)
      have own : entry.index = index := by simpa using List.find?_some found
      obtain ⟨at'', -⟩ := linksOf selected collected links (mem_of_topological ordered)
      rw [own, at'] at at''
      cases at''
      obtain ⟨place, at''⟩ := List.mem_iff_getElem?.mp ordered
      refine ⟨place, by rw [scheduled, List.getElem?_map, at'']; rfl, ?_⟩
      have gives : planMutation (topological linked) entry = .ok mutation := gives
      rw [(PlannedMutation.eq_of_new gives).1]
      exact assignedId_toNat few at''

omit selected collected links whole in
/-- The mutation planned at a place has the number of the place. -/
theorem getElem?_planned {place : Nat} {mutation : PlannedMutation}
    (at' : (planned.map Prod.snd)[place]? = some mutation) :
    ∃ entry, (topological linked)[place]? = some entry ∧
      planMutation (topological linked) entry = .ok mutation ∧
      mutation.mutationId.get.toNat = place + 1 := by
  have bound := (List.getElem?_eq_some_iff.mp at').1
  rw [List.length_map, length_mapM plans] at bound
  have there := List.getElem?_eq_getElem bound
  obtain ⟨pair, at'', made⟩ := getElem?_mapM plans there
  obtain ⟨mutation', gives, made⟩ := bind_eq_ok_iff.mp made
  cases made
  rw [List.getElem?_map, at''] at at'
  cases at'
  refine ⟨_, there, gives, ?_⟩
  rw [(PlannedMutation.eq_of_new gives).1]
  exact assignedId_toNat few there

omit selected collected links whole in
theorem planned_ids :
    (planned.map Prod.snd).map (fun mutation => mutation.mutationId.get.toNat) =
      List.range' 1 (scheduled linked).length := by
  apply List.ext_getElem?
  intro place
  have length : planned.length = (topological linked).length := length_mapM plans
  by_cases bound : place < planned.length
  · have inside : place < (planned.map Prod.snd).length := by simpa using bound
    have at' := List.getElem?_eq_getElem inside
    obtain ⟨_, -, -, number⟩ := getElem?_planned few plans at'
    rw [List.getElem?_map, at', List.getElem?_range' (by simpa [scheduled, ← length] using bound)]
    simp only [Option.map_some, number]
    congr 1
    omega
  · rw [List.getElem?_eq_none (by simpa using bound), List.getElem?_eq_none]
    simpa [scheduled, ← length] using bound

omit selected collected links whole in
theorem planned_increasing : (planned.map Prod.snd).Pairwise fun first second =>
    first.mutationId.get.toNat < second.mutationId.get.toNat := by
  rw [← List.pairwise_map, planned_ids few plans]
  exact List.pairwise_lt_range'

/-- The items carry the planned mutations, each once. -/
theorem filterMap_completed_perm :
    (((completed candidates planned).map Candidate.item).filterMap PlanItem.mutation).Perm
      (planned.map Prod.snd) := by
  have increasing := planned_increasing few plans
  have numbers : ((planned.map Prod.snd).map fun mutation => mutation.mutationId.get.toNat).Nodup :=
    List.pairwise_map.mpr (increasing.imp fun less => less.ne)
  have numbered {candidate : Candidate} {index : Nat}
      (member : (candidate, index) ∈ candidates.values.zipIdx) :=
    numbered_completeItem selected collected links few whole plans
      (List.mem_zipIdx_iff_getElem?.mp member)
  rw [completed, List.map_map, List.filterMap_map]
  refine (List.perm_ext_iff_of_nodup ?_ numbers.of_map).mpr fun mutation => ?_
  · have sorted := values_sorted collected
    rw [← List.zipIdx_map_fst 0 candidates.values, List.pairwise_map] at sorted
    rw [List.Nodup, List.pairwise_filterMap]
    refine sorted.imp_of_mem ?_
    rintro ⟨candidate, index⟩ ⟨candidate', index'⟩ member member' less mutation carries _ carries'
      rfl
    obtain ⟨place, at', number⟩ := (numbered member).number mutation carries
    obtain ⟨place', at'', number'⟩ := (numbered member').number mutation carries'
    obtain rfl : place = place' := by omega
    cases at'.symm.trans at''
    exact lt_irrefl _ less
  · rw [List.mem_filterMap]
    have inside {candidate : Candidate} {index : Nat} {mutation : PlannedMutation}
        (member : (candidate, index) ∈ candidates.values.zipIdx)
        (carries : (completeItem planned candidate index).item.mutation = some mutation) :
        mutation ∈ planned.map Prod.snd := by
      obtain ⟨subject, -, resolves⟩ := (collect_members selected collected).1 candidate
        (List.mem_of_getElem? (List.mem_zipIdx_iff_getElem?.mp member))
      unfold completeItem at carries
      split at carries
      · rw [(Subject.resolveSpec_shows resolves).unplanned] at carries
        cases carries
      next entry mutation' found =>
        cases carries
        exact List.mem_map.mpr ⟨_, List.mem_of_find?_eq_some found, rfl⟩
    constructor
    · rintro ⟨⟨candidate, index⟩, member, carries⟩
      exact inside member carries
    · intro member
      obtain ⟨place, at'⟩ := List.mem_iff_getElem?.mp member
      obtain ⟨entry, there, gives, -⟩ := getElem?_planned few plans at'
      have ordered := List.mem_of_getElem? there
      obtain ⟨at'', -⟩ := linksOf selected collected links (mem_of_topological ordered)
      have listed : (entry.candidate, entry.index) ∈ candidates.values.zipIdx :=
        List.mem_zipIdx_iff_getElem?.mpr at''
      obtain ⟨mutation', id, carries⟩ :=
        completeItem_mutation (topological_nodup linked) plans ordered entry.candidate
      -- Mutations with one number are one mutation.
      have same : mutation' = mutation := by
        refine List.inj_on_of_nodup_map numbers (inside listed carries) member ?_
        rw [id, (PlannedMutation.eq_of_new gives).1]
      exact ⟨_, listed, same ▸ carries⟩

/-- The mutations of the items are the planned ones in the order of their
numbers. -/
theorem plannedMutations_completed :
    plannedMutations ((completed candidates planned).map Candidate.item) =
      planned.map Prod.snd := by
  have increasing := planned_increasing few plans
  have perm := filterMap_completed_perm selected collected links few whole plans
  have total : Std.Total fun first second : PlannedMutation =>
      first.mutationId.get ≤ second.mutationId.get :=
    ⟨fun first second => UInt32.le_total first.mutationId.get second.mutationId.get⟩
  have transitive : IsTrans PlannedMutation fun first second =>
      first.mutationId.get ≤ second.mutationId.get := ⟨fun _ _ _ => UInt32.le_trans⟩
  have sorted := (List.perm_insertionSort (fun first second : PlannedMutation =>
    first.mutationId.get ≤ second.mutationId.get) _).trans perm
  refine sorted.eq_of_pairwise ?_ (List.pairwise_insertionSort _ _)
    (increasing.imp fun less => UInt32.le_iff_toNat_le.mpr less.le)
  intro first second member member' le ge
  have numbers : ((planned.map Prod.snd).map fun mutation => mutation.mutationId.get.toNat).Nodup :=
    List.pairwise_map.mpr (increasing.imp fun less => less.ne)
  refine List.inj_on_of_nodup_map numbers (sorted.mem_iff.mp member) member' ?_
  exact congrArg UInt32.toNat (UInt32.le_antisymm le ge)

/-- The planned mutations are in dependency order. -/
theorem ordered_of_planned {plan : Plan} (mutations : plan.mutations = planned.map Prod.snd) :
    plan.Ordered := by
  have increasing := planned_increasing few plans
  have made {place : Nat} {mutation : PlannedMutation}
      (at' : plan.mutations[place]? = some mutation) :=
    getElem?_planned few plans (mutations ▸ at')
  have dependencies {entry : Linked} {mutation : PlannedMutation}
      (gives : planMutation (topological linked) entry = .ok mutation) :
      mutation.dependencies = entry.dependencies.map (assignedId (topological linked)) := by
    rw [(PlannedMutation.eq_of_new gives).1]
  -- A dependency is the number of an earlier place.
  have earlier {place : Nat} {entry : Linked} (at' : (topological linked)[place]? = some entry)
      {dependency : MutationId}
      (depends : dependency ∈ entry.dependencies.map (assignedId (topological linked))) :
      ∃ before < place, dependency.get.toNat = before + 1 := by
    obtain ⟨index, needs, rfl⟩ := List.mem_map.mp depends
    obtain ⟨before, other, at'', rfl, less⟩ :=
      exists_dependency_place selected collected links whole at' needs
    exact ⟨before, less, assignedId_toNat few at''⟩
  have distinct : (plan.mutations.map PlannedMutation.mutationId).Nodup := by
    rw [mutations, List.Nodup, List.pairwise_map]
    exact increasing.imp fun less same => less.ne (by rw [same])
  constructor
  · exact distinct
  · intro mutation member
    obtain ⟨place, at'⟩ := List.mem_iff_getElem?.mp member
    obtain ⟨entry, there, gives, -⟩ := made at'
    have listed := mem_of_topological (List.mem_of_getElem? there)
    rw [dependencies gives]
    refine (dependencies_nodup selected collected links listed).map_on ?_
    intro index needs index' needs' same
    obtain ⟨before, other, at', rfl, -⟩ :=
      exists_dependency_place selected collected links whole there needs
    obtain ⟨before', other', at'', rfl, -⟩ :=
      exists_dependency_place selected collected links whole there needs'
    have numbers := congrArg (fun id : MutationId => id.get.toNat) same
    simp only [assignedId_toNat few at', assignedId_toNat few at''] at numbers
    obtain rfl : before = before' := by omega
    cases at'.symm.trans at''
    rfl
  · intro mutation member dependency depends
    obtain ⟨place, at'⟩ := List.mem_iff_getElem?.mp member
    obtain ⟨entry, there, gives, -⟩ := made at'
    obtain ⟨before, less, number⟩ := earlier there (dependencies gives ▸ depends)
    have bound := (List.getElem?_eq_some_iff.mp at').1
    have at'' := List.getElem?_eq_getElem (less.trans bound)
    obtain ⟨-, -, -, number'⟩ := made at''
    refine ⟨_, List.mem_of_getElem? at'', ?_⟩
    have ids := UInt32.toNat_inj.mp (number'.trans number.symm)
    rw [← MutationId.mk.injEq] at ids
    exact ids
  · rintro place mutation at' dependency depends place' other at'' rfl
    obtain ⟨entry, there, gives, -⟩ := made at'
    obtain ⟨before, less, number⟩ := earlier there (dependencies gives ▸ depends)
    obtain ⟨-, -, -, number'⟩ := made at''
    omega

end Numbering

omit links few

/-- Finalization succeeds exactly when every dependency resolves, there is no
cycle and every admitted operation is well formed. -/
theorem exists_finalize_iff (few : (admitted candidates.values).length < 2 ^ 32) :
    (∃ resolution, finalizeCandidates input.policy candidates = .ok resolution) ↔
      Resolves candidates.values ∧ Acyclic (Needs candidates.values) ∧
        WellFormed candidates.values := by
  have length {linked : List Linked} (links : linkAll candidates.values = .ok linked) :
      linked.length < 2 ^ 32 := by
    rwa [← map_candidate_linked selected collected links, List.length_map] at few
  constructor
  · rintro ⟨resolution, ok⟩
    obtain ⟨linked, planned, links, whole, plans, -⟩ := finalizeCandidates_eq_ok_iff.mp ok
    have networked := networked_of_linkAll selected collected links
    refine ⟨(exists_linkAll_iff selected collected).mp ⟨linked, links⟩,
      (acyclic_edge_iff selected collected links).mp (networked.length_topological_iff.mp whole),
      fun candidate member draft drafted => ?_⟩
    rw [← (scheduled_perm selected collected links whole).mem_iff] at member
    obtain ⟨entry, ordered, rfl⟩ := List.mem_map.mp member
    obtain ⟨-, drafted'⟩ := (linkAll_eq_ok links (mem_of_topological ordered)).1
    cases drafted.symm.trans drafted'
    obtain ⟨pair, -, made⟩ := exists_mapM_of_mem plans ordered
    obtain ⟨mutation, made, -⟩ := bind_eq_ok_iff.mp made
    exact (exists_planMutation_iff selected collected links (length links) whole ordered).mp
      ⟨mutation, made⟩
  · rintro ⟨resolves, acyclic, wellFormed⟩
    obtain ⟨linked, links⟩ := (exists_linkAll_iff selected collected).mpr resolves
    have networked := networked_of_linkAll selected collected links
    have whole := networked.length_topological_iff.mpr
      ((acyclic_edge_iff selected collected links).mpr acyclic)
    obtain ⟨planned, plans⟩ : ∃ planned, planAll linked = .ok planned := by
      refine exists_mapM fun entry ordered => ?_
      have member := mem_of_topological ordered
      obtain ⟨-, drafted⟩ := (linkAll_eq_ok links member).1
      obtain ⟨-, admits, -⟩ := linksOf selected collected links member
      obtain ⟨mutation, made⟩ :=
        (exists_planMutation_iff selected collected links (length links) whole ordered).mpr
          (wellFormed _ admits _ drafted)
      exact ⟨(entry, mutation), bind_eq_ok_iff.mpr ⟨mutation, made, rfl⟩⟩
    exact ⟨_, finalizeCandidates_eq_ok_iff.mpr ⟨linked, planned, links, whole, plans, rfl⟩⟩

/-! ## Items -/

/-- An item of a numbered candidate is valid unless it lacks evidence. -/
theorem validate_numbered_iff {order : List Candidate} {candidate : Candidate} {item : PlanItem}
    (member : candidate ∈ candidates.values) (numbered : Numbered order candidate item) :
    item.validate = .ok () ↔ (item.action.isExecutable = true → item.evidence ≠ []) := by
  obtain ⟨subject, listed, resolves⟩ := (collect_members selected collected).1 candidate member
  have planned := numbered.planned
  by_cases action : candidate.item.action = .mutation
  · obtain ⟨admission, rfl⟩ := Subject.resolveSpec_mutation_iff.mp ⟨resolves, action⟩
    cases numbered.completes with
    | unplanned =>
        rw [(Subject.resolveSpec_shows resolves).unplanned] at planned
        exact absurd (planned.mpr action) (by simp)
    | planned drafted made =>
        cases drafted
        rw [validate_planned_iff selected listed admission made]
        exact ⟨fun evidence _ => evidence, fun evidence => evidence rfl⟩
  · have carried : item.mutation.isSome = false := by
      rw [← Bool.not_eq_true, planned]
      exact action
    have idle : item.action.isExecutable = false := by
      rw [← Bool.not_eq_true, isExecutable_iff, numbered.completes.action]
      exact action
    simp [PlanItem.validate, idle, carried]

/-- Executable items have a target. -/
theorem target_of_numbered {order : List Candidate} {candidate : Candidate} {item : PlanItem}
    (member : candidate ∈ candidates.values) (numbered : Numbered order candidate item)
    (executable : item.action.isExecutable = true) : item.target.isSome = true := by
  rw [isExecutable_iff, numbered.completes.action] at executable
  obtain ⟨subject, -, admission, rfl⟩ :=
    admission_of_admitted selected collected (mem_admitted.mpr ⟨member, executable⟩)
  rw [numbered.completes.target]
  rfl

omit selected collected in
theorem exists_fromItems_iff {id : PlanId} {planDigest policyDigest capabilityDigest : Block 32}
    {profile : Profile} {items : List PlanItem}
    (ordered : ∀ plan : Plan, plan.mutations = plannedMutations items → plan.Ordered) :
    (∃ plan, Plan.fromItems id planDigest policyDigest capabilityDigest profile items =
        .ok plan) ↔
      (∀ item ∈ items, item.validate = .ok ()) ∧
        items.Pairwise fun previous item => Plan.conflicts previous item = false := by
  let plan : Plan := {
    id, planDigest, policyDigest, capabilityDigest, items
    mutations := plannedMutations items
    profile := some profile }
  have accepted : (∃ plan, Plan.fromItems id planDigest policyDigest capabilityDigest profile
      items = .ok plan) ↔ plan.validate = .ok () := by
    have complete : plan.validateComplete = plan.validate := by
      rw [Plan.validateComplete, if_neg]
      cases items with
      | nil => simp [plan, plannedMutations, Plan.sortMutations]
      | cons => simp [plan]
    rw [← complete]
    constructor
    · rintro ⟨made, ok⟩
      obtain ⟨⟨⟩, valid, -⟩ := bind_eq_ok_iff.mp ok
      exact valid
    · intro valid
      exact ⟨plan, bind_eq_ok_iff.mpr ⟨(), valid, rfl⟩⟩
  rw [accepted]
  constructor
  · intro valid
    cases items with
    | nil => simp
    | cons first items =>
        obtain ⟨each, -, free⟩ := Plan.validateItems_eq_ok_iff.mp
          ((Plan.validate_eq_ok_iff.mp valid).1 (by simp [plan]))
        exact ⟨each, free⟩
  · rintro ⟨each, free⟩
    refine Plan.validate_of_ordered (fun _ => ?_) (ordered plan rfl)
    exact Plan.validateItems_eq_ok_iff.mpr ⟨each, rfl, free⟩

end Finalizing

/-! ## Exactness -/

/-- Finalization of fewer than `2 ^ 32` admitted mutations succeeds exactly when
their dependencies resolve without a cycle and their operations are well formed.
It keeps the order of the keys, numbers the mutations from one on, always the
smallest ready one next, and its items make a plan exactly when every executable
one has evidence and no two conflict. -/
theorem finalizeCandidates_exact {catalog : OperationCatalog} {input : PlannerInput}
    {proposals : Proposals} {candidates : Candidates}
    (selected : selectProposals input.policy.proposals = .ok proposals)
    (collected : catalog.collect input proposals = .ok candidates)
    (few : (admitted candidates.values).length < 2 ^ 32) :
    ((∃ resolution, finalizeCandidates input.policy candidates = .ok resolution) ↔
      Resolves candidates.values ∧ Acyclic (Needs candidates.values) ∧
        WellFormed candidates.values) ∧
    ∀ resolution, finalizeCandidates input.policy candidates = .ok resolution →
      (candidates.values.Pairwise fun first second => first.key < second.key) ∧
      (∃ order, order.Perm (admitted candidates.values) ∧
        SmallestFirst Candidate.Requires Candidate.key order ∧
        List.Forall₂ (Numbered order) candidates.values resolution.items ∧
        (plannedMutations resolution.items).map (fun mutation => mutation.mutationId.get.toNat) =
          List.range' 1 order.length) ∧
      ∀ id planDigest policyDigest capabilityDigest,
        (∃ plan, Plan.fromItems id planDigest policyDigest capabilityDigest resolution.profile
          resolution.items = .ok plan) ↔
        (∀ item ∈ resolution.items, item.action.isExecutable = true → item.evidence ≠ []) ∧
          resolution.items.Pairwise fun first second => ¬Conflicting first second := by
  refine ⟨exists_finalize_iff selected collected few, fun resolution ok => ?_⟩
  obtain ⟨linked, planned, links, whole, plans, rfl⟩ := finalizeCandidates_eq_ok_iff.mp ok
  rw [← map_candidate_linked selected collected links, List.length_map] at few
  rw [sortBy_completed collected]
  have numbered : List.Forall₂ (Numbered (scheduled linked)) candidates.values
      ((completed candidates planned).map Candidate.item) := by
    rw [completed, List.map_map, List.forall₂_map_right_iff]
    conv => arg 2; rw [← List.zipIdx_map_fst 0 candidates.values]
    rw [List.forall₂_map_left_iff, List.forall₂_same]
    exact fun pair member => numbered_completeItem selected collected links few whole plans
      (List.mem_zipIdx_iff_getElem?.mp member)
  have origin {item : PlanItem} (member : item ∈ (completed candidates planned).map
      Candidate.item) : ∃ candidate ∈ candidates.values,
        Numbered (scheduled linked) candidate item := by
    rw [completed, List.map_map] at member
    obtain ⟨⟨candidate, index⟩, present, rfl⟩ := List.mem_map.mp member
    have at' := List.mem_zipIdx_iff_getElem?.mp present
    exact ⟨candidate, List.mem_of_getElem? at',
      numbered_completeItem selected collected links few whole plans at'⟩
  refine ⟨values_sorted collected, ⟨scheduled linked, scheduled_perm selected collected links whole,
    scheduled_smallestFirst selected collected links whole, numbered, ?_⟩, ?_⟩
  · rw [plannedMutations_completed selected collected links few whole plans,
      planned_ids few plans]
  · intro id planDigest policyDigest capabilityDigest
    rw [exists_fromItems_iff fun plan mutations =>
      ordered_of_planned selected collected links few whole plans (mutations.trans
        (plannedMutations_completed selected collected links few whole plans))]
    have valid : ∀ item ∈ (completed candidates planned).map Candidate.item,
        (item.validate = .ok () ↔ (item.action.isExecutable = true → item.evidence ≠ [])) := by
      intro item member
      obtain ⟨candidate, present, numbered⟩ := origin member
      exact validate_numbered_iff selected collected present numbered
    have apart : ∀ first ∈ (completed candidates planned).map Candidate.item,
        ∀ second ∈ (completed candidates planned).map Candidate.item,
          (Plan.conflicts first second = false ↔ ¬Conflicting first second) := by
      intro first _ second member
      obtain ⟨candidate, present, numbered⟩ := origin member
      rw [← Bool.not_eq_true, not_iff_not]
      have targeted := target_of_numbered selected collected present numbered
      simp only [Plan.conflicts, Conflicting, Bool.and_eq_true, beq_iff_eq]
      tauto
    constructor
    · rintro ⟨each, free⟩
      exact ⟨fun item member => (valid item member).mp (each item member),
        free.imp_of_mem fun member member' => (apart _ member _ member').mp⟩
    · rintro ⟨each, free⟩
      exact ⟨fun item member => (valid item member).mpr (each item member),
        free.imp_of_mem fun member member' => (apart _ member _ member').mpr⟩

theorem finalizeCandidates_exact_cpu : ∃ candidates,
    Fixtures.cpuCatalog.collect (Fixtures.cpuInput .performance) .empty = .ok candidates ∧
      (admitted candidates.values).length = 2 ∧
      ((∃ resolution, finalizeCandidates (Fixtures.cpuInput .performance).policy candidates =
          .ok resolution) ↔
        Resolves candidates.values ∧ Acyclic (Needs candidates.values) ∧
          WellFormed candidates.values) := by
  have collects : ((Fixtures.cpuCatalog.collect (Fixtures.cpuInput .performance)
      .empty).toOption.any fun candidates =>
        decide ((admitted candidates.values).length = 2)) = true := by
    decide +kernel
  obtain ⟨candidates, collected, two⟩ := exists_ok_of_any collects
  have two := of_decide_eq_true two
  exact ⟨candidates, collected, two,
    (finalizeCandidates_exact rfl collected (by rw [two]; decide)).1⟩

namespace Fixtures

/-- What was detected of the CPU policy is evidenced by nothing. -/
def bareInput : PlannerInput :=
  { cpuInput .performance with
    inventory := ⟨.fromUnixMillis 10, [{ governorDescriptor with evidence := [] },
      { preferenceDescriptor with evidence := [] }]⟩ }

/-- A frequency request that selects neither end of the range. -/
def emptyFrequencyInput : PlannerInput :=
  frequencyInput lowest highest none none

end Fixtures

/-- A request that selects no end of a frequency range fails finalization though
it has no dependencies, and items without evidence make no plan though no two
of them conflict. -/
theorem finalizeCandidates_refuses :
    (∃ proposals candidates,
      selectProposals Fixtures.emptyFrequencyInput.policy.proposals = .ok proposals ∧
      Fixtures.frequencyCatalog.collect Fixtures.emptyFrequencyInput proposals = .ok candidates ∧
      Resolves candidates.values ∧ Acyclic (Needs candidates.values) ∧
      ∀ resolution, finalizeCandidates Fixtures.emptyFrequencyInput.policy candidates ≠
        .ok resolution) ∧
    ∃ candidates resolution,
      Fixtures.cpuCatalog.collect Fixtures.bareInput .empty = .ok candidates ∧
      finalizeCandidates Fixtures.bareInput.policy candidates = .ok resolution ∧
      (resolution.items.Pairwise fun first second => ¬Conflicting first second) ∧
      ∀ id planDigest policyDigest capabilityDigest plan, Plan.fromItems id planDigest policyDigest
        capabilityDigest resolution.profile resolution.items ≠ .ok plan := by
  constructor
  · have fails : ((selectProposals Fixtures.emptyFrequencyInput.policy.proposals).toOption.any
        fun proposals => (Fixtures.frequencyCatalog.collect Fixtures.emptyFrequencyInput
          proposals).toOption.any fun candidates =>
            (admitted candidates.values).all (fun candidate => candidate.dependencies.isEmpty) &&
              (finalizeCandidates Fixtures.emptyFrequencyInput.policy
                candidates).toOption.isNone) = true := by
      decide +kernel
    obtain ⟨proposals, selected, fails⟩ := exists_ok_of_any fails
    obtain ⟨candidates, collected, fails⟩ := exists_ok_of_any fails
    rw [Bool.and_eq_true, List.all_eq_true] at fails
    have independent : ∀ candidate ∈ admitted candidates.values, candidate.dependencies = [] :=
      fun candidate member => List.isEmpty_iff.mp (fails.1 candidate member)
    refine ⟨proposals, candidates, selected, collected, ?_, ?_, fun resolution ok => ?_⟩
    · intro candidate member dependency depends
      rw [independent candidate member] at depends
      cases depends
    · refine .of_rank (fun _ => 0) fun candidate other needs => ?_
      have depends := needs.2.2.2
      rw [independent candidate needs.1] at depends
      cases depends
    · rw [ok] at fails
      cases fails.2
  · have bare : ((Fixtures.cpuCatalog.collect Fixtures.bareInput .empty).toOption.any
        fun candidates => (finalizeCandidates Fixtures.bareInput.policy candidates).toOption.any
          fun resolution =>
            decide (resolution.items.Pairwise fun first second => ¬Conflicting first second) &&
              resolution.items.any fun item =>
                item.action.isExecutable && item.evidence.isEmpty) = true := by
      decide +kernel
    obtain ⟨candidates, collected, bare⟩ := exists_ok_of_any bare
    obtain ⟨resolution, finalized, bare⟩ := exists_ok_of_any bare
    rw [Bool.and_eq_true, decide_eq_true_eq] at bare
    obtain ⟨apart, bare⟩ := bare
    refine ⟨candidates, resolution, collected, finalized, apart, ?_⟩
    intro id planDigest policyDigest capabilityDigest plan ok
    obtain ⟨item, member, lacks⟩ := List.any_eq_true.mp bare
    rw [Bool.and_eq_true, isExecutable_iff, List.isEmpty_iff] at lacks
    obtain ⟨⟨⟩, valid, -⟩ := bind_eq_ok_iff.mp ok
    exact (executable_of_validate (Plan.validate_of_validateComplete valid member)
      lacks.1).2 lacks.2

end Sysboost.Planner
