import Sysboost.Planner.Checklist
import Sysboost.Results.Errors

/-!
# Dependencies of admitted operations

The dependencies of an admitted operation are looked up among the decisions
about its target.  One that was not decided there, or was withheld, fails the
whole plan.
-/

namespace Sysboost.Planner

open Sysboost.Core Ordered Results

/-- The errors about a dependency. -/
def dependencyMessages : List String := [
  "planned operation depends on a missing executable operation",
  "planned operation depends on an operation that was not admitted"]

/-- A decision on which an admitted operation can depend. -/
def Subject.Satisfies (policy : PlannerPolicy) (catalog : OperationCatalog) (subject : Subject) :
    Prop :=
  ∃ candidate, subject.resolveSpec policy catalog = .ok candidate ∧
    (candidate.item.action = .mutation ∨ candidate.item.action = .noOp ∨
      candidate.item.action = .preserved)

/-- A dependency is decided at the target of the subject, and admitted, in place
or preserved there. -/
def Subject.DependencyMet (catalog : OperationCatalog) (input : PlannerInput)
    (proposals : Proposals) (subject : Subject) (dependency : OperationId) : Prop :=
  ∃ other ∈ considered input proposals, other.target = subject.target ∧
    other.spec.operation = dependency ∧ other.Satisfies input.policy catalog

/-- A valid contract does not depend on its own operation. -/
theorem Admission.dependency_ne {policy : PlannerPolicy} {catalog : OperationCatalog}
    {subject : Subject} (admission : Admission policy catalog subject) {dependency : OperationId}
    (depends : dependency ∈ admission.contract.dependencies) :
    subject.spec.operation ≠ dependency := by
  have found := List.find?_some admission.found
  simp only [Bool.and_eq_true, decide_eq_true_eq] at found
  have valid := admission.valid
  unfold OperationContract.validate at valid
  split at valid
  · cases valid
  · split at valid
    · cases valid
    next independent =>
      rintro rfl
      exact independent (found.2 ▸ depends)

section Linking

variable {catalog : OperationCatalog} {input : PlannerInput} {proposals : Proposals}
  {candidates : Candidates} (selected : selectProposals input.policy.proposals = .ok proposals)
  (collected : catalog.collect input proposals = .ok candidates)

/-- A candidate with a draft is an admitted one. -/
theorem admission_of_drafted {policy : PlannerPolicy} {subject : Subject} {candidate : Candidate}
    {draft : MutationDraft} (resolves : subject.resolveSpec policy catalog = .ok candidate)
    (drafted : candidate.mutation = some draft) :
    ∃ admission : Admission policy catalog subject, candidate = admission.candidate := by
  rcases Subject.resolveSpec_settles resolves with admitted | ⟨decision, -, rfl⟩
  · exact admitted
  · cases drafted

include selected collected

/-- The candidates that decide one operation at one target are one. -/
theorem candidate_eq {first second : Candidate} (member : first ∈ candidates.values)
    (member' : second ∈ candidates.values) (target : first.item.target = second.item.target)
    (operation : first.item.operation = second.item.operation) : first = second := by
  obtain ⟨resolved, -⟩ := collect_members selected collected
  obtain ⟨subject, present, resolves⟩ := resolved first member
  obtain ⟨other, present', resolves'⟩ := resolved second member'
  obtain ⟨-, -, target₁, operation₁⟩ := Subject.identity_of_resolveSpec resolves
  obtain ⟨-, -, target₂, operation₂⟩ := Subject.identity_of_resolveSpec resolves'
  obtain rfl := considered_eq selected present present' (by rw [← target₁, target, target₂])
    (by rw [← operation₁, operation, operation₂])
  rw [resolves] at resolves'
  exact Except.ok.inj resolves'

/-- A dependency of an admitted candidate is linked when it is met, and fails
the plan with a dependency error otherwise. -/
theorem linkDependency_cases {subject : Subject}
    (admission : Admission input.policy catalog subject) {index : Nat}
    (stands : candidates.values[index]? = some admission.candidate) {dependency : OperationId}
    (depends : dependency ∈ admission.contract.dependencies) :
    ((∃ link, linkDependency candidates.values index admission.candidate admission.target
          dependency = .ok link) ∧ subject.DependencyMet catalog input proposals dependency) ∨
      (∃ error, linkDependency candidates.values index admission.candidate admission.target
          dependency = .error error ∧ error.message ∈ dependencyMessages) ∧
        ¬subject.DependencyMet catalog input proposals dependency := by
  obtain ⟨resolved, kept⟩ := collect_members selected collected
  unfold linkDependency
  split
  next missing =>
    right
    refine ⟨⟨_, rfl, by simp [dependencyError, dependencyMessages]⟩, ?_⟩
    rintro ⟨other, present', target, operation, -⟩
    obtain ⟨candidate, member, resolves⟩ := kept other present'
    obtain ⟨-, -, target', operation'⟩ := Subject.identity_of_resolveSpec resolves
    obtain ⟨position, at'⟩ := List.getElem?_of_mem member
    refine List.find?_eq_none.mp missing (candidate, position)
      (List.mem_zipIdx_iff_getElem?.mpr at') ?_
    simp [target', operation', target, operation, admission.targeted]
  next candidate position found =>
    have about := List.find?_some found
    simp only [Bool.and_eq_true, decide_eq_true_eq] at about
    have at' : candidates.values[position]? = some candidate :=
      List.mem_zipIdx_iff_getElem?.mp (List.mem_of_find?_eq_some found)
    obtain ⟨other, present', resolves⟩ := resolved candidate (List.mem_of_getElem? at')
    obtain ⟨-, -, target, operation⟩ := Subject.identity_of_resolveSpec resolves
    have met (action : candidate.item.action = .mutation ∨ candidate.item.action = .noOp ∨
        candidate.item.action = .preserved) :
        subject.DependencyMet catalog input proposals dependency :=
      ⟨other, present', by rw [← target, about.1, admission.targeted],
        operation.symm.trans about.2, candidate, resolves, action⟩
    split
    next idle =>
      split
      next inPlace =>
        simp only [Bool.or_eq_true, decide_eq_true_eq] at inPlace
        exact .inl ⟨⟨none, rfl⟩, met (.inr inPlace)⟩
      next withheld =>
        right
        refine ⟨⟨_, rfl, by simp [dependencyError, dependencyMessages]⟩, ?_⟩
        rintro ⟨other', present'', target', operation', candidate', resolves', action⟩
        obtain rfl := considered_eq selected present' present''
          (by rw [← target, about.1, target', admission.targeted])
          (by rw [operation', ← about.2, operation])
        rw [resolves] at resolves'
        cases resolves'
        rcases action with action | action
        · simp [action, PlanAction.isExecutable] at idle
        · exact withheld (by simpa using action)
    next executable =>
      have action : candidate.item.action = .mutation := by
        cases action : candidate.item.action <;> simp [action, PlanAction.isExecutable]
          at executable ⊢
      split
      next own =>
        rw [own, stands] at at'
        cases at'
        exact absurd about.2 (admission.dependency_ne depends)
      · exact .inl ⟨⟨some position, rfl⟩, met (.inl action)⟩

/-- A candidate with a draft is that of an admitted subject. -/
theorem admission_of_indexed {entry : Indexed}
    (member : entry ∈ mutationCandidates candidates.values) :
    ∃ subject ∈ considered input proposals, ∃ admission : Admission input.policy catalog subject,
      entry.candidate = admission.candidate ∧
        candidates.values[entry.index]? = some admission.candidate := by
  obtain ⟨stands, drafted⟩ := standsIn_of_mem member
  obtain ⟨subject, present, resolves⟩ :=
    (collect_members selected collected).1 entry.candidate (List.mem_of_getElem? stands)
  obtain ⟨admission, same⟩ := admission_of_drafted resolves drafted
  exact ⟨subject, present, admission, same, same ▸ stands⟩

/-- Whatever is admitted is linked, if linking succeeds. -/
theorem linkCandidate_of_admission {linked : List Linked}
    (ok : linkAll candidates.values = .ok linked) {subject : Subject}
    (present : subject ∈ considered input proposals)
    (admission : Admission input.policy catalog subject) : ∃ index links,
      candidates.values[index]? = some admission.candidate ∧
        linkCandidate candidates.values index admission.candidate = .ok links := by
  obtain ⟨candidate, member, resolves⟩ := (collect_members selected collected).2 subject present
  have admitted := (Subject.resolveSpec_mutation_iff.mpr ⟨admission, rfl⟩).1
  rw [resolves] at admitted
  cases admitted
  obtain ⟨index, stands⟩ := List.getElem?_of_mem member
  have indexed : ⟨admission.candidate, index, admission.draft⟩ ∈
      mutationCandidates candidates.values := by
    rw [mutationCandidates, mem_sortBy, List.mem_filterMap]
    exact ⟨(admission.candidate, index), List.mem_zipIdx_iff_getElem?.mpr stands, rfl⟩
  obtain ⟨entry, -, made⟩ := exists_mapM_of_mem ok indexed
  obtain ⟨links, made, -⟩ := bind_eq_ok_iff.mp made
  exact ⟨index, links, stands, made⟩

/-- Every dependency of an admitted operation is met. -/
def DependenciesMet (catalog : OperationCatalog) (input : PlannerInput) (proposals : Proposals) :
    Prop :=
  ∀ subject ∈ considered input proposals, ∀ admission : Admission input.policy catalog subject,
    ∀ dependency ∈ admission.contract.dependencies,
      subject.DependencyMet catalog input proposals dependency

/-- Linking succeeds when the dependencies are met. -/
theorem exists_linkAll (met : DependenciesMet catalog input proposals) :
    ∃ linked, linkAll candidates.values = .ok linked := by
  refine exists_mapM fun entry member => ?_
  obtain ⟨subject, present, admission, same, stands⟩ :=
    admission_of_indexed selected collected member
  obtain ⟨links, linked⟩ : ∃ links, admission.contract.dependencies.mapM
      (linkDependency candidates.values entry.index admission.candidate admission.target) =
        .ok links := by
    refine exists_mapM fun dependency depends => ?_
    rcases linkDependency_cases selected collected admission stands depends with
      ⟨linked, -⟩ | ⟨-, unmet⟩
    · exact linked
    · exact absurd (met subject present admission dependency depends) unmet
  refine ⟨_, bind_eq_ok_iff.mpr ⟨links.filterMap id, ?_, rfl⟩⟩
  rw [same]
  exact bind_eq_ok_iff.mpr ⟨links, linked, rfl⟩

/-- The dependencies are met when linking succeeds. -/
theorem dependenciesMet_of_linkAll {linked : List Linked}
    (ok : linkAll candidates.values = .ok linked) : DependenciesMet catalog input proposals := by
  intro subject present admission dependency depends
  obtain ⟨index, links, stands, made⟩ :=
    linkCandidate_of_admission selected collected ok present admission
  obtain ⟨links, made, -⟩ := bind_eq_ok_iff.mp made
  obtain ⟨link, -, found⟩ := exists_mapM_of_mem made depends
  rcases linkDependency_cases selected collected admission stands depends with
    ⟨-, met⟩ | ⟨⟨error, failed, -⟩, -⟩
  · exact met
  · rw [failed] at found
    cases found

/-- Linking fails with a dependency error only. -/
theorem raises_linkAll :
    Raises (fun error => error.message ∈ dependencyMessages) (linkAll candidates.values) := by
  refine raises_mapM fun entry member => ?_
  obtain ⟨subject, present, admission, same, stands⟩ :=
    admission_of_indexed selected collected member
  refine raises_bind ?_ fun _ _ => raises_ok _
  rw [same]
  refine raises_bind (raises_mapM fun dependency depends => ?_) fun _ _ => raises_ok _
  rcases linkDependency_cases selected collected admission stands depends with
    ⟨⟨link, linked⟩, -⟩ | ⟨⟨error, failed, about⟩, -⟩
  · intro error failed
    cases linked.symm.trans failed
  · intro other failed'
    cases failed.symm.trans failed'
    exact about

end Linking

/-! ## Other errors -/

/-- An error that is about no dependency. -/
def Unrelated (error : SysboostError) : Prop :=
  error.message ∉ dependencyMessages

@[simp]
theorem unrelated_iff {error : SysboostError} :
    Unrelated error ↔
      error.message ≠ "planned operation depends on a missing executable operation" ∧
        error.message ≠ "planned operation depends on an operation that was not admitted" := by
  simp [Unrelated, dependencyMessages]

theorem raises_validatePolicy (policy : PlannerPolicy) : Raises Unrelated policy.validate :=
  raises_ite (fun _ => raises_error (by simp)) fun _ => raises_ok ()

theorem raises_validateContract (contract : OperationContract) :
    Raises Unrelated contract.validate := by
  refine raises_ite (fun _ => raises_error (by simp)) fun _ => ?_
  refine raises_ite (fun _ => raises_error (by simp)) fun _ => ?_
  exact raises_ite (fun _ => raises_error (by simp)) fun _ => raises_ok ()

theorem raises_validateOwnership (contracts : List OperationContract) :
    Raises Unrelated (OperationCatalog.validateOwnership contracts) := by
  fun_induction OperationCatalog.validateOwnership contracts with
  | case1 => exact raises_error (by simp)
  | case2 _ _ _ _ ih => exact ih
  | case3 => exact raises_ok ()

theorem raises_validateCatalog (catalog : OperationCatalog) : Raises Unrelated catalog.validate :=
  raises_bind (raises_forM fun contract _ => raises_validateContract contract) fun _ _ =>
    raises_validateOwnership catalog.contracts

theorem raises_validateRequest (request : PolicyRequest) : Raises Unrelated request.validate := by
  refine raises_ite (fun _ => raises_error ?_) fun _ => raises_ok ()
  generalize (operationShape request.operation).1 = control
  simp only [unrelated_iff, SysboostError.withTarget_message,
    SysboostError.withCapability_message, SysboostError.withStage_message,
    SysboostError.new_message]
  cases control <;> decide

theorem raises_selectProposals (proposals : List PolicyProposal) :
    Raises Unrelated (selectProposals proposals) := by
  refine raises_foldlM (fun selected proposal _ => ?_) _
  refine raises_bind (raises_validateRequest proposal.request) fun _ _ => ?_
  split
  · exact raises_ok _
  · refine raises_ite (fun _ => raises_ok _) fun _ => ?_
    refine raises_ite (fun _ => raises_ok _) fun _ => ?_
    exact raises_ite (fun _ => raises_ok _) fun _ => raises_error (by simp)

section Subjects

variable (policy : PlannerPolicy) (catalog : OperationCatalog) (subject : Subject)

theorem raises_resolveTarget (contract : OperationContract) (desired : PlanValue) :
    Raises Unrelated (subject.resolveTarget policy contract desired) := by
  unfold Subject.resolveTarget
  split
  · exact raises_ok _
  · split
    · split
      · exact raises_ok _
      · split
        · exact raises_ok _
        · split
          · exact raises_ok _
          · split
            · exact raises_ok _
            · split
              · exact raises_ok _
              · exact raises_ite (fun _ => raises_error (by simp)) fun _ => raises_ok _
    · exact raises_ok _

theorem raises_resolveSpec : Raises Unrelated (subject.resolveSpec policy catalog) := by
  have contract (descriptor : CapabilityDescriptor) (contract : OperationContract)
      (desired : PlanValue) :
      Raises Unrelated (subject.resolveContract policy descriptor contract desired) := by
    refine raises_bind (raises_validateContract contract) fun _ _ => ?_
    refine raises_ite (fun _ => raises_ok _) fun _ => ?_
    refine raises_ite (fun _ => raises_error (by simp)) fun _ => ?_
    refine raises_ite (fun _ => raises_error (by simp)) fun _ => ?_
    exact raises_ite (fun _ => raises_ok _) fun _ =>
      raises_resolveTarget policy subject contract desired
  have mutation (descriptor : CapabilityDescriptor) (desired : PlanValue) :
      Raises Unrelated (subject.resolveMutation policy catalog descriptor desired) := by
    refine raises_ite (fun _ => raises_ok _) fun _ => ?_
    refine raises_ite (fun _ => raises_ok _) fun _ => ?_
    refine raises_ite (fun _ => raises_ok _) fun _ => ?_
    split
    · exact raises_ok _
    · exact contract _ _ _
  have inner : Raises Unrelated (subject.resolveSpecInner policy catalog) := by
    unfold Subject.resolveSpecInner
    split
    · exact raises_ok _
    · dsimp only
      split
      · exact raises_ok _
      · split
        · exact raises_ok _
        · split
          · exact raises_ok _
          · exact raises_ok _
          · exact raises_ite (fun _ => raises_ok _) fun _ => mutation _ _
  refine raises_bind inner fun candidate _ => ?_
  refine raises_ite (fun _ => raises_error ?_) fun _ => raises_ok _
  cases candidate.item.target <;> simp

end Subjects

theorem raises_insertCandidate (candidates : Candidates) (candidate : Candidate) :
    Raises Unrelated (insertCandidate candidates candidate) := by
  unfold insertCandidate
  split
  · exact raises_ok _
  · refine raises_ite (fun _ => raises_error ?_) fun _ => ?_
    · cases candidate.item.target <;> simp
    · exact raises_ite (fun _ => raises_error (by simp)) fun _ => raises_ok _

theorem raises_consider (catalog : OperationCatalog) (policy : PlannerPolicy)
    (candidates : Candidates) (subject : Subject) :
    Raises Unrelated (catalog.consider policy candidates subject) :=
  raises_bind (raises_resolveSpec policy catalog subject) fun candidate _ =>
    raises_insertCandidate candidates candidate

theorem raises_collect (catalog : OperationCatalog) (input : PlannerInput)
    (proposals : Proposals) : Raises Unrelated (catalog.collect input proposals) := by
  refine raises_bind (raises_foldlM (fun state subject _ => ?_) _) fun candidates _ => ?_
  · exact raises_consider catalog input.policy state subject
  · refine raises_foldlM (fun state proposal _ => ?_) candidates
    exact raises_ite (fun _ => raises_error (by simp)) fun _ =>
      raises_consider catalog input.policy state _

theorem raises_newMutation (mutationId : MutationId) (capability : CapabilityId)
    (target : TargetId) (kind : MutationKind) (desired : TypedValue)
    (precondition : StateFingerprint) (equality : EqualityKind)
    (dependencies : List MutationId) : Raises Unrelated (PlannedMutation.new mutationId capability
      target kind desired precondition equality dependencies) := by
  refine raises_bind ?_ fun _ _ => ?_
  · unfold MutationKind.validate
    split
    · exact raises_error (by simp)
    · exact raises_ite (fun _ => raises_error (by simp)) fun _ => raises_ok ()
    · exact raises_error (by simp)
    · exact raises_ok ()
  · refine raises_ite (fun _ => raises_error (by simp)) fun _ => ?_
    exact raises_ite (fun _ => raises_error (by simp)) fun _ => raises_ok _

theorem raises_validateItem (item : PlanItem) : Raises Unrelated item.validate := by
  refine raises_ite (fun _ => ?_) fun _ => ?_
  · exact raises_ite (fun _ => raises_error (by simp)) fun _ => raises_ok ()
  · split
    · exact raises_error (by simp)
    · refine raises_ite (fun _ => raises_error (by simp)) fun _ => ?_
      refine raises_ite (fun _ => raises_error (by simp)) fun _ => ?_
      exact raises_ite (fun _ => raises_error (by simp)) fun _ => raises_ok ()

/-- The checks on the mutations of a plan. -/
theorem raises_validateMutations (plan : Plan) :
    Raises Unrelated (do
      plan.mutations.zipIdx.forM fun (mutation, index) => plan.validateMutation index mutation
      plan.mutations.forM fun mutation =>
        if reachesCycle plan.mutations plan.mutations.length mutation.mutationId [] then
          throw (((SysboostError.new .planningError
            "plan dependency graph contains a cycle"
            ).withStage .plan).withMutation mutation.mutationId)
        else pure ()
      plan.mutations.zipIdx.forM fun (mutation, index) => plan.validateOrder index mutation) := by
  have mutation (index : Nat) (mutation : PlannedMutation) :
      Raises Unrelated (plan.validateMutation index mutation) := by
    refine raises_ite (fun _ => raises_error (by simp)) fun _ => ?_
    refine raises_forM fun _ _ => raises_ite (fun _ => raises_error (by simp)) fun _ => ?_
    exact raises_ite (fun _ => raises_error (by simp)) fun _ => raises_ok ()
  have order (index : Nat) (mutation : PlannedMutation) :
      Raises Unrelated (plan.validateOrder index mutation) :=
    raises_forM fun _ _ => raises_ite (fun _ => raises_error (by simp)) fun _ => raises_ok ()
  refine raises_bind (raises_forM fun _ _ => mutation _ _) fun _ _ => ?_
  refine raises_bind (raises_forM fun _ _ => ?_) fun _ _ => raises_forM fun _ _ => order _ _
  exact raises_ite (fun _ => raises_error (by simp)) fun _ => raises_ok ()

theorem raises_validatePlan (plan : Plan) : Raises Unrelated plan.validateComplete := by
  have items : Raises Unrelated plan.validateItems := by
    refine raises_bind (raises_forM fun item _ => raises_validateItem item) fun _ _ => ?_
    refine raises_ite (fun _ => raises_error (by simp)) fun _ => ?_
    exact raises_forM fun _ _ =>
      raises_ite (fun _ => raises_error (by simp)) fun _ => raises_ok ()
  have rest := raises_validateMutations plan
  refine raises_ite (fun _ => raises_error (by simp)) fun _ => ?_
  exact raises_ite (fun _ => raises_bind items fun _ _ => rest) fun _ => rest

/-! ## Failing on a dependency -/

/-- Every dependency of an operation that is admitted when all candidates are
decided is met. -/
def Independent (catalog : OperationCatalog) (input : PlannerInput) : Prop :=
  ∀ proposals candidates, input.policy.validate = .ok () → catalog.validate = .ok () →
    selectProposals input.policy.proposals = .ok proposals →
    catalog.collect input proposals = .ok candidates → DependenciesMet catalog input proposals

theorem resolve_eq_linkAll {catalog : OperationCatalog} {input : PlannerInput}
    {proposals : Proposals} {candidates : Candidates} {error : SysboostError}
    (policyOk : input.policy.validate = .ok ()) (catalogOk : catalog.validate = .ok ())
    (selected : selectProposals input.policy.proposals = .ok proposals)
    (collected : catalog.collect input proposals = .ok candidates)
    (failed : linkAll candidates.values = .error error) : catalog.build input = .error error := by
  have resolved : catalog.resolve input = .error error := by
    rw [OperationCatalog.resolve, policyOk, catalogOk, selected]
    simp only [bind, Except.bind, collected, finalizeCandidates, failed]
  rw [OperationCatalog.build, resolved]
  rfl

theorem raises_finalize {policy : PlannerPolicy} {candidates : Candidates} {linked : List Linked}
    (links : linkAll candidates.values = .ok linked) :
    Raises Unrelated (finalizeCandidates policy candidates) := by
  refine raises_bind (links ▸ raises_ok linked) fun _ _ => ?_
  refine raises_ite (fun _ => raises_error (by simp)) fun _ => ?_
  refine raises_bind (raises_mapM fun entry _ => ?_) fun _ _ => raises_ok _
  exact raises_bind (raises_newMutation _ _ _ _ _ _ _ _) fun _ _ => raises_ok _

/-- A plan fails because of a dependency exactly when an admitted operation has
one that is not met at its target. -/
theorem fails_on_dependency_iff {catalog : OperationCatalog} {input : PlannerInput} :
    (∀ error, catalog.build input = .error error → error.message ∉ dependencyMessages) ↔
      Independent catalog input := by
  constructor
  · intro unrelated proposals candidates policyOk catalogOk selected collected
    cases links : linkAll candidates.values with
    | ok linked => exact dependenciesMet_of_linkAll selected collected links
    | error error =>
        exact absurd (raises_linkAll selected collected error links)
          (unrelated error (resolve_eq_linkAll policyOk catalogOk selected collected links))
  · intro independent
    change Raises Unrelated (catalog.build input)
    refine raises_bind ?_ fun resolution _ => ?_
    · refine raises_bind (raises_validatePolicy input.policy) fun _ policyOk => ?_
      refine raises_bind (raises_validateCatalog catalog) fun _ catalogOk => ?_
      refine raises_bind (raises_selectProposals _) fun proposals selected => ?_
      refine raises_bind (raises_collect catalog input proposals) fun candidates collected => ?_
      obtain ⟨linked, links⟩ := exists_linkAll selected collected
        (independent proposals candidates policyOk catalogOk selected collected)
      exact raises_finalize links
    · exact raises_bind (raises_validatePlan _) fun _ _ => raises_ok _

namespace Fixtures

/-- The governor of the CPU policy was not observed. -/
def unobservedGovernorInput : PlannerInput :=
  { cpuInput .performance with
    currentState := ⟨.fromUnixMillis 10, [preferenceFact .balancePerformance]⟩ }

end Fixtures

/-- The energy preference fails the whole plan when the governor was not
observed. -/
theorem fails_on_dependency_governor :
    ∃ error, Fixtures.cpuCatalog.build Fixtures.unobservedGovernorInput = .error error ∧
      error.message ∈ dependencyMessages ∧
      Fixtures.unobservedGovernorInput.policy.requiredDefault = false ∧
      Fixtures.unobservedGovernorInput.policy.proposals = [] := by
  have failed : (match Fixtures.cpuCatalog.build Fixtures.unobservedGovernorInput with
      | .error error => decide (error.message ∈ dependencyMessages)
      | .ok _ => false) = true := by
    decide +kernel
  split at failed
  next error raised => exact ⟨error, raised, of_decide_eq_true failed, rfl, rfl⟩
  · cases failed

end Sysboost.Planner
