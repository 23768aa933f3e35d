import Sysboost.Planner.Checklist
import Sysboost.Planner.Grounds
import Sysboost.Planner.ItemBytes
import Sysboost.Planner.Schedule

/-!
# What the digest of a plan covers

Two plans with the same bytes have the same mutations and the same items, as
far as the bytes go.  The grounds of an item are not among them: the identity
of its target, its evidence, the equality of its contract and the value behind
a rendered text.
-/

namespace Sysboost.Planner

open Sysboost.Core ByteCodec Ordered Results
open DigestWriter

/-! ## The bytes of a plan -/

/-- What `digest_resolution` feeds to the hash. -/
def resolutionBytes (resolution : PolicyResolution) (policyDigest capabilityDigest : Block 32) :
    Bytes :=
  str (displayProfile resolution.profile) ++ bytes policyDigest.bytes ++
    bytes capabilityDigest.bytes ++ resolution.items.flatMap digestItem

/-- The bytes behind the digest of the plan that is built. -/
def OperationCatalog.planBytes (catalog : OperationCatalog) (input : PlannerInput) :
    Except SysboostError Bytes := do
  let resolution ← catalog.resolve input
  return resolutionBytes resolution (digestPolicy input.policy) (digestInventory input.inventory)

variable {catalog catalog' : OperationCatalog} {input input' : PlannerInput} {plan plan' : Plan}

/-- A built plan carries the digest of its bytes. -/
theorem planBytes_of_build (ok : catalog.build input = .ok plan) :
    plan.policyDigest = digestPolicy input.policy ∧
      plan.capabilityDigest = digestInventory input.inventory ∧
      catalog.planBytes input = .ok (resolutionBytes ⟨input.policy.profile, plan.items⟩
        plan.policyDigest plan.capabilityDigest) ∧
      plan.planDigest = stableDigest (resolutionBytes ⟨input.policy.profile, plan.items⟩
        plan.policyDigest plan.capabilityDigest) := by
  obtain ⟨resolution, resolved, ok⟩ := bind_eq_ok_iff.mp ok
  have profile : resolution.profile = input.policy.profile := by
    obtain ⟨⟨⟩, -, resolved⟩ := bind_eq_ok_iff.mp resolved
    obtain ⟨⟨⟩, -, resolved⟩ := bind_eq_ok_iff.mp resolved
    obtain ⟨proposals, -, resolved⟩ := bind_eq_ok_iff.mp resolved
    obtain ⟨candidates, -, finalized⟩ := bind_eq_ok_iff.mp resolved
    obtain ⟨linked, -, finalized⟩ := bind_eq_ok_iff.mp finalized
    dsimp only at finalized
    split at finalized
    · cases finalized
    · obtain ⟨planned, -, finalized⟩ := bind_eq_ok_iff.mp finalized
      cases finalized
      rfl
  obtain ⟨⟨⟩, -, ok⟩ := bind_eq_ok_iff.mp ok
  cases ok
  rw [OperationCatalog.planBytes, resolved, ← profile]
  exact ⟨rfl, rfl, rfl, rfl⟩

/-! ## The mutations of a plan -/

/-- The mutations of a valid plan have different IDs. -/
theorem ids_pairwise (validated : plan.validateComplete = .ok ()) :
    plan.mutations.Pairwise fun first second => first.mutationId ≠ second.mutationId := by
  unfold Plan.validateComplete at validated
  split at validated
  · cases validated
  · exact List.pairwise_map.mp (Plan.ordered_of_validate validated).distinct

/-- No mutation of a built plan depends on the ID zero. -/
theorem nonzero_of_build (ok : catalog.build input = .ok plan) {item : PlanItem}
    (member : item ∈ plan.items) {mutation : PlannedMutation}
    (carries : item.mutation = some mutation) {dependency : MutationId}
    (depends : dependency ∈ mutation.dependencies) : dependency.get ≠ 0 := by
  obtain ⟨resolution, resolved, ok⟩ := bind_eq_ok_iff.mp ok
  obtain ⟨⟨⟩, -, resolved⟩ := bind_eq_ok_iff.mp resolved
  obtain ⟨⟨⟩, -, resolved⟩ := bind_eq_ok_iff.mp resolved
  obtain ⟨proposals, selected, resolved⟩ := bind_eq_ok_iff.mp resolved
  obtain ⟨candidates, collected, finalized⟩ := bind_eq_ok_iff.mp resolved
  obtain ⟨⟨⟩, validated, ok⟩ := bind_eq_ok_iff.mp ok
  cases ok
  refine dependency_ne_zero finalized (fun candidate present => ?_) ?_ member carries depends
  · obtain ⟨subject, -, resolves⟩ := (collect_members selected collected).1 candidate present
    exact (Subject.resolveSpec_shows resolves).unplanned
  · have different := ids_pairwise validated
    have perm : (Plan.sortMutations (resolution.items.filterMap PlanItem.mutation)).Perm
        (resolution.items.filterMap PlanItem.mutation) := List.perm_insertionSort _ _
    exact (perm.pairwise_iff Ne.symm).mp different

/-- The items of a built plan can be read back, when their texts fit. -/
theorem readable_of_build (ok : catalog.build input = .ok plan) {item : PlanItem}
    (member : item ∈ plan.items) (addressable : Addressable item) : Readable item := by
  obtain ⟨proposals, composed⟩ := composed_of_build ok
  have valid := composed.item_validate member
  obtain ⟨subject, -, candidate, resolves, completes⟩ := composed.decided item member
  have independent : item.mutation = none → item.dependencies = [] := by
    intro unplanned
    cases completes with
    | unplanned => exact (Subject.resolveSpec_shows resolves).independent
    | planned => cases unplanned
  refine ⟨addressable, ⟨fun action => (executable_of_validate valid action).1,
    action_of_validate valid⟩, independent, fun dependency depends => ?_⟩
  cases planned : item.mutation with
  | none =>
      rw [independent planned] at depends
      cases depends
  | some mutation =>
      refine nonzero_of_build ok member planned ?_
      cases completes with
      | unplanned =>
          rw [(Subject.resolveSpec_shows resolves).unplanned] at planned
          cases planned
      | planned =>
          cases planned
          exact depends

/-! ## What is approved -/

/-- What a mutation does, and to what. -/
def approvedMutation (mutation : PlannedMutation) :
    MutationKind × TargetId × StateFingerprint × List MutationId :=
  (mutation.kind, mutation.target, mutation.precondition, mutation.dependencies)

/-- The kinds of equality under which an item is saved, restored and verified. -/
def equalities (item : PlanItem) : EqualityKind × EqualityKind × EqualityKind :=
  (item.snapshot.equality, item.restore.equality, item.verification.equality)

/-- What is approved of an item. -/
def approvedItem (item : PlanItem) : PlanAction × Option TargetIdentity ×
    (EqualityKind × EqualityKind × EqualityKind) × Option BackendId × Option PlanValue ×
      List CapabilityEvidence :=
  (item.action, item.targetIdentity, equalities item, item.backend, item.desired, item.evidence)

/-- Whoever approves one of two plans approves the other. -/
structure Covered (plan other : Plan) : Prop where
  mutations : plan.mutations.map approvedMutation = other.mutations.map approvedMutation
  items : plan.items.map approvedItem = other.items.map approvedItem

/-- Two subjects are decided on the same grounds. -/
structure Alike (catalog catalog' : OperationCatalog) (input input' : PlannerInput)
    (subject other : Subject) : Prop where
  targetIdentity : subject.targetIdentity = other.targetIdentity
  evidence : subject.evidence = other.evidence
  wanted : subject.wanted input.policy = other.wanted input'.policy
  equality : ∀ (admission : Admission input.policy catalog subject)
    (admission' : Admission input'.policy catalog' other),
      admission.contract.equality = admission'.contract.equality

/-- Whatever both inputs have under one capability, operation and target is
decided on the same grounds. -/
def SameGrounds (catalog catalog' : OperationCatalog) (input input' : PlannerInput) : Prop :=
  ∀ proposals proposals', selectProposals input.policy.proposals = .ok proposals →
    selectProposals input'.policy.proposals = .ok proposals' →
    ∀ subject ∈ considered input proposals, ∀ other ∈ considered input' proposals',
      subject.spec.capability = other.spec.capability →
      subject.spec.operation = other.spec.operation → subject.target = other.target →
      Alike catalog catalog' input input' subject other

theorem equality_of_validate {contract : OperationContract}
    (valid : contract.validate = .ok ()) : contract.snapshot.equality = contract.equality ∧
      contract.restore.equality = contract.equality ∧
      contract.verification.equality = contract.equality := by
  unfold OperationContract.validate at valid
  split at valid
  · cases valid
  next consistent => simpa [and_assoc] using consistent

section Pairs

variable {policy : PlannerPolicy} {subject : Subject} {candidate : Candidate} {item : PlanItem}

/-- The equalities of an item are those of the contract it was admitted under. -/
theorem equalities_of_admission (admission : Admission policy catalog subject)
    (resolves : subject.resolveSpec policy catalog = .ok candidate)
    (completes : Completes candidate item) : item.action = .mutation ∧
      equalities item = (admission.contract.equality, admission.contract.equality,
        admission.contract.equality) := by
  have own := (Subject.resolveSpec_mutation_iff.mpr ⟨admission, rfl⟩).1
  rw [resolves] at own
  cases own
  obtain ⟨snapshot, restore, verification⟩ := equality_of_validate admission.valid
  refine ⟨completes.action, ?_⟩
  cases completes <;>
    simp [equalities, Admission.candidate, Candidate.mutating, snapshot, restore, verification]

/-- An item without an admission has no equality of its own. -/
theorem equalities_of_decision (resolves : subject.resolveSpec policy catalog = .ok candidate)
    (completes : Completes candidate item) (action : item.action ≠ .mutation) :
    equalities item = (.byteExact, .byteExact, .byteExact) := by
  rcases Subject.resolveSpec_settles resolves with ⟨admission, rfl⟩ | ⟨decision, -, rfl⟩
  · exact absurd completes.action action
  · cases completes with
    | unplanned => rfl
    | planned drafted => cases drafted

/-- Items that are read alike are approved alike exactly when they are decided
on the same grounds. -/
theorem approvedItem_eq_iff {other : Subject} {candidate' : Candidate} {item' : PlanItem}
    (resolves : subject.resolveSpec input.policy catalog = .ok candidate)
    (completes : Completes candidate item)
    (resolves' : other.resolveSpec input'.policy catalog' = .ok candidate')
    (completes' : Completes candidate' item') (alike : ReadAlike item item') :
    approvedItem item = approvedItem item' ↔
      Alike catalog catalog' input input' subject other := by
  have behind := completes.behind resolves
  have behind' := completes'.behind resolves'
  simp only [approvedItem, Prod.mk.injEq]
  constructor
  · rintro ⟨-, targetIdentity, equality, -, desired, evidence⟩
    refine ⟨?_, ?_, ?_, fun admission admission' => ?_⟩
    · rw [← behind.targetIdentity, targetIdentity, behind'.targetIdentity]
    · rw [← behind.evidence, evidence, behind'.evidence]
    · rw [← behind.desired, desired, behind'.desired]
    · rw [(equalities_of_admission admission resolves completes).2,
        (equalities_of_admission admission' resolves' completes').2] at equality
      exact (Prod.mk.injEq _ _ _ _ ▸ equality).1
  · rintro ⟨targetIdentity, evidence, wanted, equality⟩
    refine ⟨alike.action, ?_, ?_, alike.backend, ?_, ?_⟩
    · rw [behind.targetIdentity, targetIdentity, behind'.targetIdentity]
    · by_cases action : item.action = .mutation
      · obtain ⟨admission, -⟩ := Subject.resolveSpec_mutation_iff.mp
          ⟨resolves, completes.action.symm.trans action⟩
        obtain ⟨admission', -⟩ := Subject.resolveSpec_mutation_iff.mp
          ⟨resolves', completes'.action.symm.trans (alike.action.symm.trans action)⟩
        rw [(equalities_of_admission admission resolves completes).2,
          (equalities_of_admission admission' resolves' completes').2,
          equality admission admission']
      · rw [equalities_of_decision resolves completes action,
          equalities_of_decision resolves' completes' (alike.action ▸ action)]
    · rw [behind.desired, wanted, behind'.desired]
    · rw [behind.evidence, evidence, behind'.evidence]

/-- What a valid item says of its mutation. -/
theorem agrees_of_validate {mutation : PlannedMutation} (valid : item.validate = .ok ())
    (carries : item.mutation = some mutation) : item.capability = mutation.capability ∧
      item.target = some mutation.target ∧ item.desired = some (.typed mutation.desired) ∧
      item.dependencies = mutation.dependencies ∧ item.snapshot.equality = mutation.equality := by
  have executable := action_of_validate valid (by simp [carries])
  simp only [PlanItem.validate, executable, PlanAction.isExecutable, carries, Bool.not_true,
    Bool.false_eq_true, if_false] at valid
  split at valid
  · cases valid
  · split at valid
    · cases valid
    · split at valid
      · cases valid
      next agrees =>
        simp only [Bool.or_eq_true, decide_eq_true_eq, not_or, not_not] at agrees
        obtain ⟨⟨⟨⟨⟨⟨⟨-, capability⟩, target⟩, desired⟩, dependencies⟩, snapshot⟩, -⟩, -⟩ := agrees
        exact ⟨capability, target, desired, dependencies, snapshot⟩

theorem rollback_of_completes {mutation : PlannedMutation}
    (resolves : subject.resolveSpec policy catalog = .ok candidate)
    (completes : Completes candidate item) (carries : item.mutation = some mutation) :
    mutation.rollback = ⟨mutation.equality, .compareAndRestore⟩ := by
  cases completes with
  | unplanned =>
      rw [(Subject.resolveSpec_shows resolves).unplanned] at carries
      cases carries
  | planned drafted made =>
      cases carries
      rw [(PlannedMutation.eq_of_new made).1]

/-- Items that are read and approved alike carry the same mutation. -/
theorem mutation_eq {other : Subject} {candidate' : Candidate} {item' : PlanItem}
    (resolves : subject.resolveSpec input.policy catalog = .ok candidate)
    (completes : Completes candidate item) (valid : item.validate = .ok ())
    (resolves' : other.resolveSpec input'.policy catalog' = .ok candidate')
    (completes' : Completes candidate' item') (valid' : item'.validate = .ok ())
    (alike : ReadAlike item item') (approved : approvedItem item = approvedItem item') :
    item.mutation = item'.mutation := by
  have mutations := alike.mutation
  cases carries : item.mutation with
  | none =>
      rw [carries, Option.map_none, eq_comm, Option.map_eq_none_iff] at mutations
      exact mutations.symm
  | some mutation =>
      rw [carries, Option.map_some, eq_comm, Option.map_eq_some_iff] at mutations
      obtain ⟨mutation', carries', same⟩ := mutations
      rw [carries']
      obtain ⟨capability, target, desired, dependencies, equality⟩ :=
        agrees_of_validate valid carries
      obtain ⟨capability', target', desired', dependencies', equality'⟩ :=
        agrees_of_validate valid' carries'
      have rollback := rollback_of_completes resolves completes carries
      have rollback' := rollback_of_completes resolves' completes' carries'
      simp only [approvedItem, equalities, Prod.mk.injEq] at approved same
      obtain ⟨-, -, ⟨equalities, -, -⟩, -, wanted, -⟩ := approved
      rw [desired, desired', Option.some.injEq, PlanValue.typed.injEq] at wanted
      have targets := alike.target
      rw [target, target', Option.some.injEq] at targets
      have capabilities := alike.capability
      have depends := alike.dependencies
      rcases mutation
      rcases mutation'
      simp_all

end Pairs

/-! ## Coverage -/

/-- Plans with the same bytes are approved alike exactly when they are decided
on the same grounds. -/
theorem covered_iff (ok : catalog.build input = .ok plan) (ok' : catalog'.build input' = .ok plan')
    (addressable : ∀ item ∈ plan.items, Addressable item)
    (addressable' : ∀ item ∈ plan'.items, Addressable item)
    (same : catalog.planBytes input = catalog'.planBytes input') :
    Covered plan plan' ↔ SameGrounds catalog catalog' input input' := by
  have alike : List.Forall₂ ReadAlike plan.items plan'.items := by
    obtain ⟨-, -, takes, -⟩ := planBytes_of_build ok
    obtain ⟨-, -, takes', -⟩ := planBytes_of_build ok'
    rw [takes, takes', Except.ok.injEq] at same
    simp only [resolutionBytes, List.append_assoc] at same
    have profiles (profile : Profile) : (utf8 (displayProfile profile)).length < 2 ^ 64 := by
      cases profile <;> decide
    obtain ⟨-, same⟩ := str_append_inj (profiles _) (profiles _) same
    obtain ⟨-, same⟩ := block_append_inj same
    obtain ⟨-, same⟩ := block_append_inj same
    exact readAlike_of_flatMap
      (fun item member => readable_of_build ok member (addressable item member))
      (fun item member => readable_of_build ok' member (addressable' item member)) same
  obtain ⟨proposals, composed⟩ := composed_of_build ok
  obtain ⟨proposals', composed'⟩ := composed_of_build ok'
  constructor
  · intro covered proposals₁ proposals₂ selected selected' subject considered other considered'
      capability operation target
    rw [composed.selected] at selected
    rw [composed'.selected] at selected'
    cases selected
    cases selected'
    obtain ⟨candidate, resolves, item, member, completes⟩ := composed.complete subject considered
    obtain ⟨item', member', reads, approved⟩ := exists_of_forall₂ alike covered.items member
    obtain ⟨found, considered'', candidate', resolves', completes'⟩ :=
      composed'.decided item' member'
    have behind := completes.behind resolves
    have behind' := completes'.behind resolves'
    obtain rfl : found = other := by
      refine considered_eq composed'.selected considered'' considered' ?_ ?_
      · rw [← target, ← behind.target, ← behind'.target, reads.target]
      · rw [← operation, ← behind.operation, ← behind'.operation, reads.operation]
    exact (approvedItem_eq_iff resolves completes resolves' completes' reads).mp approved
  · intro grounds
    have each : ∀ item ∈ plan.items, ∀ other ∈ plan'.items, ReadAlike item other →
        (approvedItem item, item.mutation) = (approvedItem other, other.mutation) := by
      intro item member other member' reads
      obtain ⟨subject, considered, candidate, resolves, completes⟩ := composed.decided item member
      obtain ⟨subject', considered', candidate', resolves', completes'⟩ :=
        composed'.decided other member'
      have behind := completes.behind resolves
      have behind' := completes'.behind resolves'
      have approved := (approvedItem_eq_iff resolves completes resolves' completes' reads).mpr
        (grounds _ _ composed.selected composed'.selected subject considered subject' considered'
          (by rw [← behind.capability, ← behind'.capability, reads.capability])
          (by rw [← behind.operation, ← behind'.operation, reads.operation])
          (by rw [← behind.target, ← behind'.target, reads.target]))
      exact Prod.ext approved (mutation_eq resolves completes (composed.item_validate member)
        resolves' completes' (composed'.item_validate member') reads approved)
    have pairs := map_eq_of_forall₂ alike each
    constructor
    · have mutations := congrArg (List.filterMap Prod.snd) pairs
      simp only [List.filterMap_map] at mutations
      rw [composed.mutations, composed'.mutations]
      exact congrArg (fun mutations => (Plan.sortMutations mutations).map approvedMutation)
        mutations
    · have items := congrArg (List.map Prod.fst) pairs
      simp only [List.map_map] at items
      exact items

namespace Fixtures

/-- The governor now belongs to another object. -/
def movedInput : PlannerInput :=
  { cpuInput .performance with
    currentState := ⟨.fromUnixMillis 10, [
      { governorFact schedutil with targetIdentity := some ⟨.fill 16 8⟩ },
      preferenceFact .balancePerformance]⟩ }

end Fixtures

/-- The bytes of an item leave out the identity of its target. -/
theorem digestItem_anonymous (item : PlanItem) :
    digestItem { item with targetIdentity := none } = digestItem item :=
  rfl

/-- The plans for a governor of one object and of another. -/
theorem builds_moved :
    ∃ plan plan', Fixtures.cpuCatalog.build (Fixtures.cpuInput .performance) = .ok plan ∧
      Fixtures.cpuCatalog.build Fixtures.movedInput = .ok plan' ∧
      (∀ item ∈ plan.items, Addressable item) ∧ (∀ item ∈ plan'.items, Addressable item) ∧
      (plan.items.map fun item => { item with targetIdentity := none }) =
        (plan'.items.map fun item => { item with targetIdentity := none }) ∧
      plan.items.map PlanItem.targetIdentity ≠ plan'.items.map PlanItem.targetIdentity := by
  have built : (match Fixtures.cpuCatalog.build (Fixtures.cpuInput .performance),
        Fixtures.cpuCatalog.build Fixtures.movedInput with
      | .ok plan, .ok plan' => decide ((∀ item ∈ plan.items, Addressable item) ∧
          (∀ item ∈ plan'.items, Addressable item) ∧
          (plan.items.map fun item => { item with targetIdentity := none }) =
            (plan'.items.map fun item => { item with targetIdentity := none }) ∧
          plan.items.map PlanItem.targetIdentity ≠ plan'.items.map PlanItem.targetIdentity)
      | _, _ => false) = true := by
    decide +kernel
  split at built
  next plan plan' ok ok' => exact ⟨plan, plan', ok, ok', of_decide_eq_true built⟩
  · cases built

theorem planBytes_moved {plan plan' : Plan}
    (ok : Fixtures.cpuCatalog.build (Fixtures.cpuInput .performance) = .ok plan)
    (ok' : Fixtures.cpuCatalog.build Fixtures.movedInput = .ok plan')
    (same : (plan.items.map fun item => { item with targetIdentity := none }) =
      plan'.items.map fun item => { item with targetIdentity := none }) :
    plan.policyDigest = plan'.policyDigest ∧ plan.capabilityDigest = plan'.capabilityDigest ∧
      Fixtures.cpuCatalog.planBytes (Fixtures.cpuInput .performance) =
        Fixtures.cpuCatalog.planBytes Fixtures.movedInput := by
  obtain ⟨policy, capability, takes, -⟩ := planBytes_of_build ok
  obtain ⟨policy', capability', takes', -⟩ := planBytes_of_build ok'
  have items : plan.items.flatMap digestItem = plan'.items.flatMap digestItem := by
    have anonymous := congrArg (List.flatMap digestItem) same
    simpa only [List.flatMap_map, digestItem_anonymous] using anonymous
  have policies : plan.policyDigest = plan'.policyDigest := policy.trans policy'.symm
  have capabilities : plan.capabilityDigest = plan'.capabilityDigest :=
    capability.trans capability'.symm
  refine ⟨policies, capabilities, ?_⟩
  rw [takes, takes', policies, capabilities]
  simp only [resolutionBytes, items]
  rfl

/-- The target of an approved item can be another object under the same
bytes. -/
theorem uncovered_moved :
    ∃ plan plan', Fixtures.cpuCatalog.build (Fixtures.cpuInput .performance) = .ok plan ∧
      Fixtures.cpuCatalog.build Fixtures.movedInput = .ok plan' ∧
      plan.policyDigest = plan'.policyDigest ∧ plan.capabilityDigest = plan'.capabilityDigest ∧
      Fixtures.cpuCatalog.planBytes (Fixtures.cpuInput .performance) =
        Fixtures.cpuCatalog.planBytes Fixtures.movedInput ∧
      ¬Covered plan plan' := by
  obtain ⟨plan, plan', ok, ok', -, -, same, differ⟩ := builds_moved
  obtain ⟨policies, capabilities, takes⟩ := planBytes_moved ok ok' same
  refine ⟨plan, plan', ok, ok', policies, capabilities, takes, fun covered => differ ?_⟩
  have identities := congrArg (List.map fun approved => approved.2.1) covered.items
  rw [List.map_map, List.map_map] at identities
  exact identities

theorem covered_iff_moved :
    ∃ plan plan', Fixtures.cpuCatalog.build (Fixtures.cpuInput .performance) = .ok plan ∧
      Fixtures.cpuCatalog.build Fixtures.movedInput = .ok plan' ∧
      (Covered plan plan' ↔ SameGrounds Fixtures.cpuCatalog Fixtures.cpuCatalog
        (Fixtures.cpuInput .performance) Fixtures.movedInput) := by
  obtain ⟨plan, plan', ok, ok', addressable, addressable', same, -⟩ := builds_moved
  obtain ⟨-, -, takes⟩ := planBytes_moved ok ok' same
  exact ⟨plan, plan', ok, ok', covered_iff ok ok' addressable addressable' takes⟩

end Sysboost.Planner
