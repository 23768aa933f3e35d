import Sysboost.Core.Plan
import Sysboost.Ordered.Acyclic
import Sysboost.Results.Loops

/-!
# What plan validation accepts

The checks on the mutations of a plan accept exactly the plans in which every
dependency stands before the mutation that requires it.  The cycle search is
made before the order check, and it never refuses what the order check accepts.
-/

namespace Sysboost.Core

open Ordered Results

/-! ## The cycle search -/

section Search

variable {mutations : List PlannedMutation}

/-- The place of the first mutation with an ID. -/
def placeOf (mutations : List PlannedMutation) (id : MutationId) : Nat :=
  mutations.findIdx fun mutation => mutation.mutationId == id

/-- The mutation that is found for an ID stands at the place of the ID. -/
theorem getElem?_placeOf {id : MutationId} {mutation : PlannedMutation}
    (found : mutations.find? (fun item => item.mutationId == id) = some mutation) :
    mutations[placeOf mutations id]? = some mutation := by
  rw [placeOf, ← List.find?_eq_getElem?_findIdx, found]

/-- Every dependency has an earlier place than the mutation that requires it. -/
def Descends (mutations : List PlannedMutation) : Prop :=
  ∀ index mutation, mutations[index]? = some mutation →
    ∀ dependency ∈ mutation.dependencies, placeOf mutations dependency < index

/-- Where places descend, the search meets only IDs with smaller and smaller
places, so it never comes back to one on its stack. -/
theorem reachesCycle_eq_false (descends : Descends mutations) {fuel : Nat} {current : MutationId}
    {stack : List MutationId}
    (below : ∀ id ∈ stack, placeOf mutations current < placeOf mutations id) :
    reachesCycle mutations fuel current stack = false := by
  induction fuel generalizing current stack with
  | zero =>
      unfold reachesCycle
      rw [if_neg fun member => lt_irrefl _ (below current member)]
      split <;> rfl
  | succ fuel ih =>
      unfold reachesCycle
      rw [if_neg fun member => lt_irrefl _ (below current member)]
      split
      · rfl
      next mutation found =>
        simp only [List.any_eq_false, Bool.not_eq_true]
        intro dependency depends
        have earlier := descends _ _ (getElem?_placeOf found) dependency depends
        apply ih
        intro id member
        rcases List.mem_cons.mp member with rfl | member
        · exact earlier
        · exact earlier.trans (below id member)

/-- The IDs on a stack are different and name mutations. -/
structure Stacked (mutations : List PlannedMutation) (stack : List MutationId) : Prop where
  distinct : stack.Nodup
  known : ∀ id ∈ stack, id ∈ mutations.map PlannedMutation.mutationId

theorem Stacked.length_le {stack : List MutationId} (stacked : Stacked mutations stack) :
    stack.length ≤ mutations.length := by
  have inside := stacked.distinct.length_le_of_subset stacked.known
  rwa [List.length_map] at inside

theorem Stacked.push {stack : List MutationId} (stacked : Stacked mutations stack)
    {current : MutationId} (fresh : current ∉ stack) {mutation : PlannedMutation}
    (found : mutations.find? (fun item => item.mutationId == current) = some mutation) :
    Stacked mutations (current :: stack) := by
  have own : mutation.mutationId = current := by simpa using List.find?_some found
  constructor
  · exact List.nodup_cons.mpr ⟨fresh, stacked.distinct⟩
  · intro id member
    rcases List.mem_cons.mp member with rfl | member
    · exact List.mem_map.mpr ⟨mutation, List.mem_of_find?_eq_some found, own⟩
    · exact stacked.known id member

end Search

/-! ## Ordered plans -/

namespace Plan

variable {plan : Plan}

/-- The mutations of a plan are in dependency order. -/
structure Ordered (plan : Plan) : Prop where
  distinct : (plan.mutations.map PlannedMutation.mutationId).Nodup
  once : ∀ mutation ∈ plan.mutations, mutation.dependencies.Nodup
  known : ∀ mutation ∈ plan.mutations, ∀ dependency ∈ mutation.dependencies,
    ∃ other ∈ plan.mutations, other.mutationId = dependency
  before : ∀ (index : Nat) mutation, plan.mutations[index]? = some mutation →
    ∀ dependency ∈ mutation.dependencies, ∀ (place : Nat) other,
      plan.mutations[place]? = some other → other.mutationId = dependency → place < index

/-- A mutation of the plan with the first ID depends on the second ID. -/
def DependsOn (plan : Plan) (id dependency : MutationId) : Prop :=
  ∃ mutation ∈ plan.mutations, mutation.mutationId = id ∧ dependency ∈ mutation.dependencies

theorem validateMutation_eq_ok_iff {index : Nat} {mutation : PlannedMutation} :
    plan.validateMutation index mutation = .ok () ↔
      (∀ other ∈ plan.mutations.take index, other.mutationId ≠ mutation.mutationId) ∧
        ∀ dependency ∈ mutation.dependencies, mutation.dependencies.count dependency ≤ 1 ∧
          ∃ other ∈ plan.mutations, other.mutationId = dependency := by
  simp only [validateMutation, guard_eq_ok_iff, ite_throw_eq_ok_iff, forM_eq_ok_iff]
  simp [pure, Except.pure]

theorem validateOrder_eq_ok_iff {index : Nat} {mutation : PlannedMutation} :
    plan.validateOrder index mutation = .ok () ↔
      ∀ dependency ∈ mutation.dependencies, placeOf plan.mutations dependency < index := by
  simp only [validateOrder, forM_eq_ok_iff, ite_throw_eq_ok_iff]
  simp [placeOf, pure, Except.pure]

/-- The checks on the items come before those on the mutations. -/
theorem validate_eq (plan : Plan) : plan.validate =
    (if !plan.items.isEmpty then plan.validateItems else pure ()) >>= fun _ =>
      (plan.mutations.zipIdx.forM fun (mutation, index) => plan.validateMutation index mutation)
        >>= fun _ =>
      (plan.mutations.forM fun mutation =>
        if reachesCycle plan.mutations plan.mutations.length mutation.mutationId [] then
          throw (((SysboostError.new .planningError
            "plan dependency graph contains a cycle"
            ).withStage .plan).withMutation mutation.mutationId)
        else pure ()) >>= fun _ =>
      plan.mutations.zipIdx.forM fun (mutation, index) => plan.validateOrder index mutation := by
  unfold validate
  cases plan.items.isEmpty <;> rfl

/-- The checks that a plan passes. -/
theorem validate_eq_ok_iff :
    plan.validate = .ok () ↔
      (plan.items ≠ [] → plan.validateItems = .ok ()) ∧
      (∀ (index : Nat) mutation, plan.mutations[index]? = some mutation →
        plan.validateMutation index mutation = .ok ()) ∧
      (∀ mutation ∈ plan.mutations,
        reachesCycle plan.mutations plan.mutations.length mutation.mutationId [] = false) ∧
      ∀ (index : Nat) mutation, plan.mutations[index]? = some mutation →
        plan.validateOrder index mutation = .ok () := by
  have numbered {check : Nat → PlannedMutation → Except SysboostError Unit} :
      plan.mutations.zipIdx.forM (fun (mutation, index) => check index mutation) = .ok () ↔
        ∀ (index : Nat) mutation, plan.mutations[index]? = some mutation →
          check index mutation = .ok () := by
    rw [forM_eq_ok_iff]
    constructor
    · exact fun each index mutation at' =>
        each (mutation, index) (List.mem_zipIdx_iff_getElem?.mpr at')
    · exact fun each (mutation, index) member =>
        each index mutation (List.mem_zipIdx_iff_getElem?.mp member)
  have cycles : plan.mutations.forM (fun mutation =>
      if reachesCycle plan.mutations plan.mutations.length mutation.mutationId [] then
        (throw (((SysboostError.new .planningError
          "plan dependency graph contains a cycle"
          ).withStage .plan).withMutation mutation.mutationId) : Except SysboostError Unit)
      else pure ()) = .ok () ↔ ∀ mutation ∈ plan.mutations,
        reachesCycle plan.mutations plan.mutations.length mutation.mutationId [] = false := by
    simp only [forM_eq_ok_iff, ite_throw_eq_ok_iff]
    simp [pure, Except.pure]
  rw [← numbered, ← numbered, ← cycles]
  have items : (if !plan.items.isEmpty then plan.validateItems else pure ()) = .ok () ↔
      (plan.items ≠ [] → plan.validateItems = .ok ()) := by
    cases plan.items with
    | nil => simp [pure, Except.pure]
    | cons => simp
  rw [← items]
  constructor
  · intro ok
    obtain ⟨⟨⟩, listed, ok⟩ := bind_eq_ok_iff.mp (validate_eq plan ▸ ok)
    obtain ⟨⟨⟩, checked, ok⟩ := bind_eq_ok_iff.mp ok
    obtain ⟨⟨⟩, searched, ordered⟩ := bind_eq_ok_iff.mp ok
    exact ⟨listed, checked, searched, ordered⟩
  · rintro ⟨listed, checked, searched, ordered⟩
    rw [validate_eq]
    exact bind_eq_ok_iff.mpr ⟨(), listed, bind_eq_ok_iff.mpr ⟨(), checked,
      bind_eq_ok_iff.mpr ⟨(), searched, ordered⟩⟩⟩

theorem descends_of_validateOrder (ordered : ∀ (index : Nat) mutation,
    plan.mutations[index]? = some mutation → plan.validateOrder index mutation = .ok ()) :
    Descends plan.mutations :=
  fun index mutation at' => validateOrder_eq_ok_iff.mp (ordered index mutation at')

/-- With different IDs an ID has one place. -/
theorem placeOf_eq (distinct : (plan.mutations.map PlannedMutation.mutationId).Nodup)
    {index : Nat} {mutation : PlannedMutation} (at' : plan.mutations[index]? = some mutation) :
    placeOf plan.mutations mutation.mutationId = index := by
  obtain ⟨bound, rfl⟩ := List.getElem?_eq_some_iff.mp at'
  rw [placeOf, List.findIdx_eq bound]
  constructor
  · simp
  · intro earlier less
    have differ := List.pairwise_iff_getElem.mp distinct earlier index
      (by rw [List.length_map]; omega) (by rwa [List.length_map]) less
    simpa using differ

/-- In an ordered plan every dependency has an earlier place. -/
theorem Ordered.descends (ordered : plan.Ordered) : Descends plan.mutations := by
  intro index mutation at' dependency depends
  obtain ⟨other, member, rfl⟩ :=
    ordered.known mutation (List.mem_of_getElem? at') dependency depends
  obtain ⟨place, there⟩ := List.mem_iff_getElem?.mp member
  rw [placeOf_eq ordered.distinct there]
  exact ordered.before index mutation at' _ depends place other there rfl

/-- What holds of every item and those before it holds of all pairs. -/
theorem pairwise_iff_take {α : Type} {R : α → α → Prop} {items : List α} :
    items.Pairwise R ↔ ∀ (index : Nat) item, items[index]? = some item →
      ∀ other ∈ items.take index, R other item := by
  rw [List.pairwise_iff_getElem]
  constructor
  · intro related index item at' other member
    obtain ⟨bound, rfl⟩ := List.getElem?_eq_some_iff.mp at'
    obtain ⟨earlier, less, rfl⟩ := List.mem_take_iff_getElem.mp member
    exact related earlier index (by omega) bound (by omega)
  · intro related earlier index bound bound' less
    exact related index _ (List.getElem?_eq_getElem bound') _
      (List.mem_take_iff_getElem.mpr ⟨earlier, by omega, rfl⟩)

theorem distinct_iff :
    (plan.mutations.map PlannedMutation.mutationId).Nodup ↔
      ∀ (index : Nat) mutation, plan.mutations[index]? = some mutation →
        ∀ other ∈ plan.mutations.take index, other.mutationId ≠ mutation.mutationId := by
  rw [List.Nodup, List.pairwise_map, pairwise_iff_take]

/-- The check that no two items conflict. -/
theorem conflictCheck_eq_ok_iff : plan.items.zipIdx.forM (fun (item, index) =>
    if (plan.items.take index).any fun previous => conflicts previous item then
      (throw ((SysboostError.new .planningError
        "plan contains conflicting mutations for one target control").withStage .plan) :
          Except SysboostError Unit)
    else pure ()) = .ok () ↔
      plan.items.Pairwise fun previous item => conflicts previous item = false := by
  rw [forM_eq_ok_iff, pairwise_iff_take]
  simp only [ite_throw_eq_ok_iff, List.any_eq_true, not_exists, not_and, Bool.not_eq_true]
  constructor
  · intro each index item at'
    exact (each (item, index) (List.mem_zipIdx_iff_getElem?.mpr at')).1
  · rintro each ⟨item, index⟩ member
    exact ⟨each index item (List.mem_zipIdx_iff_getElem?.mp member), rfl⟩

/-- The checks on the items, where no two of them conflict. -/
theorem validateItems_eq_ok_iff :
    plan.validateItems = .ok () ↔
      (∀ item ∈ plan.items, item.validate = .ok ()) ∧
      sortMutations (plan.items.filterMap PlanItem.mutation) = plan.mutations ∧
      plan.items.Pairwise fun previous item => conflicts previous item = false := by
  rw [← conflictCheck_eq_ok_iff, ← forM_eq_ok_iff]
  constructor
  · intro ok
    obtain ⟨⟨⟩, each, ok⟩ := bind_eq_ok_iff.mp ok
    obtain ⟨same, free⟩ := guard_eq_ok_iff.mp ok
    exact ⟨each, not_ne_iff.mp same, free⟩
  · rintro ⟨each, same, free⟩
    exact bind_eq_ok_iff.mpr ⟨(), each, guard_eq_ok_iff.mpr ⟨not_ne_iff.mpr same, free⟩⟩

theorem validate_of_ordered (items : plan.items ≠ [] → plan.validateItems = .ok ())
    (ordered : plan.Ordered) : plan.validate = .ok () := by
  refine validate_eq_ok_iff.mpr ⟨items, ?_, ?_, ?_⟩
  · intro index mutation at'
    have member := List.mem_of_getElem? at'
    refine validateMutation_eq_ok_iff.mpr ⟨distinct_iff.mp ordered.distinct index mutation at',
      fun dependency depends => ⟨?_, ordered.known mutation member dependency depends⟩⟩
    exact List.nodup_iff_count_le_one.mp (ordered.once mutation member) dependency
  · exact fun mutation _ => reachesCycle_eq_false ordered.descends (by simp)
  · exact fun index mutation at' =>
      validateOrder_eq_ok_iff.mpr (ordered.descends index mutation at')

theorem ordered_of_validate (valid : plan.validate = .ok ()) : plan.Ordered := by
  obtain ⟨-, checked, -, inOrder⟩ := validate_eq_ok_iff.mp valid
  have checks {index : Nat} {mutation : PlannedMutation}
      (at' : plan.mutations[index]? = some mutation) :=
    validateMutation_eq_ok_iff.mp (checked index mutation at')
  have distinct : (plan.mutations.map PlannedMutation.mutationId).Nodup :=
    distinct_iff.mpr fun index mutation at' => (checks at').1
  constructor
  · exact distinct
  · intro mutation member
    obtain ⟨index, at'⟩ := List.mem_iff_getElem?.mp member
    refine List.nodup_iff_count_le_one.mpr fun dependency => ?_
    by_cases depends : dependency ∈ mutation.dependencies
    · exact ((checks at').2 dependency depends).1
    · rw [List.count_eq_zero_of_not_mem depends]
      exact Nat.zero_le 1
  · intro mutation member dependency depends
    obtain ⟨index, at'⟩ := List.mem_iff_getElem?.mp member
    exact ((checks at').2 dependency depends).2
  · rintro index mutation at' dependency depends place other there rfl
    rw [← placeOf_eq distinct there]
    exact descends_of_validateOrder inOrder index mutation at' _ depends

/-- The items of a complete plan are valid. -/
theorem validate_of_validateComplete (valid : plan.validateComplete = .ok ()) {item : PlanItem}
    (member : item ∈ plan.items) : item.validate = .ok () := by
  unfold validateComplete at valid
  split at valid
  · cases valid
  · have listed := (validate_eq_ok_iff.mp valid).1 (List.ne_nil_of_mem member)
    exact (validateItems_eq_ok_iff.mp listed).1 item member

/-- In an ordered plan no mutation depends on itself, however indirectly. -/
theorem Ordered.acyclic (ordered : plan.Ordered) : Acyclic plan.DependsOn := by
  apply Acyclic.of_rank (placeOf plan.mutations)
  rintro _ dependency ⟨mutation, member, rfl, depends⟩
  obtain ⟨index, at'⟩ := List.mem_iff_getElem?.mp member
  rw [placeOf_eq ordered.distinct at']
  exact ordered.descends index mutation at' dependency depends

/-- Validation accepts exactly the ordered plans: the cycle search refuses none
that the order check accepts, and no cyclic plan is accepted. -/
theorem validate_iff_ordered (plan : Plan) (bare : plan.items = []) :
    (plan.validate = .ok () ↔ plan.Ordered) ∧
      ((∀ (index : Nat) mutation, plan.mutations[index]? = some mutation →
          plan.validateOrder index mutation = .ok ()) →
        ∀ mutation ∈ plan.mutations,
          reachesCycle plan.mutations plan.mutations.length mutation.mutationId [] = false) ∧
      (plan.validate = .ok () → Acyclic plan.DependsOn) := by
  refine ⟨⟨ordered_of_validate, validate_of_ordered fun filled => absurd bare filled⟩, ?_, ?_⟩
  · exact fun inOrder mutation _ =>
      reachesCycle_eq_false (descends_of_validateOrder inOrder) (by simp)
  · exact fun valid => (ordered_of_validate valid).acyclic

/-- A boost mutation with an ID and dependencies. -/
def boostMutation (id : UInt32) (dependencies : List MutationId) : PlannedMutation where
  mutationId := ⟨id⟩
  capability := CapabilityIds.cpuBoost
  target := ⟨"system.cpu.boost", by decide⟩
  kind := .cpuBoost .enabled
  desired := .cpuBoost .enabled
  precondition := ⟨.fill 32 0⟩
  equality := .scalarExact
  dependencies := dependencies
  rollback := ⟨.scalarExact, .compareAndRestore⟩

/-- Two mutations, the second of which depends on the first. -/
def pair : Plan where
  id := ⟨.fill 16 1⟩
  planDigest := .fill 32 2
  policyDigest := .fill 32 3
  capabilityDigest := .fill 32 4
  mutations := [boostMutation 1 [], boostMutation 2 [⟨1⟩]]
  items := []
  profile := none

theorem validate_iff_ordered_pair : pair.items = [] ∧ pair.Ordered :=
  ⟨rfl, (validate_iff_ordered pair rfl).1.mp (by decide)⟩

end Plan

end Sysboost.Core
