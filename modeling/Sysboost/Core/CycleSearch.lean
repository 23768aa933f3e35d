import Sysboost.Core.PlanOrder
import Sysboost.Ordered.CycleSearch

/-!
# The cycle search

The recursion of `reaches_cycle` is a depth-first search over the dependencies
of the mutations.  It ends from every start, and it finds a cycle exactly when
one can be reached.
-/

namespace Sysboost.Core

open Ordered

variable {mutations : List PlannedMutation}

/-- The dependencies of the first mutation with an ID, the IDs that
`reaches_cycle` visits next. -/
def dependenciesOf (mutations : List PlannedMutation) (id : MutationId) :
    Option (List MutationId) :=
  (mutations.find? fun item => item.mutationId == id).map PlannedMutation.dependencies

/-- With fuel for every mutation that can still be pushed, the search by fuel
is the search without. -/
theorem search_reachesCycle {fuel : Nat} {current : MutationId} {stack : List MutationId}
    (stacked : Stacked mutations stack) (enough : mutations.length ≤ fuel + stack.length) :
    Search (dependenciesOf mutations) current stack (reachesCycle mutations fuel current stack) := by
  induction fuel generalizing current stack with
  | zero =>
      unfold reachesCycle
      by_cases again : current ∈ stack
      · rw [if_pos again]
        exact .again again
      · rw [if_neg again]
        split
        next missing => exact .unknown again (by rw [dependenciesOf, missing]; rfl)
        next mutation found =>
          -- A further ID would not fit on the stack.
          have fits := (stacked.push again found).length_le
          rw [List.length_cons] at fits
          omega
  | succ fuel ih =>
      rw [reachesCycle]
      by_cases again : current ∈ stack
      · rw [if_pos again]
        exact .again again
      · rw [if_neg again]
        split
        next missing => exact .unknown again (by rw [dependenciesOf, missing]; rfl)
        next mutation found =>
          refine .visit again (by rw [dependenciesOf, found]; rfl) (SearchAny.of_any ?_)
          intro dependency _
          exact ih (stacked.push again found) (by rw [List.length_cons]; omega)

namespace Plan

variable {plan : Plan}

/-- With different IDs the search goes from an ID to those it depends on. -/
theorem leads_iff_dependsOn (distinct : (plan.mutations.map PlannedMutation.mutationId).Nodup)
    {id dependency : MutationId} :
    Leads (dependenciesOf plan.mutations) id dependency ↔ plan.DependsOn id dependency := by
  constructor
  · rintro ⟨dependencies, known, member⟩
    obtain ⟨mutation, found, rfl⟩ := Option.map_eq_some_iff.mp known
    have own : mutation.mutationId = id := by simpa using List.find?_some found
    exact ⟨mutation, List.mem_of_find?_eq_some found, own, member⟩
  · rintro ⟨mutation, member, rfl, depends⟩
    obtain ⟨index, at'⟩ := List.mem_iff_getElem?.mp member
    have found : plan.mutations.find? (fun item => item.mutationId == mutation.mutationId) =
        some mutation := by
      rw [List.find?_eq_getElem?_findIdx, ← placeOf, placeOf_eq distinct at', at']
    exact ⟨mutation.dependencies, by rw [dependenciesOf, found]; rfl, depends⟩

/-- The search for a cycle ends from every start, and its answer is `true` just
when the start reaches a mutation that depends on itself, however indirectly. -/
theorem reachesCycle_exact (plan : Plan)
    (distinct : (plan.mutations.map PlannedMutation.mutationId).Nodup) (start : MutationId) :
    (∃ result, Search (dependenciesOf plan.mutations) start [] result) ∧
      ∀ result, Search (dependenciesOf plan.mutations) start [] result →
        result = reachesCycle plan.mutations plan.mutations.length start [] ∧
          (result = true ↔ ∃ id, Relation.ReflTransGen plan.DependsOn start id ∧
            Relation.TransGen plan.DependsOn id id) := by
  have same : Leads (dependenciesOf plan.mutations) = plan.DependsOn := by
    funext id dependency
    exact propext (leads_iff_dependsOn distinct)
  have search : Search (dependenciesOf plan.mutations) start []
      (reachesCycle plan.mutations plan.mutations.length start []) :=
    search_reachesCycle ⟨List.nodup_nil, by simp⟩ (by simp)
  refine ⟨⟨_, search⟩, fun result searched => ⟨?_, ?_⟩⟩
  · exact Bool.eq_iff_iff.mpr (searched.result_iff.trans search.result_iff.symm)
  · rw [searched.result_iff, Cyclic, same]

/-- A mutation that depends on itself, one that depends on it, and one that
depends on a mutation outside the plan. -/
def looped : Plan :=
  { pair with mutations := [boostMutation 1 [⟨1⟩], boostMutation 2 [⟨3⟩, ⟨1⟩],
      boostMutation 3 [⟨9⟩]] }

theorem reachesCycle_exact_looped :
    (∃ id, Relation.ReflTransGen looped.DependsOn ⟨2⟩ id ∧
        Relation.TransGen looped.DependsOn id id) ∧
      ¬∃ id, Relation.ReflTransGen looped.DependsOn ⟨3⟩ id ∧
        Relation.TransGen looped.DependsOn id id := by
  constructor
  · obtain ⟨⟨result, searched⟩, exact'⟩ := reachesCycle_exact looped (by decide) ⟨2⟩
    exact (exact' result searched).2.mp ((exact' result searched).1.trans (by decide))
  · obtain ⟨⟨result, searched⟩, exact'⟩ := reachesCycle_exact looped (by decide) ⟨3⟩
    intro cyclic
    have answer := (exact' result searched).2.mpr cyclic
    rw [(exact' result searched).1] at answer
    exact absurd answer (by decide)

end Plan

end Sysboost.Core
