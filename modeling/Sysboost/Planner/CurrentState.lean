import Sysboost.Ordered.Sorting
import Sysboost.Planner.Policy
import Mathlib.Data.Prod.Lex

/-!
# Current-state inventories

A fact is known with the fingerprint of its value.  An inventory is sorted, and
two facts about the same control of the same target must be the same fact.
-/

namespace Sysboost.Planner

open Sysboost.Core Ordered

/-- A fact about a value that was observed. -/
def CurrentStateFact.known (capability : CapabilityId) (target : TargetId)
    (control : ControlId) (value : PlanValue) (fingerprint : StateFingerprint) :
    CurrentStateFact where
  capability := capability
  target := target
  control := control
  value := .known value
  fingerprint := some fingerprint
  targetIdentity := none
  supportedValues := []
  evidence := []
  typedTarget := none

/-- The place of a fact in an inventory. -/
def CurrentStateFact.place (fact : CurrentStateFact) : CapabilityId ×ₗ TargetId ×ₗ ℕ :=
  toLex (fact.capability, toLex (fact.target, fact.control.ctorIdx))

/-- The loop over the neighbours: a fact that contradicts its predecessor. -/
def contradictory : List CurrentStateFact → Option CurrentStateFact
  | previous :: current :: rest =>
      if previous.place = current.place ∧ previous ≠ current then some current
      else contradictory (current :: rest)
  | _ => none

def CurrentState.new (observedAt : Timestamp) (facts : List CurrentStateFact) :
    Except SysboostError CurrentState :=
  let sorted := sortBy CurrentStateFact.place facts
  match contradictory sorted with
  | some fact =>
      .error ((((SysboostError.new .planningError
        "current-state inventory contains contradictory duplicate facts").withStage
          .plan).withCapability fact.capability).withTarget fact.target)
  | none => .ok ⟨observedAt, dropRepeats sorted⟩

/-- An inventory holds the facts it is built from. -/
theorem CurrentState.mem_facts_of_new {observedAt : Timestamp} {facts : List CurrentStateFact}
    {state : CurrentState} (ok : CurrentState.new observedAt facts = .ok state)
    {fact : CurrentStateFact} : fact ∈ state.facts ↔ fact ∈ facts := by
  simp only [CurrentState.new] at ok
  split at ok
  · cases ok
  · cases ok
    rw [mem_dropRepeats, mem_sortBy]

end Sysboost.Planner
