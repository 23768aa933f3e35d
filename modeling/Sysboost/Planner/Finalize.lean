import Sysboost.Planner.Candidate

/-!
# Ordering the mutations of a plan

Mutations are numbered in a topological order of their dependencies, the
smallest key first among those that are ready.
-/

namespace Sysboost.Planner

open Sysboost.Core Ordered

/-- Result of policy resolution before digesting it into a transaction plan. -/
structure PolicyResolution where
  profile : Profile
  items : List PlanItem
deriving DecidableEq

/-- An error about a dependency of a candidate. -/
def dependencyError (message : String) (candidate : Candidate) (target : TargetId) :
    SysboostError :=
  (((SysboostError.new .planningError message).withStage .plan).withCapability
    candidate.item.capability).withTarget target

/-! ## Dependencies -/

/-- Find the mutation that a dependency names on the same target; a dependency
that is in place already needs none. -/
def linkDependency (candidates : List Candidate) (index : Nat) (candidate : Candidate)
    (target : TargetId) (dependency : OperationId) : Except SysboostError (Option Nat) :=
  match candidates.zipIdx.find? fun (other, _) =>
      other.item.target = some target && other.item.operation = dependency with
  | none =>
      .error (dependencyError "planned operation depends on a missing executable operation"
        candidate target)
  | some (other, position) =>
      if !other.item.action.isExecutable then
        if other.item.action = .noOp || other.item.action = .preserved then .ok none
        else
          .error (dependencyError
            "planned operation depends on an operation that was not admitted" candidate target)
      else if position = index then
        .error ((SysboostError.new .planningError "planned operation depends on itself").withStage
          .plan)
      else .ok (some position)

/-- The mutations on which one mutation depends. -/
def linkCandidate (candidates : List Candidate) (index : Nat) (candidate : Candidate) :
    Except SysboostError (List Nat) :=
  match candidate.item.target with
  | none => .ok []
  | some target => do
      let links ← candidate.dependencies.mapM
        (linkDependency candidates index candidate target)
      return links.filterMap id

/-- A candidate with its index and its draft. -/
structure Indexed where
  candidate : Candidate
  index : Nat
  draft : MutationDraft

/-- The candidates that carry a mutation, in the order of their keys. -/
def mutationCandidates (candidates : List Candidate) : List Indexed :=
  sortBy (fun indexed : Indexed => indexed.candidate.key)
    (candidates.zipIdx.filterMap fun (candidate, index) =>
      candidate.mutation.map fun draft => ⟨candidate, index, draft⟩)

/-- A mutation with the indices of the mutations on which it depends. -/
structure Linked extends Indexed where
  dependencies : List Nat

/-- Link every mutation. -/
def linkAll (candidates : List Candidate) : Except SysboostError (List Linked) :=
  (mutationCandidates candidates).mapM fun indexed => do
    return { indexed with
      dependencies := ← linkCandidate candidates indexed.index indexed.candidate }

/-! ## The schedule -/

/-- A mutation that waits for some of its dependencies. -/
structure Waiting extends Linked where
  degree : Nat

/-- The ready mutation with the smallest key; those that wait for none are
ready. -/
def popReady (waiting : List Waiting) : Option Waiting :=
  (waiting.filter fun entry => entry.degree = 0).argmin fun entry =>
    (toLex (entry.candidate.key, entry.index) : CandidateKey ×ₗ ℕ)

/-- Drop a scheduled mutation; those that depend on it wait for one less. -/
def release (scheduled : Waiting) (waiting : List Waiting) : List Waiting :=
  (waiting.filter fun entry => entry.index ≠ scheduled.index).map fun entry =>
    if scheduled.index ∈ entry.dependencies then { entry with degree := entry.degree - 1 }
    else entry

/-- `while let Some(index) = ready.pop_first()`.  Every round schedules a
waiting mutation, so as many rounds as there are mutations suffice. -/
def schedule : Nat → List Waiting → List Linked
  | 0, _ => []
  | rounds + 1, waiting =>
      match popReady waiting with
      | none => []
      | some entry => entry.toLinked :: schedule rounds (release entry waiting)

/-- The mutations in a topological order; those on a cycle are missing. -/
def topological (linked : List Linked) : List Linked :=
  schedule linked.length (linked.map fun entry =>
    { entry with degree := entry.dependencies.length })

/-! ## Numbering -/

/-- The ID of the mutation at an index of the candidates. -/
def assignedId (ordered : List Linked) (index : Nat) : MutationId :=
  ⟨UInt32.ofNat (ordered.findIdx (fun entry => entry.index = index) + 1)⟩

/-- Turn a draft into a mutation. -/
def planMutation (ordered : List Linked) (entry : Linked) : Except SysboostError PlannedMutation :=
  PlannedMutation.new (assignedId ordered entry.index) entry.draft.capability entry.draft.target
    entry.draft.kind entry.draft.desired entry.draft.precondition entry.draft.equality
    (entry.dependencies.map (assignedId ordered))

/-- Put a planned mutation into the item of its candidate. -/
def completeItem (planned : List (Linked × PlannedMutation)) (candidate : Candidate)
    (index : Nat) : Candidate :=
  match planned.find? fun (entry, _) => entry.index = index with
  | none => candidate
  | some (entry, mutation) =>
      { candidate with
        item := { candidate.item with
          dependencies := mutation.dependencies
          mutation := some mutation
          targetIdentity := some entry.draft.targetIdentity } }

def finalizeCandidates (policy : PlannerPolicy) (candidates : Candidates) :
    Except SysboostError PolicyResolution := do
  let candidates := candidates.values
  let linked ← linkAll candidates
  let ordered := topological linked
  if ordered.length ≠ linked.length then
    throw ((SysboostError.new .planningError
      "planned operation dependencies contain a cycle").withStage .plan)
  let planned ← ordered.mapM fun entry => do return (entry, ← planMutation ordered entry)
  let completed := candidates.zipIdx.map fun (candidate, index) =>
    completeItem planned candidate index
  let sorted := sortBy (fun candidate : Candidate =>
    (toLex (candidate.key, candidate.item.action.ctorIdx) : CandidateKey ×ₗ ℕ)) completed
  return ⟨policy.profile, sorted.map Candidate.item⟩

end Sysboost.Planner
