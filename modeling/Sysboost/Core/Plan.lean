import Sysboost.Core.PlanItem

/-!
# Plans

A plan lists its mutations in dependency order.  `Plan.validate` makes, in the
order of the source, the checks on decision items, identifiers, dependency
references, cycles and dependency order.
-/

namespace Sysboost.Core

open ByteCodec

/-- Deterministic mutation plan and evidence digests. -/
structure Plan where
  id : PlanId
  planDigest : Block 32
  policyDigest : Block 32
  capabilityDigest : Block 32
  mutations : List PlannedMutation
  items : List PlanItem
  profile : Option Profile
deriving DecidableEq

/-- Depth-first search for a dependency cycle through `current`.

An identifier pushed on `stack` names a mutation and is not on the stack yet,
so `fuel` counts the identifiers that can still be pushed: with one unit for
each mutation the search never stops for lack of it. -/
def reachesCycle (mutations : List PlannedMutation) :
    Nat → MutationId → List MutationId → Bool
  | fuel, current, stack =>
      if current ∈ stack then true
      else
        match mutations.find? fun item => item.mutationId == current with
        | none => false
        | some mutation =>
            match fuel with
            | 0 => false
            | fuel + 1 =>
                mutation.dependencies.any fun dependency =>
                  reachesCycle mutations fuel dependency (current :: stack)

namespace Plan

/-- `sort_by_key` on mutation IDs, a stable sort. -/
def sortMutations (mutations : List PlannedMutation) : List PlannedMutation :=
  mutations.insertionSort fun first second => first.mutationId.get ≤ second.mutationId.get

/-- Two executable items select the same target and control. -/
def conflicts (previous item : PlanItem) : Bool :=
  item.action.isExecutable && item.target.isSome && previous.action.isExecutable &&
    previous.target == item.target && previous.control == item.control

/-- Checks made only when the plan carries decision items. -/
def validateItems (plan : Plan) : Except SysboostError Unit := do
  plan.items.forM PlanItem.validate
  if sortMutations (plan.items.filterMap PlanItem.mutation) ≠ plan.mutations then
    throw ((SysboostError.new .planningError
      "plan mutation set does not match its executable decision items").withStage .plan)
  plan.items.zipIdx.forM fun (item, index) =>
    if (plan.items.take index).any fun previous => conflicts previous item then
      throw ((SysboostError.new .planningError
        "plan contains conflicting mutations for one target control").withStage .plan)
    else pure ()

/-- Checks of one mutation against the identifiers of the plan. -/
def validateMutation (plan : Plan) (index : Nat) (mutation : PlannedMutation) :
    Except SysboostError Unit := do
  if (plan.mutations.take index).any fun other => other.mutationId == mutation.mutationId then
    throw (((SysboostError.new .planningError
      "plan contains duplicate mutation IDs").withStage .plan).withMutation mutation.mutationId)
  mutation.dependencies.forM fun dependency => do
    if mutation.dependencies.count dependency > 1 then
      throw (((SysboostError.new .planningError
        "plan contains a duplicate mutation dependency"
        ).withStage .plan).withMutation mutation.mutationId)
    if !plan.mutations.any fun other => other.mutationId == dependency then
      throw (((SysboostError.new .planningError
        "plan dependency does not refer to a mutation in the plan"
        ).withStage .plan).withMutation mutation.mutationId)

/-- Every dependency of the mutation at `index` stands before it. -/
def validateOrder (plan : Plan) (index : Nat) (mutation : PlannedMutation) :
    Except SysboostError Unit :=
  mutation.dependencies.forM fun dependency =>
    if index ≤ plan.mutations.findIdx fun candidate => candidate.mutationId == dependency then
      throw (((SysboostError.new .planningError
        "plan dependency appears after the mutation that requires it"
        ).withStage .plan).withMutation mutation.mutationId)
    else pure ()

/-- Validate decisions, uniqueness, dependency references, and dependency
order. -/
def validate (plan : Plan) : Except SysboostError Unit := do
  if !plan.items.isEmpty then
    plan.validateItems
  plan.mutations.zipIdx.forM fun (mutation, index) => plan.validateMutation index mutation
  plan.mutations.forM fun mutation =>
    if reachesCycle plan.mutations plan.mutations.length mutation.mutationId [] then
      throw (((SysboostError.new .planningError
        "plan dependency graph contains a cycle"
        ).withStage .plan).withMutation mutation.mutationId)
    else pure ()
  plan.mutations.zipIdx.forM fun (mutation, index) => plan.validateOrder index mutation

/-- Validate that this plan uses the complete decision model. -/
def validateComplete (plan : Plan) : Except SysboostError Unit :=
  if plan.items.isEmpty && !plan.mutations.isEmpty then
    .error ((SysboostError.new .planningError
      "complete plan validation requires explainable decision items").withStage .plan)
  else plan.validate

/-- Construct a complete plan from explainable decisions. -/
def fromItems (id : PlanId) (planDigest policyDigest capabilityDigest : Block 32)
    (profile : Profile) (items : List PlanItem) : Except SysboostError Plan := do
  let plan : Plan := {
    id, planDigest, policyDigest, capabilityDigest, items
    mutations := sortMutations (items.filterMap PlanItem.mutation)
    profile := some profile }
  plan.validateComplete
  return plan

end Plan

end Sysboost.Core
