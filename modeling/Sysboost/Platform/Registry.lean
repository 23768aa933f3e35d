import Sysboost.Ordered.Sorting
import Sysboost.Platform.Privilege
import Sysboost.Platform.Testkit
import Sysboost.Results.Loops

/-!
# The registry of reviewed backends

A backend is known by its descriptor.  The registry rejects a second owner of an
identity, of a capability or of an operation, and dispatches each mutation by
its operation and capability; the admission of a plan asks it only whether some
backend owns the identity that the item names.
-/

namespace Sysboost.Platform

open Sysboost.Core Interaction Results

universe u

/-- Compiled-in backend metadata. -/
structure BackendDescriptor where
  id : BackendId
  version : String
  capabilities : List CapabilityId
  operations : List OperationId
deriving DecidableEq

namespace BackendDescriptor

/-- The condition of `backend_for`. -/
def lists (descriptor : BackendDescriptor) (mutation : PlannedMutation) : Bool :=
  descriptor.operations.contains mutation.kind.operationId &&
    descriptor.capabilities.contains mutation.capability

theorem lists_iff {descriptor : BackendDescriptor} {mutation : PlannedMutation} :
    descriptor.lists mutation = true ↔
      mutation.kind.operationId ∈ descriptor.operations ∧
        mutation.capability ∈ descriptor.capabilities := by
  simp [lists]

end BackendDescriptor

/-- The admission side of a typed mutation backend; what it checks may depend on
the system it adapts. -/
structure MutationBackend (W : Type u) where
  descriptor : BackendDescriptor
  ownsBackend : BackendId → Bool
  validateTarget : PlannedMutation → TargetIdentity → W → Except SysboostError Unit × W
  validateAdmission : PlannedMutation → TargetIdentity → W → Except SysboostError Unit × W

namespace MutationBackend

variable {W : Type u}

/-- The default `validate_admission`. -/
def defaultAdmission (descriptor : BackendDescriptor)
    (validateTarget : PlannedMutation → TargetIdentity → W → Except SysboostError Unit × W)
    (mutation : PlannedMutation) (expected : TargetIdentity) (world : W) :
    Except SysboostError Unit × W :=
  if !descriptor.operations.contains mutation.kind.operationId then
    (.error (((SysboostError.new .unsupported
      "backend does not own the requested typed operation").withBackend
        descriptor.id).withMutation mutation.mutationId), world)
  else if !descriptor.capabilities.contains mutation.capability then
    (.error ((((SysboostError.new .unsupported
      "backend does not own the requested capability").withBackend
        descriptor.id).withCapability mutation.capability).withMutation mutation.mutationId), world)
  else validateTarget mutation expected world

/-- A backend that overrides `validate_target` only. -/
def withTargets (descriptor : BackendDescriptor)
    (validateTarget : PlannedMutation → TargetIdentity → W → Except SysboostError Unit × W) :
    MutationBackend W where
  descriptor := descriptor
  ownsBackend backend := descriptor.id = backend
  validateTarget := validateTarget
  validateAdmission := defaultAdmission descriptor validateTarget

/-- The engine's ports, with the backend behind the two calls of the admission. -/
def answer (backend : MutationBackend W)
    (engine : W → (call : HelperCall) → HelperAnswer call × W) (world : W) :
    (call : HelperCall) → HelperAnswer call × W
  | .ownsBackend id => (backend.ownsBackend id, world)
  | .validateAdmission mutation expected => backend.validateAdmission mutation expected world
  | call => engine world call

end MutationBackend

/-- Registry of reviewed, compiled-in backends. -/
structure BackendRegistry (W : Type u) where
  backends : List (MutationBackend W)
  descriptor : BackendDescriptor

namespace BackendRegistry

variable {W : Type u}

/-- Create an empty registry. -/
def new : BackendRegistry W :=
  ⟨[], ⟨⟨"sysboost.registry", rfl⟩, "1", [], []⟩⟩

/-- The checks of `register`, in the order of the source. -/
def refuseDuplicates (registry : BackendRegistry W) (descriptor : BackendDescriptor) :
    Except SysboostError Unit := do
  if registry.backends.any fun existing => existing.descriptor.id = descriptor.id then
    throw (.new .invariantViolation "duplicate backend registration")
  descriptor.capabilities.forM fun capability =>
    if registry.backends.any fun existing =>
        existing.descriptor.capabilities.contains capability then
      throw ((SysboostError.new .invariantViolation
        "duplicate capability ownership").withCapability capability)
    else pure ()
  descriptor.operations.forM fun operation =>
    if registry.backends.any fun existing =>
        existing.descriptor.operations.contains operation then
      throw (.new .invariantViolation "duplicate operation ownership")
    else pure ()

/-- Register a backend, rejecting duplicate ownership. -/
def register (registry : BackendRegistry W) (backend : MutationBackend W) :
    Except SysboostError (BackendRegistry W) :=
  (registry.refuseDuplicates backend.descriptor).map fun _ => {
    backends := registry.backends ++ [backend]
    descriptor := { registry.descriptor with
      capabilities := Ordered.sortBy id
        (registry.descriptor.capabilities ++ backend.descriptor.capabilities)
      operations := Ordered.sortBy id
        (registry.descriptor.operations ++ backend.descriptor.operations) } }

/-- The registry after a sequence of calls of `register`; a call that is
rejected leaves it as it was. -/
def built (calls : List (MutationBackend W)) : BackendRegistry W :=
  calls.foldl (fun registry backend => (registry.register backend).toOption.getD registry) new

def backendFor (registry : BackendRegistry W) (mutation : PlannedMutation) :
    Except SysboostError (MutationBackend W) :=
  match registry.backends.find? fun backend => backend.descriptor.lists mutation with
  | some backend => .ok backend
  | none =>
      .error (((SysboostError.new .unsupported
        "no registered backend owns the typed operation").withCapability
          mutation.capability).withMutation mutation.mutationId)

/-- `self.backend_for(mutation)?` and a check of that backend. -/
def dispatch (registry : BackendRegistry W) (mutation : PlannedMutation)
    (check : MutationBackend W → W → Except SysboostError Unit × W) (world : W) :
    Except SysboostError Unit × W :=
  match registry.backendFor mutation with
  | .error error => (.error error, world)
  | .ok backend => check backend world

/-- `impl MutationBackend for BackendRegistry`. -/
def toBackend (registry : BackendRegistry W) : MutationBackend W where
  descriptor := registry.descriptor
  ownsBackend id := registry.backends.any fun candidate => candidate.ownsBackend id
  validateTarget mutation expected :=
    registry.dispatch mutation fun backend => backend.validateTarget mutation expected
  validateAdmission mutation expected :=
    registry.dispatch mutation fun backend => backend.validateAdmission mutation expected

/-! ## Exclusive ownership -/

/-- Two backends own nothing in common. -/
structure Apart (first second : BackendDescriptor) : Prop where
  ids : first.id ≠ second.id
  capabilities : ∀ capability ∈ second.capabilities, capability ∉ first.capabilities
  operations : ∀ operation ∈ second.operations, operation ∉ first.operations

/-- No identity, capability or operation has two owners. -/
def Exclusive (registry : BackendRegistry W) : Prop :=
  registry.backends.Pairwise fun first second => Apart first.descriptor second.descriptor

theorem Apart.not_lists {first second : BackendDescriptor} (apart : Apart first second)
    {mutation : PlannedMutation} (known : first.lists mutation = true) :
    second.lists mutation = false := by
  rw [BackendDescriptor.lists_iff] at known
  rw [Bool.eq_false_iff]
  intro both
  exact apart.operations _ (BackendDescriptor.lists_iff.mp both).1 known.1

/-- A check that refuses what a registered backend has tells that none has it. -/
theorem not_of_refused {backends : List (MutationBackend W)} {owned : MutationBackend W → Bool}
    {error : SysboostError}
    (passed : (if backends.any owned then throw error else pure () : Except SysboostError Unit) =
      .ok ())
    {existing : MutationBackend W} (known : existing ∈ backends) : ¬owned existing = true := by
  intro holds
  rw [if_pos (List.any_eq_true.mpr ⟨existing, known, holds⟩)] at passed
  cases passed

/-- Checks that have passed leave nothing owned twice. -/
theorem apart_of_refuseDuplicates {registry : BackendRegistry W} {descriptor : BackendDescriptor}
    (ok : registry.refuseDuplicates descriptor = .ok ()) {existing : MutationBackend W}
    (known : existing ∈ registry.backends) : Apart existing.descriptor descriptor := by
  unfold refuseDuplicates at ok
  split at ok
  · cases ok
  · rename_i fresh
    obtain ⟨⟨⟩, capabilitiesOk, operationsOk⟩ := bind_eq_ok_iff.mp ok
    rw [forM_eq_ok_iff] at capabilitiesOk operationsOk
    constructor
    · intro same
      exact fresh (List.any_eq_true.mpr ⟨existing, known, decide_eq_true same⟩)
    · intro capability listed owned
      exact not_of_refused (capabilitiesOk capability listed) known (List.contains_iff_mem.mpr owned)
    · intro operation listed owned
      exact not_of_refused (operationsOk operation listed) known (List.contains_iff_mem.mpr owned)

theorem exclusive_register {registry registered : BackendRegistry W}
    (exclusive : registry.Exclusive) {backend : MutationBackend W}
    (ok : registry.register backend = .ok registered) : registered.Exclusive := by
  unfold register at ok
  cases checked : registry.refuseDuplicates backend.descriptor with
  | error error => simp [checked, Except.map] at ok
  | ok passed =>
      rw [checked] at ok
      cases ok
      refine List.pairwise_append.mpr ⟨exclusive, List.pairwise_singleton _ _, ?_⟩
      rintro existing known _ (_ | ⟨_, ⟨⟩⟩)
      exact apart_of_refuseDuplicates checked known

/-- Whatever has been registered, nothing has two owners. -/
theorem exclusive_built (calls : List (MutationBackend W)) : (built calls).Exclusive := by
  have step (registry : BackendRegistry W) (backend : MutationBackend W)
      (exclusive : registry.Exclusive) :
      ((registry.register backend).toOption.getD registry).Exclusive := by
    cases ok : registry.register backend with
    | error error => exact exclusive
    | ok registered => exact exclusive_register exclusive ok
  have run (registry : BackendRegistry W) (exclusive : registry.Exclusive) :
      (calls.foldl (fun registry backend => (registry.register backend).toOption.getD registry)
        registry).Exclusive := by
    induction calls generalizing registry with
    | nil => exact exclusive
    | cons backend later ih => exact ih _ (step registry backend exclusive)
  exact run new List.Pairwise.nil

/-! ## Dispatch -/

/-- At most one backend lists a mutation, so the first one is the only one. -/
theorem filter_lists {registry : BackendRegistry W} (exclusive : registry.Exclusive)
    {mutation : PlannedMutation} {chosen : MutationBackend W}
    (dispatched : registry.backendFor mutation = .ok chosen) :
    registry.backends.filter (fun backend => backend.descriptor.lists mutation) = [chosen] := by
  unfold backendFor at dispatched
  split at dispatched
  · rename_i found
    cases dispatched
    obtain ⟨listed, before, after, split, -⟩ := List.find?_eq_some_iff_append.mp found
    rw [Exclusive, split] at exclusive
    rw [split, List.filter_append]
    obtain ⟨-, rest, earlier⟩ := List.pairwise_append.mp exclusive
    have laterNone : after.filter (fun backend => backend.descriptor.lists mutation) = [] := by
      rw [List.filter_eq_nil_iff]
      intro other known
      simp [((List.pairwise_cons.mp rest).1 other known).not_lists listed]
    have earlierNone : before.filter (fun backend => backend.descriptor.lists mutation) = [] := by
      rw [List.filter_eq_nil_iff]
      intro other known lists
      have apart := earlier other known chosen List.mem_cons_self
      simp [apart.not_lists lists] at listed
    simp [earlierNone, laterNone, listed]
  · cases dispatched

theorem lists_of_backendFor {registry : BackendRegistry W} {mutation : PlannedMutation}
    {chosen : MutationBackend W} (dispatched : registry.backendFor mutation = .ok chosen) :
    chosen ∈ registry.backends ∧ chosen.descriptor.lists mutation = true := by
  unfold backendFor at dispatched
  split at dispatched
  · rename_i found
    cases dispatched
    have lists := List.find?_some found
    exact ⟨List.mem_of_find?_eq_some found, lists⟩
  · cases dispatched

/-- A mutation that its backend has admitted has a backend. -/
theorem exists_backendFor {registry : BackendRegistry W} {mutation : PlannedMutation}
    {expected : TargetIdentity} {world : W}
    (admitted : (registry.toBackend.validateAdmission mutation expected world).1 = .ok ()) :
    ∃ chosen, registry.backendFor mutation = .ok chosen := by
  cases dispatched : registry.backendFor mutation with
  | error error => simp [toBackend, dispatch, dispatched] at admitted
  | ok chosen => exact ⟨chosen, rfl⟩

/-! ## Plans -/

open PrivilegeService

section Admission

variable {engine : W → (call : HelperCall) → HelperAnswer call × W}

/-- What the admission of one mutation has found. -/
theorem admitMutation_ok {registry : BackendRegistry W} {plan : Plan} {mutation : PlannedMutation}
    {world : W}
    (ok : ((admitMutation plan mutation).run.exec (registry.toBackend.answer engine) world).1 =
      .ok ()) :
    ∃ item, mutationItem plan mutation.mutationId = some item ∧
      ∃ chosen, registry.backendFor mutation = .ok chosen := by
  unfold admitMutation at ok
  cases found : mutationItem plan mutation.mutationId with
  | none =>
      rw [found] at ok
      cases ok
  | some item =>
      rw [found] at ok
      obtain ⟨owned, -, ok⟩ := Prog.exec_run_bind_ok ok
      obtain ⟨⟨⟩, -, ok⟩ := Prog.exec_run_bind_ok ok
      cases identity : item.targetIdentity with
      | none =>
          rw [identity] at ok
          cases ok
      | some expected =>
          rw [identity] at ok
          exact ⟨item, rfl, exists_backendFor ok⟩

/-- An admitted plan has an item and a backend for every mutation. -/
theorem validatePlanAdmission_ok {registry : BackendRegistry W} {plan : Plan} {world : W}
    (ok : ((validatePlanAdmission plan).run.exec (registry.toBackend.answer engine) world).1 =
      .ok ()) {mutation : PlannedMutation} (known : mutation ∈ plan.mutations) :
    ∃ item, mutationItem plan mutation.mutationId = some item ∧
      ∃ chosen, registry.backendFor mutation = .ok chosen := by
  obtain ⟨⟨⟩, -, ok⟩ := Prog.exec_run_bind_ok ok
  obtain ⟨⟨⟩, -, ok⟩ := Prog.exec_run_bind_ok ok
  obtain ⟨before, admitted⟩ := Prog.exec_forM_ok ok mutation known
  exact admitMutation_ok admitted

end Admission

/-- The mutation goes to the backend its item names, and could go to no other. -/
def FollowsPlan (registry : BackendRegistry W) (plan : Plan) (mutation : PlannedMutation) : Prop :=
  ∃ chosen, registry.backendFor mutation = .ok chosen ∧
    (mutationItem plan mutation.mutationId).bind PlanItem.backend = some chosen.descriptor.id ∧
    registry.backends.filter (fun backend => backend.descriptor.lists mutation) = [chosen]

/-- The backend its item names lists the operation and the capability. -/
def NamesOwner (registry : BackendRegistry W) (plan : Plan) (mutation : PlannedMutation) : Prop :=
  ∃ named ∈ registry.backends,
    (mutationItem plan mutation.mutationId).bind PlanItem.backend = some named.descriptor.id ∧
      named.descriptor.lists mutation = true

/-- The admission does not see whether the owner that an item names is the owner
of its mutation; dispatch follows the plan exactly when it is. -/
theorem followsPlan_iff (calls : List (MutationBackend W))
    (engine : W → (call : HelperCall) → HelperAnswer call × W) (plan : Plan) (world : W)
    (admitted : ((validatePlanAdmission plan).run.exec
      ((built calls).toBackend.answer engine) world).1 = .ok ()) :
    ∀ mutation ∈ plan.mutations,
      (built calls).FollowsPlan plan mutation ↔ (built calls).NamesOwner plan mutation := by
  intro mutation known
  obtain ⟨item, found, chosen, dispatched⟩ := validatePlanAdmission_ok admitted known
  have only := filter_lists (exclusive_built calls) dispatched
  constructor
  · rintro ⟨other, dispatched', names, -⟩
    obtain ⟨registered, lists⟩ := lists_of_backendFor dispatched'
    exact ⟨other, registered, names, lists⟩
  · rintro ⟨named, registered, names, lists⟩
    have candidate : named ∈ [chosen] := only ▸ List.mem_filter.mpr ⟨registered, lists⟩
    rw [List.mem_singleton.mp candidate] at names
    exact ⟨chosen, dispatched, names, only⟩

/-! ## Fixtures -/

/-- A backend whose targets are all allowed. -/
def fixtureBackend (id : BackendId) (mutations : List PlannedMutation) : MutationBackend Unit :=
  .withTargets ⟨id, "1", mutations.map PlannedMutation.capability,
    mutations.map fun mutation => mutation.kind.operationId⟩ fun _ _ world => (.ok (), world)

/-- An engine that only recovers. -/
def idleEngine (world : Unit) : (call : HelperCall) → HelperAnswer call × Unit
  | .recoverUnfinished => (.ok [], world)
  | .prepare _ => (.error (.new .unsupported "idle"), world)
  | .apply _ => (.error (.new .unsupported "idle"), world)
  | .restore _ => (.error (.new .unsupported "idle"), world)
  | .abortPrepared _ => (.error (.new .unsupported "idle"), world)
  | .status _ => (.error (.new .unsupported "idle"), world)
  | .load _ => (.error (.new .unsupported "idle"), world)
  | .ownsBackend _ => (false, world)
  | .validateAdmission _ _ => (.error (.new .unsupported "idle"), world)

/-- The backend that the fixture plan names, owning the governor. -/
def ownerCalls : List (MutationBackend Unit) :=
  [fixtureBackend fakeBackend [governorMutation]]

/-- The same identity without the governor, which another backend owns. -/
def strangerCalls : List (MutationBackend Unit) :=
  [fixtureBackend fakeBackend [],
    fixtureBackend ⟨"fixture.stranger", by decide⟩ [governorMutation]]

theorem followsPlan_owner :
    (built ownerCalls).FollowsPlan (fixturePlan governorMutation) governorMutation :=
  (followsPlan_iff ownerCalls idleEngine (fixturePlan governorMutation) () rfl governorMutation
    List.mem_cons_self).mpr ⟨_, List.mem_cons_self, rfl, rfl⟩

/-- An admitted plan is dispatched to a backend that it does not name. -/
theorem strays_from_plan :
    ((validatePlanAdmission (fixturePlan governorMutation)).run.exec
      ((built strangerCalls).toBackend.answer idleEngine) ()).1 = .ok () ∧
    governorMutation ∈ (fixturePlan governorMutation).mutations ∧
    ((built strangerCalls).backendFor governorMutation).toOption.map
      (fun backend => backend.descriptor.id.asStr) = some "fixture.stranger" ∧
    ¬(built strangerCalls).FollowsPlan (fixturePlan governorMutation) governorMutation := by
  have dispatched : ((built strangerCalls).backendFor governorMutation).toOption.map
      (fun backend => backend.descriptor.id.asStr) = some "fixture.stranger" := rfl
  constructor
  · rfl
  constructor
  · exact List.mem_cons_self
  constructor
  · exact dispatched
  rintro ⟨chosen, chosenOk, named, -⟩
  rw [chosenOk] at dispatched
  injection dispatched with text
  injection named with id
  exact absurd ((congrArg TextId.asStr id).trans text) (by decide)

end BackendRegistry

end Sysboost.Platform
