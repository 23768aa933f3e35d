import Sysboost.Ordered.Sorting
import Sysboost.Planner.Policy
import Mathlib.Data.Prod.Lex

/-!
# Operation contracts

A contract declares what a backend can snapshot, verify and restore.  The
catalog keeps its contracts in their canonical order.
-/

namespace Sysboost.Planner

open Sysboost.Core Ordered

/-- Declarative admission contract for a compiled-in typed backend operation. -/
structure OperationContract where
  operation : OperationId
  capability : CapabilityId
  backend : BackendId
  targetKind : TargetKind
  control : ControlId
  equality : EqualityKind
  risk : RiskClass
  classification : FeatureClass
  explicitOptIn : Bool
  targetIdentityRequired : Bool
  currentStateRequired : Bool
  dependencies : List OperationId
  snapshot : SnapshotContract
  restore : RestoreContract
  verification : VerificationContract
deriving DecidableEq

namespace OperationContract

/-- A complete compare-and-restore contract for a reviewed typed operation. -/
def complete (operation : OperationId) (capability : CapabilityId) (backend : BackendId)
    (targetKind : TargetKind) (control : ControlId) (equality : EqualityKind) (risk : RiskClass)
    (classification : FeatureClass) (explicitOptIn : Bool) : OperationContract where
  operation := operation
  capability := capability
  backend := backend
  targetKind := targetKind
  control := control
  equality := equality
  risk := risk
  classification := classification
  explicitOptIn := explicitOptIn
  targetIdentityRequired := true
  currentStateRequired := true
  dependencies := []
  snapshot := ⟨true, true, false, equality⟩
  restore := ⟨true, some .compareAndRestore, equality⟩
  verification := ⟨true, true, equality⟩

/-- Validate the internal integrity of a declarative backend contract. -/
def validate (contract : OperationContract) : Except SysboostError Unit :=
  if contract.snapshot.equality ≠ contract.equality ||
      contract.restore.equality ≠ contract.equality ||
      contract.verification.equality ≠ contract.equality then
    .error (((SysboostError.new .planningError
      "operation contract uses inconsistent equality semantics").withStage .plan).withCapability
        contract.capability)
  else if contract.operation ∈ contract.dependencies then
    .error (((SysboostError.new .planningError
      "operation contract depends on itself").withStage .plan).withCapability contract.capability)
  else if (dropRepeats (sortBy id contract.dependencies)).length ≠
      contract.dependencies.length then
    .error (((SysboostError.new .planningError
      "operation contract contains a duplicate dependency").withStage .plan).withCapability
        contract.capability)
  else .ok ()

/-- Whether all snapshot, restore, verification, and target gates exist. -/
def isComplete (contract : OperationContract) : Bool :=
  contract.snapshot.isComplete && contract.restore.isComplete &&
    contract.verification.isComplete && contract.targetIdentityRequired &&
    contract.currentStateRequired

/-- The canonical order of contracts. -/
def key (contract : OperationContract) : OperationId ×ₗ BackendId ×ₗ CapabilityId :=
  toLex (contract.operation, toLex (contract.backend, contract.capability))

end OperationContract

/-- Deterministic collection of approved operation contracts. -/
structure OperationCatalog where
  contracts : List OperationContract
  sorted : contracts.Pairwise fun first second => first.key ≤ second.key

namespace OperationCatalog

/-- Construct a catalog and canonicalize contract order. -/
def new (contracts : List OperationContract) : OperationCatalog :=
  ⟨sortBy OperationContract.key contracts, sortBy_pairwise _ contracts⟩

/-- Neighbours with the same operation. -/
def validateOwnership : List OperationContract → Except SysboostError Unit
  | previous :: current :: rest =>
      if previous.operation = current.operation then
        .error (((SysboostError.new .invariantViolation
          "operation catalog contains duplicate operation ownership").withStage .plan).withBackend
            current.backend)
      else validateOwnership (current :: rest)
  | _ => .ok ()

/-- Validate operation ownership and contract structure. -/
def validate (catalog : OperationCatalog) : Except SysboostError Unit := do
  catalog.contracts.forM OperationContract.validate
  validateOwnership catalog.contracts

def find (catalog : OperationCatalog) (capability : CapabilityId) (operation : OperationId) :
    Option OperationContract :=
  catalog.contracts.find? fun contract =>
    contract.capability = capability && contract.operation = operation

end OperationCatalog

end Sysboost.Planner
