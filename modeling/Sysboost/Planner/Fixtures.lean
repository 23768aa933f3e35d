import Sysboost.Planner.Build

/-!
# Planner fixtures

The inventory, the current state and the contracts on which the tests of the
planner run: one CPUFreq policy with a governor and an energy preference.
-/

namespace Sysboost.Planner.Fixtures

open Sysboost.Core ByteCodec

def backend : BackendId :=
  ⟨"fixture.cpu", rfl⟩

def descriptor (capability : CapabilityId) (operation : OperationId) (targetKind : TargetKind)
    (classification : FeatureClass) (risk : RiskClass) : CapabilityDescriptor where
  id := capability
  backend := backend
  targetKind := targetKind
  state := .available
  operations := [⟨operation, .privilegedMutation, .scalarExact, classification⟩]
  privilege := .privilegedMutation
  equality := .scalarExact
  risk := risk
  classification := classification
  evidence := [⟨.synthetic, "fixture exposes " ++ capability.asStr⟩]

def completeContract (capability : CapabilityId) (operation : OperationId) (control : ControlId)
    (targetKind : TargetKind) (classification : FeatureClass) (risk : RiskClass)
    (explicitOptIn : Bool) : OperationContract :=
  .complete operation capability backend targetKind control .scalarExact risk classification
    explicitOptIn

/-! ## CPU policy 0 -/

def cpuTarget : TargetId :=
  ⟨"cpu.policy.0", rfl⟩

def governorOperation : OperationId :=
  OperationIds.cpuGovernor

def preferenceOperation : OperationId :=
  OperationIds.cpuEnergyPreference

def governorDescriptor : CapabilityDescriptor :=
  descriptor CapabilityIds.cpuPolicyGovernor governorOperation .cpuPolicy .runtimeMutable .low

def preferenceDescriptor : CapabilityDescriptor :=
  descriptor CapabilityIds.cpuPolicyEnergyPreference preferenceOperation .cpuPolicy
    .runtimeMutable .low

def cpuInventory : CapabilityInventory :=
  ⟨.fromUnixMillis 10, [governorDescriptor, preferenceDescriptor]⟩

def schedutil : TypedValue :=
  governorValue "schedutil" (by decide)

theorem accepts_performance : GovernorId.accepts "performance" = true := by
  decide

def performanceGovernor : GovernorId :=
  ⟨"performance", accepts_performance⟩

def performance : TypedValue :=
  .governor performanceGovernor

def fact (capability : CapabilityId) (control : ControlId) (current : TypedValue)
    (supported : List TypedValue) : CurrentStateFact where
  capability := capability
  target := cpuTarget
  control := control
  value := .known (.typed current)
  fingerprint := some ⟨.fill 32 1⟩
  targetIdentity := some ⟨.fill 16 7⟩
  supportedValues := supported.map .typed
  evidence := []
  typedTarget := some (.cpuPolicy ⟨0⟩)

def governorFact (current : TypedValue) : CurrentStateFact :=
  fact CapabilityIds.cpuPolicyGovernor .cpuGovernor current [schedutil, performance]

def preferenceFact (current : EnergyPreference) : CurrentStateFact :=
  fact CapabilityIds.cpuPolicyEnergyPreference .cpuEnergyPreference (.energyPreference current)
    [.energyPreference .balancePerformance, .energyPreference .performance]

def cpuCurrent (governor : TypedValue) (preference : EnergyPreference) : CurrentState :=
  ⟨.fromUnixMillis 10, [governorFact governor, preferenceFact preference]⟩

def governorContract : OperationContract :=
  completeContract CapabilityIds.cpuPolicyGovernor governorOperation .cpuGovernor .cpuPolicy
    .runtimeMutable .low false

/-- The energy preference is changed after the governor. -/
def preferenceContract : OperationContract :=
  { completeContract CapabilityIds.cpuPolicyEnergyPreference preferenceOperation
      .cpuEnergyPreference .cpuPolicy .runtimeMutable .low false with
    dependencies := [governorOperation] }

def cpuCatalog : OperationCatalog :=
  .new [governorContract, preferenceContract]

def cpuInput (profile : Profile) : PlannerInput :=
  ⟨.forProfile profile, cpuInventory, cpuCurrent schedutil .balancePerformance⟩

/-! ## The frequency range of CPU policy 0 -/

def frequencyOperation : OperationId :=
  OperationIds.cpuFrequency

def frequencyCatalog : OperationCatalog :=
  .new [completeContract CapabilityIds.cpuPolicyFrequencyMax frequencyOperation .cpuFrequency
    .cpuPolicy .runtimeMutable .medium false]

def lowest : FrequencyKHz :=
  ⟨400000, rfl⟩

def highest : FrequencyKHz :=
  ⟨4000000, rfl⟩

/-- A request for a frequency range over a current one. -/
def frequencyInput (currentMin currentMax : FrequencyKHz)
    (minKhz maxKhz : Option FrequencyKHz) : PlannerInput where
  policy := { PlannerPolicy.forProfile .balanced with
    proposals := [⟨.user, CapabilityIds.cpuPolicyFrequencyMax, cpuTarget,
      .cpuFrequency ⟨0⟩ minKhz maxKhz, false⟩] }
  inventory := ⟨.fromUnixMillis 10, [descriptor CapabilityIds.cpuPolicyFrequencyMax
    frequencyOperation .cpuPolicy .runtimeMutable .medium]⟩
  currentState := ⟨.fromUnixMillis 10, [fact CapabilityIds.cpuPolicyFrequencyMax .cpuFrequency
    (.cpuFrequency (some currentMin) (some currentMax)) []]⟩

end Sysboost.Planner.Fixtures
