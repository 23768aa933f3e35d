import Sysboost.Linux.Discovery.Report
import Sysboost.Planner.CurrentState

/-!
# The current state of a report

The facts of a report become the typed current state that the planner reads.
The texts of two controls have no closed type; they are kept as they are.
-/

namespace Sysboost.Linux.Discovery

open Sysboost.Core Sysboost.Planner ByteCodec Results
open Cpu (CpuBoostInterface energyOf boostOf)

/-! ## Parsing -/

/-- `parse_cpu_boost`. -/
def parseCpuBoost (interface : CpuBoostInterface) (value : String) : Option CpuBoostState :=
  boostOf interface (trim value)

/-- `parse_cpu_max`. -/
def parseCpuMax (value : Option String) : Option (CpuQuota × CpuPeriod) := do
  let fields := splitWhitespace (← value)
  let quota ←
    match ← fields.head? with
    | "max" => some .max
    | value => (CpuQuota.newMicros (UInt64.ofNat (← parseNumber (2 ^ 64) value))).toOption
  let period ← (CpuPeriod.new (UInt64.ofNat (← parseNumber (2 ^ 64) (← fields[1]?)))).toOption
  return (quota, period)

/-- One range or CPU of a list. -/
def parseCpuRange (part : String) : Option (List UInt32) :=
  match splitFirst '-' part with
  | some (start, last) => do
      let start ← parseNumber (2 ^ 32) (trim start)
      let last ← parseNumber (2 ^ 32) (trim last)
      if last < start || 4096 < last - start then none
      else return (List.range' start (last + 1 - start)).map UInt32.ofNat
  | none => do
      return [UInt32.ofNat (← parseNumber (2 ^ 32) (trim part))]

/-- `parse_cpu_set`. -/
def parseCpuSet (value : String) : Option CpuSet := do
  let cpus ← (splitAll ',' value).mapM parseCpuRange
  (CpuSet.new cpus.flatten).toOption

/-! ## Facts -/

/-- A known fact with the fingerprint of its value. -/
def fact (capability : CapabilityId) (target : TargetId) (control : ControlId)
    (value : PlanValue) : CurrentStateFact :=
  .known capability target control value (fingerprintForValue value)

/-- A fact about a control of a policy. -/
def policyFact (policy : CpuFreqPolicyFacts) (target : TargetId) (capability : CapabilityId)
    (control : ControlId) (value : PlanValue) (choices : List PlanValue) : CurrentStateFact :=
  { fact capability target control value with
    supportedValues := choices
    targetIdentity := policy.targetIdentity
    typedTarget := some (.cpuPolicy ⟨policy.id⟩) }

def governorFact (policy : CpuFreqPolicyFacts) (target : TargetId) : Option CurrentStateFact := do
  let current ← (GovernorId.new (← policy.currentGovernor)).toOption
  let choices := policy.availableGovernors.filterMap fun choice =>
    (GovernorId.new choice).toOption.map fun value => PlanValue.typed (.governor value)
  return policyFact policy target CapabilityIds.cpuPolicyGovernor .cpuGovernor
    (.typed (.governor current)) choices

/-- A preference outside the closed vocabulary is kept as text. -/
def preferenceValue (current : String) : Except Panic PlanValue :=
  match energyOf current with
  | some value => return .typed (.energyPreference value)
  | none => return .text (← expect "discovery EPP text is bounded" (ObservedText.new current))

def preferenceFact (policy : CpuFreqPolicyFacts) (target : TargetId) :
    Except Panic (Option CurrentStateFact) :=
  match policy.energyPerformancePreference with
  | none => return none
  | some current => do
      let value ← preferenceValue current
      let choices := policy.energyPerformanceChoices.filterMap fun choice =>
        (energyOf choice).map fun value => PlanValue.typed (.energyPreference value)
      return some (policyFact policy target CapabilityIds.cpuPolicyEnergyPreference
        .cpuEnergyPreference value choices)

def frequencyFact (policy : CpuFreqPolicyFacts) (target : TargetId) : Option CurrentStateFact := do
  let minKhz ← (FrequencyKHz.new (← policy.minKhz)).toOption
  let maxKhz ← (FrequencyKHz.new (← policy.maxKhz)).toOption
  return policyFact policy target CapabilityIds.cpuPolicyFrequencyMax .cpuFrequency
    (.typed (.cpuFrequency (some minKhz) (some maxKhz))) []

/-- The loop body over the policies. -/
def policyFacts (policy : CpuFreqPolicyFacts) : Except Panic (List CurrentStateFact) := do
  let target ← expect "discovery CPU policy target is valid"
    (TextId.new ("cpu.policy." ++ toString policy.id))
  let preference ← preferenceFact policy target
  return (governorFact policy target).toList ++ preference.toList ++
    (frequencyFact policy target).toList

def boostTarget : TargetId :=
  ⟨"system.cpu.boost", rfl⟩

def profileTarget : TargetId :=
  ⟨"system.platform.profile", rfl⟩

/-- A fact about a control of the whole host. -/
def systemFact (capability : CapabilityId) (target : TargetId) (control : ControlId)
    (value : PlanValue) (choices : List PlanValue) (identity : TargetIdentity) :
    CurrentStateFact :=
  { fact capability target control value with
    supportedValues := choices
    targetIdentity := some identity
    typedTarget := some .cpuSystem }

def boostFact (cpufreq : CpuFreqFacts) : Option CurrentStateFact := do
  let value ← cpufreq.boost
  let interface ← cpufreq.boostInterface
  let identity ← cpufreq.boostTargetIdentity
  let value ← parseCpuBoost interface value
  return systemFact CapabilityIds.cpuBoost boostTarget .cpuBoost (.typed (.cpuBoost value))
    [.typed (.cpuBoost .enabled), .typed (.cpuBoost .disabled)] identity

def profileFact (cpufreq : CpuFreqFacts) : Option CurrentStateFact := do
  let value ← cpufreq.platformProfile
  let identity ← cpufreq.platformProfileTargetIdentity
  let current ← (PlatformProfileId.new value).toOption
  let choices := cpufreq.platformProfileChoices.filterMap fun choice =>
    (PlatformProfileId.new choice).toOption.map fun value => PlanValue.typed (.platformProfile value)
  return systemFact CapabilityIds.platformProfile profileTarget .platformProfile
    (.typed (.platformProfile current)) choices identity

/-- `add_observed_text_fact`: a text that is not accepted is left out. -/
def observedTextFact (value : Option String) (capability : CapabilityId) (target : TargetId)
    (control : ControlId) : Option CurrentStateFact := do
  let value ← (ObservedText.new (← value)).toOption
  return fact capability target control (.text value)

def cgroupTarget : TargetId :=
  ⟨"cgroup.current", rfl⟩

/-- A typed fact about the current control group. -/
def cgroupFact (capability : CapabilityId) (control : ControlId) (value : TypedValue) :
    CurrentStateFact :=
  { fact capability cgroupTarget control (.typed value) with
    typedTarget := some (.cgroup ⟨0, 0, cgroupTarget⟩) }

def weightFact (cgroup : CgroupFacts) : Option CurrentStateFact := do
  let value ← parseNumber (2 ^ 16) (← cgroup.cpuWeight)
  let weight ← (CpuWeight.new (UInt16.ofNat value)).toOption
  return cgroupFact CapabilityIds.cgroupCpuWeight .cgroupCpuWeight (.cgroupCpuWeight weight)

def cpuMaxFact (cgroup : CgroupFacts) : Option CurrentStateFact := do
  let (quota, period) ← parseCpuMax cgroup.cpuMax
  return cgroupFact CapabilityIds.cgroupCpuMax .cgroupCpuMax (.cgroupCpuMax quota period)

def cpusetFact (cgroup : CgroupFacts) : Option CurrentStateFact := do
  let cpus ← parseCpuSet (← cgroup.cpusetCpus)
  return cgroupFact CapabilityIds.cgroupCpusetCpus .cgroupCpuset (.cgroupCpuset cpus)

/-- Both ends of the utilization clamp in one text. -/
def uclampText (minimum maximum : String) : String :=
  "min=" ++ minimum ++ " max=" ++ maximum

def uclampFact (cgroup : CgroupFacts) : Except Panic (Option CurrentStateFact) :=
  match cgroup.uclampMin, cgroup.uclampMax with
  | some minimum, some maximum => do
      let value ← expect "cgroup uclamp observation is bounded"
        (ObservedText.new (uclampText minimum maximum))
      return some (fact CapabilityIds.cgroupUclamp cgroupTarget .cgroupUclamp (.text value))
  | _, _ => return none

/-- The loop body over the interrupts. -/
def irqFact (entry : IrqEntryFacts) : Except Panic (Option CurrentStateFact) :=
  match entry.affinity.bind parseCpuSet with
  | none => return none
  | some cpus => do
      let target ← expect "discovery IRQ target is valid" (TextId.new ("irq." ++ toString entry.irq))
      return some { fact CapabilityIds.irqAffinity target .irqAffinity
        (.typed (.irqAffinity cpus)) with typedTarget := some (.irq ⟨entry.irq⟩) }

/-! ## The projection -/

namespace DiscoveryReport

variable (report : DiscoveryReport)

/-- The facts that `current_state` collects, in their order. -/
def facts : Except Panic (List CurrentStateFact) := do
  let policies ← report.cpufreq.policies.mapM policyFacts
  let uclamp ← uclampFact report.cgroup
  let irqs ← report.irq.entries.mapM irqFact
  return policies.flatten ++ (boostFact report.cpufreq).toList ++
    (profileFact report.cpufreq).toList ++
    (observedTextFact report.memory.thpEnabled CapabilityIds.memoryThp ⟨"system", rfl⟩
      .transparentHugePages).toList ++
    (weightFact report.cgroup).toList ++ (cpuMaxFact report.cgroup).toList ++
    (cpusetFact report.cgroup).toList ++ uclamp.toList ++ irqs.reduceOption

def currentState : Except Panic (Except SysboostError CurrentState) := do
  return CurrentState.new report.observedAt (← report.facts)

end DiscoveryReport

end Sysboost.Linux.Discovery
