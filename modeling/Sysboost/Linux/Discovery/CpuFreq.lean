import Sysboost.Linux.CpuSysfs
import Sysboost.Linux.Discovery.Probe

/-!
# CPUFreq and platform-profile observations

Every policy directory of CPUFreq is read file by file, together with the boost
interface and the platform profile of the host.
-/

namespace Sysboost.Linux.Discovery

open Sysboost.Core Sysboost.Platform Ordered Results
open Cpu (CpuBoostInterface)

/-- One detected CPUFreq policy and its read-only values. -/
structure CpuFreqPolicyFacts where
  id : UInt32
  relatedCpus : Option String
  driver : Option String
  availableGovernors : List String
  currentGovernor : Option String
  energyPerformancePreference : Option String
  energyPerformanceChoices : List String
  minKhz : Option UInt64
  maxKhz : Option UInt64
  currentKhz : Option UInt64
  /-- Names of policy files that could not be read or parsed. -/
  readFailures : List String
  /-- Identity of the policy directory captured by the read-only adapter. -/
  targetIdentity : Option TargetIdentity

/-- CPUFreq-wide and platform-profile observations. -/
structure CpuFreqFacts where
  policies : List CpuFreqPolicyFacts
  boost : Option String
  /-- Which closed kernel boost interface supplied `boost`. -/
  boostInterface : Option CpuBoostInterface
  /-- Identity of the selected boost interface node. -/
  boostTargetIdentity : Option TargetIdentity
  platformProfile : Option String
  platformProfileChoices : List String
  platformProfileTargetIdentity : Option TargetIdentity

/-- The words of a list that is present. -/
def tokens (probe : Probe String) : List String :=
  (probe.value.map parseTokens).getD []

/-- The directory of all policies. -/
def cpufreqPath : String :=
  "devices/system/cpu/cpufreq"

/-- The directory of a policy. -/
def policyPath (policyId : UInt32) : String :=
  cpufreqPath ++ "/policy" ++ toString policyId

/-- The policies whose directories are listed, in numeric order. -/
def policyIds (policyDir : Probe (List DirectoryEntry)) : List UInt32 :=
  (policyDir.value.map fun entries => sortNumericNames entries "policy").getD []

/-! ## A policy -/

/-- The probes of the files of a policy. -/
structure PolicyProbes where
  related : Probe String
  driver : Probe String
  availableGovernors : Probe String
  currentGovernor : Probe String
  epp : Probe String
  eppChoices : Probe String
  min : Probe UInt64
  max : Probe UInt64
  current : Probe UInt64

def readPolicy (sysfs : ReadOnlyFileSystem) (front : String) : Except Panic PolicyProbes := do
  return {
    related := ← readText sysfs (front ++ "/related_cpus")
    driver := ← readText sysfs (front ++ "/scaling_driver")
    availableGovernors := ← readText sysfs (front ++ "/scaling_available_governors")
    currentGovernor := ← readText sysfs (front ++ "/scaling_governor")
    epp := ← readText sysfs (front ++ "/energy_performance_preference")
    eppChoices := ← readText sysfs (front ++ "/energy_performance_available_preferences")
    min := parseU64 (← readText sysfs (front ++ "/scaling_min_freq"))
    max := parseU64 (← readText sysfs (front ++ "/scaling_max_freq"))
    current := parseU64 (← readText sysfs (front ++ "/scaling_cur_freq")) }

/-- The names of the probes that are not present. -/
def absent {α : Type} (probes : List (String × Probe α)) : List String :=
  (probes.filter fun (_, probe) => !probe.isPresent).map Prod.fst

def PolicyProbes.facts (probes : PolicyProbes) (policyId : UInt32)
    (targetIdentity : Option TargetIdentity) : CpuFreqPolicyFacts where
  id := policyId
  relatedCpus := probes.related.value
  driver := probes.driver.value
  availableGovernors := tokens probes.availableGovernors
  currentGovernor := probes.currentGovernor.value
  energyPerformancePreference := probes.epp.value
  energyPerformanceChoices := tokens probes.eppChoices
  minKhz := probes.min.value
  maxKhz := probes.max.value
  currentKhz := probes.current.value
  readFailures :=
    absent [("related_cpus", probes.related), ("scaling_driver", probes.driver),
      ("scaling_available_governors", probes.availableGovernors),
      ("scaling_governor", probes.currentGovernor), ("energy_performance_preference", probes.epp),
      ("energy_performance_available_preferences", probes.eppChoices)] ++
    absent [("scaling_min_freq", probes.min), ("scaling_max_freq", probes.max)]
  targetIdentity := targetIdentity

/-- Insert a value that is known. -/
def insertKnown (attributes : OrderedMap String String) (key : String) :
    Option String → OrderedMap String String
  | some value => attributes.insert key value
  | none => attributes

def PolicyProbes.findings (probes : PolicyProbes) (policyId : UInt32) : List CapabilityFinding :=
  let target := some ("cpu.policy." ++ toString policyId)
  let attributes := insertKnown (insertKnown .empty "driver" probes.driver.value) "related_cpus"
    probes.related.value
  [addFinding CapabilityIds.cpuPolicyGovernor target
    (statusForProbes [(probes.availableGovernors, .supported), (probes.currentGovernor, .supported)])
    .runtimeMutable
    [probeEvidence probes.availableGovernors .sysfs "CPUFreq available governors",
      probeEvidence probes.currentGovernor .sysfs "CPUFreq current governor"] attributes,
  addFinding CapabilityIds.cpuPolicyFrequencyMin target (status probes.min .supported)
    .runtimeMutable [probeEvidence probes.min .sysfs "CPUFreq minimum frequency"] attributes,
  addFinding CapabilityIds.cpuPolicyFrequencyMax target (status probes.max .supported)
    .runtimeMutable [probeEvidence probes.max .sysfs "CPUFreq maximum frequency"] attributes,
  addFinding CapabilityIds.cpuPolicyEnergyPreference target
    (statusForProbes [(probes.epp, .supported), (probes.eppChoices, .supported)]) .runtimeMutable
    [probeEvidence probes.epp .sysfs "CPUFreq energy-performance preference",
      probeEvidence probes.eppChoices .sysfs "CPUFreq energy-performance choices"] attributes]

/-- The loop body over the policies. -/
def detectPolicy (sysfs : ReadOnlyFileSystem) (policyId : UInt32) :
    Except Panic (CpuFreqPolicyFacts × List CapabilityFinding) := do
  let front := policyPath policyId
  let targetIdentity ← probeIdentity sysfs front
  let probes ← readPolicy sysfs front
  return (probes.facts policyId targetIdentity, probes.findings policyId)

/-! ## The host -/

def boostPath : CpuBoostInterface → String
  | .boost => cpufreqPath ++ "/boost"
  | .noTurbo => cpufreqPath ++ "/no_turbo"

/-- The interface that supplies the boost state. -/
def boostInterface (boost noTurbo : Probe String) : Option CpuBoostInterface :=
  if boost.isPresent then some .boost
  else if noTurbo.isPresent then some .noTurbo
  else none

/-- The identity of the interface that supplies the boost state. -/
def probeBoostIdentity (sysfs : ReadOnlyFileSystem) :
    Option CpuBoostInterface → Except Panic (Option TargetIdentity)
  | some interface => probeIdentity sysfs (boostPath interface)
  | none => return none

def platformProfilePath : String :=
  "firmware/acpi/platform_profile"

def boostFinding (boost noTurbo : Probe String) : CapabilityFinding :=
  let boostProbe := if boostInterface boost noTurbo = some .boost then boost else noTurbo
  addFinding CapabilityIds.cpuBoost none
    (statusForProbes [(boost, .supported), (noTurbo, .supported)]) .runtimeMutable
    [probeEvidence boostProbe .sysfs "CPU boost interface",
      probeEvidence noTurbo .sysfs "CPU no_turbo interface"] .empty

def profileFinding (profile choices : Probe String) : CapabilityFinding :=
  addFinding CapabilityIds.platformProfile none
    (statusForProbes [(profile, .supported), (choices, .supported)]) .conditional
    [probeEvidence profile .sysfs "platform profile",
      probeEvidence choices .sysfs "platform profile choices"] .empty

/-- What is found of the policies of a host without any. -/
def fallbackFindings (policyDir : Probe (List DirectoryEntry)) : List CapabilityFinding :=
  [CapabilityIds.cpuPolicyFrequencyMin, CapabilityIds.cpuPolicyFrequencyMax,
    CapabilityIds.cpuPolicyGovernor, CapabilityIds.cpuPolicyEnergyPreference].map fun id =>
      addFinding id none (status policyDir .supported) .runtimeMutable
        [probeEvidence policyDir .sysfs "CPUFreq policy directory"] .empty

def detectCpufreq (sysfs : ReadOnlyFileSystem) :
    Except Panic (CpuFreqFacts × List CapabilityFinding) := do
  let policyDir ← list sysfs (some cpufreqPath)
  let boost ← readText sysfs (boostPath .boost)
  let noTurbo ← readText sysfs (boostPath .noTurbo)
  let boostInterface := boostInterface boost noTurbo
  let boostTargetIdentity ← probeBoostIdentity sysfs boostInterface
  let platformProfile ← readText sysfs platformProfilePath
  let platformChoices ← readText sysfs "firmware/acpi/platform_profile_choices"
  let platformProfileTargetIdentity ← probeIdentity sysfs platformProfilePath
  let policies ← (policyIds policyDir).mapM (detectPolicy sysfs)
  let facts : CpuFreqFacts := {
    policies := policies.map Prod.fst
    boost := boost.value.or noTurbo.value
    boostInterface
    boostTargetIdentity
    platformProfile := platformProfile.value
    platformProfileChoices := tokens platformChoices
    platformProfileTargetIdentity }
  return (facts, boostFinding boost noTurbo :: profileFinding platformProfile platformChoices ::
    if policies.isEmpty then fallbackFindings policyDir else policies.flatMap Prod.snd)

end Sysboost.Linux.Discovery
