import Sysboost.Linux.Discovery.CpuFreq
import Sysboost.Linux.Discovery.Host

/-!
# The discovery report

One pass over the read-only roots.  The findings and the descriptors of all
detectors are sorted at the end.
-/

namespace Sysboost.Linux.Discovery

open Sysboost.Core Sysboost.Platform Ordered Results

/-- Read-only sources of a discovery. -/
structure DiscoverySources where
  sysfs : ReadOnlyFileSystem
  procfs : ReadOnlyFileSystem
  cgroup : Option ReadOnlyFileSystem
  run : Option ReadOnlyFileSystem

/-- Complete read-only discovery output. -/
structure DiscoveryReport where
  observedAt : Timestamp
  environment : EnvironmentFacts
  cpufreq : CpuFreqFacts
  topology : CpuTopologyFacts
  numa : List NumaNodeFacts
  cgroup : CgroupFacts
  gpu : List GpuDeviceFacts
  irq : IrqFacts
  memory : MemoryFacts
  scheduler : SchedulerFacts
  systemd : SystemdFacts
  findings : List CapabilityFinding
  inventory : CapabilityInventory

/-- The target kind of the descriptor that a finding becomes, if it becomes one. -/
def targetKindOf (id : CapabilityId) : Option TargetKind :=
  if id = CapabilityIds.cgroupCpuWeight ∨ id = CapabilityIds.cgroupCpuMax ∨
      id = CapabilityIds.cgroupCpusetCpus then some .cgroup
  else if id = CapabilityIds.gpuPerformanceProfile ∨ id = CapabilityIds.gpuPowerLimit then some .gpu
  else if id = CapabilityIds.irqAffinity then some .irq
  else none

/-- Every finding about CPUFreq and the platform profile becomes a descriptor. -/
def cpufreqTargetKind (id : CapabilityId) : TargetKind :=
  if id = CapabilityIds.cpuBoost ∨ id = CapabilityIds.platformProfile then .cpuSystem
  else .cpuPolicy

/-- The descriptors of the findings that become one. -/
def descriptorsOf (kind : CapabilityId → Option TargetKind) (findings : List CapabilityFinding) :
    List CapabilityDescriptor :=
  findings.filterMap fun finding => (kind finding.id).map (addDescriptorForFinding finding)

/-- The place of a finding in the report. -/
def CapabilityFinding.place (finding : CapabilityFinding) : CapabilityId ×ₗ WithBot TargetId :=
  toLex (finding.id, finding.target)

def discover (sources : DiscoverySources) (now : Except SysboostError Timestamp) :
    Except Panic (Except SysboostError DiscoveryReport) := do
  match now with
  | .error error => return .error error
  | .ok observedAt => do
      let (environment, environmentFinding) ← detectEnvironment sources.procfs
      let (cpufreq, cpufreqFindings) ← detectCpufreq sources.sysfs
      let (topology, topologyFindings) ← detectTopology sources.sysfs
      let (numa, numaFindings) ← detectNuma sources.sysfs
      let (cgroup, cgroupFindings) ← detectCgroup sources.cgroup sources.procfs
      let (gpu, gpuFindings) ← detectGpus sources.sysfs
      let (irq, irqFindings) ← detectIrqs sources.procfs
      let (memory, memoryFindings) ← detectMemory sources.sysfs sources.procfs
      let (scheduler, schedulerFindings) ← detectScheduler sources.procfs
      let (systemd, systemdFindings) ← detectSystemd sources.procfs sources.run
      let findings := environmentFinding :: cpufreqFindings ++ topologyFindings ++ numaFindings ++
        cgroupFindings ++ gpuFindings ++ irqFindings ++ memoryFindings ++ schedulerFindings ++
        systemdFindings
      let descriptors := descriptorsOf (fun id => some (cpufreqTargetKind id)) cpufreqFindings ++
        descriptorsOf targetKindOf (cgroupFindings ++ gpuFindings ++ irqFindings)
      return .ok {
        observedAt, environment, cpufreq, topology, numa, cgroup, gpu, irq, memory, scheduler,
        systemd
        findings := sortBy CapabilityFinding.place findings
        inventory := {
          observedAt
          capabilities := sortBy (fun descriptor : CapabilityDescriptor =>
            toLex (descriptor.id, descriptor.backend)) descriptors } }

end Sysboost.Linux.Discovery
