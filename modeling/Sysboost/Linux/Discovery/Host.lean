import Sysboost.Linux.Discovery.Probe

/-!
# Host observations

The environment, the topology, the memory interfaces, the scheduler and the
services of the host, each from its own nodes.  The entries of the DRM directory
are the only ones whose names go into a path as they are listed.
-/

namespace Sysboost.Linux.Discovery

open Sysboost.Core Sysboost.Platform ByteCodec Ordered Results

/-! ## Texts -/

/-- The text that is present, or the empty one. -/
def textOf (probe : Probe String) : String :=
  probe.value.getD ""

/-- `str::contains`. -/
def containsText (pattern text : String) : Bool :=
  decide (pattern.toList <:+: text.toList)

/-- The number in the first word of a text. -/
def firstNumber (text : String) : Option UInt64 :=
  ((splitWhitespace text).head?.bind (parseNumber (2 ^ 64))).map UInt64.ofNat

def meminfoValue (value key : String) : Option UInt64 :=
  (firstKey value key).bind firstNumber

/-- Whether a list of CPU ranges contains a CPU. -/
def rangeContains (value : String) (needle : UInt32) : Bool :=
  (((splitAll ',' value).map trim).filter fun part => !part.isEmpty).any fun part =>
    match splitFirst '-' part with
    | none => parseNumber (2 ^ 32) part = some needle.toNat
    | some (first, last) =>
        match parseNumber (2 ^ 32) first, parseNumber (2 ^ 32) last with
        | some first, some last => first ≤ needle.toNat && needle.toNat ≤ last
        | _, _ => false

/-! ## Environment -/

/-- Kernel and runtime facts that are useful for diagnosis. -/
structure EnvironmentFacts where
  kernelRelease : Option String
  kernelVersion : Option String
  architecture : Option String
  cpuVendor : Option String
  cpuModel : Option String
  cpuCount : Nat
  initName : Option String
  containerHint : Bool
  containerEvidence : List String

def containerMarkers : List String :=
  ["docker", "kubepods", "containerd", "libpod", "lxc", "podman"]

def containerEvidence (init membership : Probe String) : List String :=
  let markers := (containerMarkers.filter fun marker =>
    containsText marker (textOf membership).toLower).map ("procfs cgroup contains " ++ ·)
  let systemd := if init.value = some "systemd" then ["init process is systemd"] else []
  dropRepeats (sortBy id (markers ++ systemd))

def detectEnvironment (procfs : ReadOnlyFileSystem) :
    Except Panic (EnvironmentFacts × CapabilityFinding) := do
  let release ← readText procfs "sys/kernel/osrelease"
  let version ← readText procfs "sys/kernel/version"
  let cpuinfo ← readText procfs "cpuinfo"
  let init ← readText procfs "1/comm"
  let membership ← readText procfs "1/cgroup"
  let cpuinfoText := textOf cpuinfo
  let containers := containerEvidence init membership
  let facts : EnvironmentFacts := {
    kernelRelease := release.value
    kernelVersion := version.value
    architecture := firstKey cpuinfoText "Architecture"
    cpuVendor := (firstKey cpuinfoText "vendor_id").or (firstKey cpuinfoText "CPU implementer")
    cpuModel := (firstKey cpuinfoText "model name").or (firstKey cpuinfoText "Model")
    cpuCount := (lines cpuinfoText).countP fun line =>
      "processor".toList.isPrefixOf (line.toList.dropWhile isWhitespace)
    initName := init.value
    containerHint := !containers.isEmpty && !containers.contains "init process is systemd"
    containerEvidence := containers }
  return (facts, addFinding Ids.kernelEnvironment none
    (statusForProbes [(release, .reportOnly)]) .bootOnlyReportOnly
    [probeEvidence release .procfs "procfs kernel release",
      probeEvidence version .procfs "procfs kernel version",
      probeEvidence cpuinfo .procfs "procfs CPU information",
      probeEvidence init .procfs "procfs init process",
      probeEvidence membership .procfs "procfs cgroup membership"] .empty)

/-! ## Topology -/

/-- One CPU topology record. -/
structure CpuTopologyEntry where
  cpu : UInt32
  packageId : Option UInt32
  coreId : Option UInt32
  threadSiblings : Option String
  capacity : Option UInt64
  online : Bool

/-- CPU topology and heterogeneous-capacity summary. -/
structure CpuTopologyFacts where
  possible : Option String
  online : Option String
  entries : List CpuTopologyEntry
  heterogeneous : Bool

/-- The numbers in the names of the directories that are present. -/
def numbered (entries : Probe (List DirectoryEntry)) (front : String) : List UInt32 :=
  (entries.value.map fun entries => sortNumericNames entries front).getD []

/-- The loop body over the CPUs. -/
def detectCpu (sysfs : ReadOnlyFileSystem) (online : String) (cpu : UInt32) :
    Except Panic CpuTopologyEntry := do
  let front := "devices/system/cpu/cpu" ++ toString cpu
  return {
    cpu
    packageId := (parseU32 (← readText sysfs (front ++ "/topology/physical_package_id"))).value
    coreId := (parseU32 (← readText sysfs (front ++ "/topology/core_id"))).value
    threadSiblings := (← readText sysfs (front ++ "/topology/thread_siblings_list")).value
    capacity := (parseU64 (← readText sysfs (front ++ "/cpu_capacity"))).value
    online := rangeContains online cpu }

def detectTopology (sysfs : ReadOnlyFileSystem) :
    Except Panic (CpuTopologyFacts × List CapabilityFinding) := do
  let cpuRoot ← list sysfs (some "devices/system/cpu")
  let possible ← readText sysfs "devices/system/cpu/possible"
  let online ← readText sysfs "devices/system/cpu/online"
  let entries ← (numbered cpuRoot "cpu").mapM (detectCpu sysfs (textOf online))
  let capacities := dropRepeats (sortBy UInt64.toNat (entries.filterMap CpuTopologyEntry.capacity))
  let heterogeneous : Bool := 1 < capacities.length
  let attributes := (OrderedMap.empty.insert "cpu_count" (toString entries.length)).insert
    "heterogeneous" (toString heterogeneous)
  let topology := addFinding CapabilityIds.cpuTopology none
    (combineStatuses [status cpuRoot .supported, status possible .supported,
      status online .supported]) .bootOnlyReportOnly
    [probeEvidence cpuRoot .sysfs "CPU topology directory",
      probeEvidence possible .sysfs "possible CPU list",
      probeEvidence online .sysfs "online CPU list"] attributes
  let capacity := if capacities.isEmpty then
      addFinding CapabilityIds.cpuCapacity none
        (combineStatuses [status cpuRoot .presentButUnsupported,
          status possible .presentButUnsupported]) .conditional
        [evidence .sysfs "no per-CPU capacity hint was exposed"] attributes
    else
      addFinding CapabilityIds.cpuCapacity none .supported .conditional
        [evidence .sysfs
          (toString capacities.length ++ " distinct CPU capacity values were observed")] attributes
  return (⟨possible.value, online.value, entries, heterogeneous⟩, [topology, capacity])

/-! ## NUMA -/

/-- One NUMA node observation. -/
structure NumaNodeFacts where
  id : UInt32
  cpus : Option String
  memoryTotalKb : Option UInt64

/-- The loop body over the nodes. -/
def detectNumaNode (sysfs : ReadOnlyFileSystem) (node : UInt32) : Except Panic NumaNodeFacts := do
  let front := "devices/system/node/node" ++ toString node
  let cpulist ← readText sysfs (front ++ "/cpulist")
  let meminfo ← readText sysfs (front ++ "/meminfo")
  return ⟨node, cpulist.value, meminfo.value.bind fun value => meminfoValue value "MemTotal"⟩

def detectNuma (sysfs : ReadOnlyFileSystem) :
    Except Panic (List NumaNodeFacts × List CapabilityFinding) := do
  let nodeRoot ← list sysfs (some "devices/system/node")
  let nodes ← (numbered nodeRoot "node").mapM (detectNumaNode sysfs)
  return (sortBy (fun node : NumaNodeFacts => node.id.toNat) nodes, [
    addFinding Ids.numaTopology none (status nodeRoot .supported) .bootOnlyReportOnly
      [probeEvidence nodeRoot .sysfs "NUMA node directory"]
      (OrderedMap.empty.insert "node_count" (toString nodes.length))])

/-! ## Control groups -/

/-- Cgroup hierarchy family observed by detection. -/
inductive CgroupVersion where
  | v1
  | v2
deriving DecidableEq

/-- Cgroup v1/v2 controller evidence. -/
structure CgroupFacts where
  version : Option CgroupVersion
  controllers : List String
  enabledControllers : List String
  cpuWeight : Option String
  cpuMax : Option String
  cpusetCpus : Option String
  uclampMin : Option String
  uclampMax : Option String
  membership : Option String

def cgroupUnavailableFindings (membership : Probe String) (detail : String) :
    List CapabilityFinding :=
  [Ids.cgroupV2, CapabilityIds.cgroupUclamp, CapabilityIds.cgroupCpuWeight,
    CapabilityIds.cgroupCpuMax, CapabilityIds.cgroupCpusetCpus].map fun id =>
      addFinding id none .unavailable
        (if id = CapabilityIds.cgroupCpusetCpus ∨ id = Ids.cgroupV2 ∨
          id = CapabilityIds.cgroupUclamp then .conditional else .runtimeMutable)
        [evidence .cgroupV2 detail,
          probeEvidence membership .procfs "procfs cgroup membership"] .empty

/-- The probes of a cgroup root that is configured. -/
def detectCgroupRoot (cgroup : ReadOnlyFileSystem) (membership : Probe String) :
    Except Panic (CgroupFacts × List CapabilityFinding) := do
  let controllers ← readText cgroup "cgroup.controllers"
  let subtree ← readText cgroup "cgroup.subtree_control"
  let cgroupType ← readText cgroup "cgroup.type"
  let v1Weight ← readText cgroup "cpu.shares"
  let v1Quota ← readText cgroup "cpu.cfs_quota_us"
  let v2Weight ← readText cgroup "cpu.weight"
  let v2Max ← readText cgroup "cpu.max"
  let cpuset ← readText cgroup "cpuset.cpus"
  let uclampMin ← readText cgroup "cpu.uclamp.min"
  let uclampMax ← readText cgroup "cpu.uclamp.max"
  let isV2 := controllers.isPresent || cgroupType.isPresent
  let isV1 := !isV2 && (v1Weight.isPresent || v1Quota.isPresent)
  let weight := if isV2 then v2Weight else v1Weight
  let max := if isV2 then v2Max else v1Quota
  let controllerNames := ((controllers.value.map parseTokens).getD [])
  let cpuController := controllerNames.contains "cpu" || isV1
  let controllerStatus (present : DiscoveryStatus) : DiscoveryStatus :=
    if !cpuController && isV2 then .presentButUnsupported else present
  let source : EvidenceSource := if isV2 then .cgroupV2 else .cgroupV1
  let facts : CgroupFacts := {
    version := if isV2 then some .v2 else if isV1 then some .v1 else none
    controllers := controllerNames
    enabledControllers := (subtree.value.map parseTokens).getD []
    cpuWeight := weight.value
    cpuMax := max.value
    cpusetCpus := cpuset.value
    uclampMin := uclampMin.value
    uclampMax := uclampMax.value
    membership := membership.value }
  return (facts, [
    addFinding Ids.cgroupV2 none
      (if isV2 then .supported else if isV1 then .presentButUnsupported
        else status controllers .supported) .conditional
      [probeEvidence controllers .cgroupV2 "cgroup v2 controller list",
        probeEvidence cgroupType .cgroupV2 "cgroup hierarchy type",
        probeEvidence v1Weight .cgroupV1 "cgroup v1 CPU shares"] .empty,
    addFinding CapabilityIds.cgroupCpuWeight none (controllerStatus (status weight .supported))
      .runtimeMutable [probeEvidence weight source "cgroup CPU weight"] .empty,
    addFinding CapabilityIds.cgroupCpuMax none (controllerStatus (status max .supported))
      .runtimeMutable [probeEvidence max source "cgroup CPU max"] .empty,
    addFinding CapabilityIds.cgroupCpusetCpus none (controllerStatus (status cpuset .supported))
      .conditional [probeEvidence cpuset source "cgroup effective CPU set"] .empty,
    addFinding CapabilityIds.cgroupUclamp none
      (controllerStatus (statusForProbes [(uclampMin, .supported), (uclampMax, .supported)]))
      .conditional
      [probeEvidence uclampMin .cgroupV2 "cgroup uclamp minimum",
        probeEvidence uclampMax .cgroupV2 "cgroup uclamp maximum"] .empty])

def detectCgroup (cgroup : Option ReadOnlyFileSystem) (procfs : ReadOnlyFileSystem) :
    Except Panic (CgroupFacts × List CapabilityFinding) := do
  let membership ← readText procfs "self/cgroup"
  match cgroup with
  | some cgroup => detectCgroupRoot cgroup membership
  | none =>
      return (⟨none, [], [], none, none, none, none, none, membership.value⟩,
        cgroupUnavailableFindings membership "cgroup root was not configured")

/-! ## GPUs -/

/-- One DRM/GPU device observation. -/
structure GpuDeviceFacts where
  name : String
  vendor : Option String
  device : Option String
  class_ : Option String
  driver : Option String
  entryKind : EntryKind

/-- The entries of the DRM directory that name a card. -/
def drmCards (drm : Probe (List DirectoryEntry)) : List DirectoryEntry :=
  sortBy DirectoryEntry.name (((drm.value.getD []).filter fun entry =>
    (afterPrefix "card" entry.name).isSome))

/-- The loop body over the cards. -/
def detectGpu (sysfs : ReadOnlyFileSystem) (entry : DirectoryEntry) :
    Except Panic (GpuDeviceFacts × List CapabilityFinding) := do
  let front := "class/drm/" ++ entry.name
  let uevent ← readText sysfs (front ++ "/uevent")
  let vendor ← readText sysfs (front ++ "/device/vendor")
  let device ← readText sysfs (front ++ "/device/device")
  let class_ ← readText sysfs (front ++ "/device/class")
  let driver := uevent.value.bind fun value => firstKey value "DRIVER"
  let deviceStatus : DiscoveryStatus :=
    if entry.kind = .symlink then .presentButUnsupported
    else statusForProbes [(uevent, .presentButUnsupported), (vendor, .presentButUnsupported)]
  let findings := [CapabilityIds.gpuPerformanceProfile, CapabilityIds.gpuPowerLimit,
    Ids.gpuDevice].map fun id =>
      addFinding id (some ("gpu." ++ entry.name)) deviceStatus .experimental
        [evidence .device ("DRM entry " ++ entry.name ++ " was enumerated"),
          probeEvidence uevent .device "DRM uevent",
          probeEvidence vendor .device "GPU vendor identifier"] .empty
  return (⟨entry.name, vendor.value, device.value, class_.value, driver, entry.kind⟩, findings)

def detectGpus (sysfs : ReadOnlyFileSystem) :
    Except Panic (List GpuDeviceFacts × List CapabilityFinding) := do
  let drm ← list sysfs (some "class/drm")
  let devices ← (drmCards drm).mapM (detectGpu sysfs)
  let findings := if devices.isEmpty then
      [addFinding Ids.gpuDevice none (status drm .reportOnly) .experimental
        [probeEvidence drm .device "DRM class directory"] .empty]
    else devices.flatMap Prod.snd
  return (devices.map Prod.fst, findings)

/-! ## Interrupts -/

/-- One IRQ affinity metadata observation. -/
structure IrqEntryFacts where
  irq : UInt32
  affinity : Option String
  effectiveAffinity : Option String

/-- IRQ metadata summary; no affinity write is exposed. -/
structure IrqFacts where
  defaultAffinity : Option String
  entries : List IrqEntryFacts

/-- The loop body over the interrupts. -/
def detectIrq (procfs : ReadOnlyFileSystem) (irq : UInt32) :
    Except Panic (IrqEntryFacts × CapabilityFinding) := do
  let front := "irq/" ++ toString irq
  let affinity ← readText procfs (front ++ "/smp_affinity_list")
  let effective ← readText procfs (front ++ "/effective_affinity_list")
  return (⟨irq, affinity.value, effective.value⟩,
    addFinding CapabilityIds.irqAffinity (some ("irq." ++ toString irq))
      (statusForProbes [(affinity, .presentButUnsupported), (effective, .presentButUnsupported)])
      .experimental
      [probeEvidence affinity .procfs "IRQ affinity list",
        probeEvidence effective .procfs "IRQ effective affinity list"] .empty)

def detectIrqs (procfs : ReadOnlyFileSystem) :
    Except Panic (IrqFacts × List CapabilityFinding) := do
  let irqRoot ← list procfs (some "irq")
  let defaultAffinity ← readText procfs "irq/default_smp_affinity"
  let entries ← (numbered irqRoot "").mapM (detectIrq procfs)
  let metadata := if entries.isEmpty then
      addFinding Ids.irqMetadata none
        (combineStatuses [status irqRoot .reportOnly, status defaultAffinity .reportOnly])
        .experimental
        [probeEvidence irqRoot .procfs "IRQ directory",
          probeEvidence defaultAffinity .procfs "default IRQ affinity"] .empty
    else
      addFinding Ids.irqMetadata none .reportOnly .experimental
        [evidence .procfs (toString entries.length ++ " IRQ entries were enumerated")] .empty
  return (⟨defaultAffinity.value, entries.map Prod.fst⟩, entries.map Prod.snd ++ [metadata])

/-! ## Memory -/

/-- Memory and compression-interface observations. -/
structure MemoryFacts where
  thpEnabled : Option String
  thpDefrag : Option String
  swapTotalKb : Option UInt64
  swapFreeKb : Option UInt64
  activeSwapEntries : Nat
  zramDevices : List String
  zswapEnabled : Option String
  zswapCompressor : Option String
  zswapZpool : Option String

def zramDevices (entries : Probe (List DirectoryEntry)) : List String :=
  ((entries.value.getD []).filter fun entry =>
    entry.kind = .directory && (afterPrefix "zram" entry.name).isSome).map DirectoryEntry.name

def detectMemory (sysfs procfs : ReadOnlyFileSystem) :
    Except Panic (MemoryFacts × List CapabilityFinding) := do
  let thpEnabled ← readText sysfs "kernel/mm/transparent_hugepage/enabled"
  let thpDefrag ← readText sysfs "kernel/mm/transparent_hugepage/defrag"
  let meminfo ← readText procfs "meminfo"
  let swaps ← readText procfs "swaps"
  let zramRoot ← list sysfs (some "class/block")
  let zswapEnabled ← readText sysfs "module/zswap/parameters/enabled"
  let zswapCompressor ← readText sysfs "module/zswap/parameters/compressor"
  let zswapZpool ← readText sysfs "module/zswap/parameters/zpool"
  let devices := zramDevices zramRoot
  let facts : MemoryFacts := {
    thpEnabled := thpEnabled.value
    thpDefrag := thpDefrag.value
    swapTotalKb := meminfoValue (textOf meminfo) "SwapTotal"
    swapFreeKb := meminfoValue (textOf meminfo) "SwapFree"
    activeSwapEntries := ((lines (textOf swaps)).drop 1).countP fun line => !(trim line).isEmpty
    zramDevices := devices
    zswapEnabled := zswapEnabled.value
    zswapCompressor := zswapCompressor.value
    zswapZpool := zswapZpool.value }
  return (facts, [
    addFinding CapabilityIds.memoryThp none
      (statusForProbes [(thpEnabled, .reportOnly), (thpDefrag, .reportOnly)]) .conditional
      [probeEvidence thpEnabled .sysfs "THP enabled mode",
        probeEvidence thpDefrag .sysfs "THP defrag mode"] .empty,
    addFinding Ids.swap none (status meminfo .reportOnly) .bootOnlyReportOnly
      [probeEvidence meminfo .procfs "procfs memory information",
        probeEvidence swaps .procfs "procfs swap table"] .empty,
    addFinding Ids.zram none
      (if devices.isEmpty then status zramRoot .reportOnly else .reportOnly) .conditional
      [probeEvidence zramRoot .sysfs "zram block devices"] .empty,
    addFinding Ids.zswap none
      (statusForProbes [(zswapEnabled, .reportOnly), (zswapCompressor, .reportOnly),
        (zswapZpool, .reportOnly)]) .conditional
      [probeEvidence zswapEnabled .sysfs "zswap enabled",
        probeEvidence zswapCompressor .sysfs "zswap compressor",
        probeEvidence zswapZpool .sysfs "zswap pool"] .empty])

/-! ## Scheduler and services -/

/-- Scheduler and pressure-interface observations. -/
structure SchedulerFacts where
  facilities : List String
  cpuPressure : Bool
  uclampMin : Option String
  uclampMax : Option String
  numaBalancing : Option String
  energyAware : Option String

def detectScheduler (procfs : ReadOnlyFileSystem) :
    Except Panic (SchedulerFacts × List CapabilityFinding) := do
  let uclampMin ← readText procfs "sys/kernel/sched_util_clamp_min"
  let uclampMax ← readText procfs "sys/kernel/sched_util_clamp_max"
  let numaBalancing ← readText procfs "sys/kernel/numa_balancing"
  let energyAware ← readText procfs "sys/kernel/sched_energy_aware"
  let cpuPressure ← readText procfs "pressure/cpu"
  let probes := [("sched_util_clamp_min", uclampMin), ("sched_util_clamp_max", uclampMax),
    ("numa_balancing", numaBalancing), ("sched_energy_aware", energyAware),
    ("cpu_pressure", cpuPressure)]
  let facts : SchedulerFacts := {
    facilities := (probes.filter fun (_, probe) => probe.isPresent).map Prod.fst
    cpuPressure := cpuPressure.isPresent
    uclampMin := uclampMin.value
    uclampMax := uclampMax.value
    numaBalancing := numaBalancing.value
    energyAware := energyAware.value }
  return (facts, [
    addFinding CapabilityIds.scheduler none
      (statusForProbes (probes.map fun (_, probe) => (probe, .reportOnly))) .experimental
      (probes.map fun (name, probe) => probeEvidence probe .procfs name) .empty])

/-- systemd/service-presence facts, kept separate from tuning admission. -/
structure SystemdFacts where
  present : Bool
  evidence : List String

def detectSystemd (procfs : ReadOnlyFileSystem) (run : Option ReadOnlyFileSystem) :
    Except Panic (SystemdFacts × List CapabilityFinding) := do
  let init ← readText procfs "1/comm"
  let systemdDir ←
    match run with
    | some filesystem => list filesystem (some "systemd/system")
    | none => pure .missing
  let initSystemd : Bool := init.value = some "systemd"
  let dirSystemd := systemdDir.isPresent
  let status : DiscoveryStatus :=
    if initSystemd || dirSystemd then .reportOnly
    else if init.isDenied || systemdDir.isDenied then .permissionDenied
    else if init.isMalformed || systemdDir.isMalformed then .indeterminate
    else .unavailable
  let facts : SystemdFacts := {
    present := initSystemd || dirSystemd
    evidence := (if initSystemd then ["PID 1 is named systemd"] else []) ++
      if dirSystemd then ["/run/systemd/system is present"] else [] }
  return (facts, [
    addFinding Ids.systemd none status .bootOnlyReportOnly
      [probeEvidence init .procfs "PID 1 command name",
        probeEvidence systemdDir .synthetic "systemd runtime directory"] .empty])

end Sysboost.Linux.Discovery
