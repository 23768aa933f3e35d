import Sysboost.ByteCodec.Mixing
import Sysboost.Planner.Finalize

/-!
# Digests

A digest takes in the canonical texts of a policy, an inventory or a
resolution, each with its length.
-/

namespace Sysboost.Planner

open Sysboost.Core Ordered ByteCodec

/-! ## The derived texts of values -/

/-- The derived `Debug` text of a tuple struct. -/
def debugTuple (name value : String) : String :=
  name ++ "(" ++ value ++ ")"

/-- The derived `Debug` text of a text without characters to escape. -/
def debugText (value : String) : String :=
  "\"" ++ value ++ "\""

/-- The derived `Debug` text of a struct with named fields. -/
def debugFields (name : String) (fields : List (String × String)) : String :=
  name ++ " \x7b " ++
    ", ".intercalate (fields.map fun (field, value) => field ++ ": " ++ value) ++ " \x7d"

def debugFrequency : Option FrequencyKHz → String
  | none => "None"
  | some value => debugTuple "Some" (debugTuple "FrequencyKHz" (toString value.get))

def debugPolicy (policy : CpuPolicyId) : String :=
  debugTuple "CpuPolicyId" (toString policy.get)

def debugCgroup (cgroup : CgroupId) : String :=
  debugFields "CgroupId" [("mount_id", toString cgroup.mountId), ("inode", toString cgroup.inode),
    ("handle", debugTuple "TargetId" (debugText cgroup.handle.asStr))]

def debugProcess (process : ProcessId) : String :=
  debugFields "ProcessId" [("pid", toString process.pid),
    ("start_time_ticks", toString process.startTimeTicks)]

def debugCpus (cpus : CpuSet) : String :=
  debugTuple "CpuSet" ("[" ++ ", ".intercalate (cpus.asSlice.map toString) ++ "]")

def debugEnergy : EnergyPreference → String
  | .performance => "Performance"
  | .balancePerformance => "BalancePerformance"
  | .balancePower => "BalancePower"
  | .power => "Power"

def debugQuota : CpuQuota → String
  | .max => "Max"
  | .micros quota => debugTuple "Micros" (toString quota)

def debugUclamp : UclampValue → String
  | .value clamp => debugTuple "Value" (toString clamp)
  | .max => "Max"

def debugIoClass : IoPriorityClass → String
  | .none => "None"
  | .bestEffort => "BestEffort"
  | .idle => "Idle"

def debugGroupKind : CgroupGroupKind → String
  | .workload => "Workload"
  | .conservativeBackground => "ConservativeBackground"

def debugGpuProfile : GpuProfile → String
  | .performance => "Performance"
  | .balanced => "Balanced"
  | .powerSave => "PowerSave"

def debugSysctlKey : ApprovedSysctlKey → String
  | .schedulerUtilClamping => "SchedulerUtilClamping"

def debugBoost : CpuBoostState → String
  | .enabled => "Enabled"
  | .disabled => "Disabled"

/-- The derived `Debug` text of an operation. -/
def debugKind : MutationKind → String
  | .cpuFrequency policy minKhz maxKhz =>
      debugFields "CpuFrequency" [("policy", debugPolicy policy),
        ("min_khz", debugFrequency minKhz), ("max_khz", debugFrequency maxKhz)]
  | .cpuGovernor policy governor =>
      debugFields "CpuGovernor" [("policy", debugPolicy policy),
        ("governor", debugTuple "GovernorId" (debugText governor.get))]
  | .cpuEnergyPreference policy value =>
      debugFields "CpuEnergyPreference" [("policy", debugPolicy policy),
        ("value", debugEnergy value)]
  | .cpuBoost state => debugFields "CpuBoost" [("state", debugBoost state)]
  | .platformProfile profile =>
      debugFields "PlatformProfile"
        [("profile", debugTuple "PlatformProfileId" (debugText profile.get))]
  | .cgroupCpuWeight cgroup weight =>
      debugFields "CgroupCpuWeight" [("cgroup", debugCgroup cgroup),
        ("weight", debugTuple "CpuWeight" (toString weight.get))]
  | .cgroupCpuMax cgroup quota period =>
      debugFields "CgroupCpuMax" [("cgroup", debugCgroup cgroup), ("quota", debugQuota quota),
        ("period", debugTuple "CpuPeriod" (toString period.get))]
  | .cgroupCpuset cgroup cpus =>
      debugFields "CgroupCpuset" [("cgroup", debugCgroup cgroup), ("cpus", debugCpus cpus)]
  | .cgroupIoWeight cgroup weight =>
      debugFields "CgroupIoWeight" [("cgroup", debugCgroup cgroup),
        ("weight", debugTuple "IoWeight" (toString weight.get))]
  | .cgroupUclampMin cgroup value =>
      debugFields "CgroupUclampMin" [("cgroup", debugCgroup cgroup), ("value", debugUclamp value)]
  | .cgroupUclampMax cgroup value =>
      debugFields "CgroupUclampMax" [("cgroup", debugCgroup cgroup), ("value", debugUclamp value)]
  | .cgroupWorkload parent name =>
      debugFields "CgroupWorkload" [("parent", debugCgroup parent),
        ("name", debugTuple "CgroupName" (debugText name.get))]
  | .cgroupBackground parent name =>
      debugFields "CgroupBackground" [("parent", debugCgroup parent),
        ("name", debugTuple "CgroupName" (debugText name.get))]
  | .processPlacement process cgroup =>
      debugFields "ProcessPlacement" [("process", debugProcess process),
        ("cgroup", debugCgroup cgroup)]
  | .processNice process nice =>
      debugFields "ProcessNice" [("process", debugProcess process),
        ("nice", debugTuple "NiceValue" (toString nice.get))]
  | .processIoPriority process priority =>
      debugFields "ProcessIoPriority" [("process", debugProcess process),
        ("priority", debugFields "IoPriority" [("class", debugIoClass priority.class_),
          ("level", toString priority.level)])]
  | .gpuPerformanceProfile device profile =>
      debugFields "GpuPerformanceProfile" [("device", debugTuple "GpuId" (toString device.get)),
        ("profile", debugGpuProfile profile)]
  | .gpuPowerLimit device milliwatts =>
      debugFields "GpuPowerLimit" [("device", debugTuple "GpuId" (toString device.get)),
        ("milliwatts", debugTuple "PowerMilliwatts" (toString milliwatts.get))]
  | .irqAffinity irq cpus =>
      debugFields "IrqAffinity" [("irq", debugTuple "IrqId" (toString irq.get)),
        ("cpus", debugCpus cpus)]
  | .runtimeSysctl key value =>
      debugFields "RuntimeSysctl" [("key", debugSysctlKey key),
        ("value", debugTuple "ApprovedSysctlValue" (toString value.get))]

/-! ## Displayed texts -/

def displayFeature : Feature → String
  | .cpuGovernor => "CPU governor"
  | .cpuFrequency => "CPU frequency"
  | .cpuEnergyPreference => "CPU EPP"
  | .cpuBoost => "CPU boost/turbo"
  | .platformProfile => "platform profile"
  | .cgroupCpu => "cgroup CPU policy"
  | .cpuPlacement => "CPU placement"
  | .gpuTuning => "GPU tuning"
  | .irqTuning => "IRQ tuning"
  | .schedulerTuning => "scheduler/workload policy"
  | .memoryVm => "memory/VM policy"
  | .transparentHugePages => "THP"
  | .custom capability => "custom capability " ++ capability.asStr

def displayProfile : Profile → String
  | .balanced => "balanced"
  | .performance => "performance"
  | .extreme => "extreme"

def renderEnergy : EnergyPreference → String
  | .performance => "performance"
  | .balancePerformance => "balance_performance"
  | .balancePower => "balance_power"
  | .power => "power"

def renderGpuProfile : GpuProfile → String
  | .performance => "performance"
  | .balanced => "balanced"
  | .powerSave => "powersave"

def renderFrequency : Option FrequencyKHz → String
  | none => "preserve"
  | some value => toString value.get

def renderCpus (cpus : CpuSet) : String :=
  ",".intercalate (cpus.asSlice.map toString)

def renderValue : PlanValue → String
  | .text value => value.get
  | .typed (.governor governor) => governor.get
  | .typed (.energyPreference value) => renderEnergy value
  | .typed (.cpuBoost .enabled) => "enabled"
  | .typed (.cpuBoost .disabled) => "disabled"
  | .typed (.platformProfile profile) => profile.get
  | .typed (.gpuPerformanceProfile profile) => renderGpuProfile profile
  | .typed (.gpuPowerLimit limit) => toString limit.get ++ " mW"
  | .typed (.irqAffinity cpus) => renderCpus cpus
  | .typed (.cgroupCpuset cpus) => renderCpus cpus
  | .typed (.cpuFrequency minKhz maxKhz) =>
      "min=" ++ renderFrequency minKhz ++ " kHz max=" ++ renderFrequency maxKhz ++ " kHz"
  | .typed (.cgroupCpuWeight weight) => toString weight.get
  | .typed (.cgroupCpuMax quota period) =>
      (match quota with
        | .max => "max"
        | .micros value => toString value) ++ " / " ++ toString period.get ++ " us"
  | .typed (.cgroupIoWeight weight) => toString weight.get
  | .typed (.cgroupUclamp (.value clamp)) => toString clamp
  | .typed (.cgroupUclamp .max) => "max"
  | .typed (.cgroupLifecycle kind name present) =>
      debugGroupKind kind ++ ":" ++ name.get ++ ":" ++ toString present
  | .typed (.processPlacement cgroup) => "cgroup:" ++ cgroup.handle.asStr
  | .typed (.nice value) => toString value.get
  | .typed (.ioPriority value) => debugIoClass value.class_ ++ ":" ++ toString value.level
  | .typed (.runtimeSysctl key value) => debugSysctlKey key ++ "=" ++ toString value.get

/-! ## The hash -/

def digestLanes : Vector UInt64 4 :=
  #v[0xcbf29ce484222325, 0x84222325cbf29ce4, 0x9e3779b185ebca87, 0xd6e8feb86659fd93]

/-- One lane after it took in the byte at `index`. -/
def digestLane (index : Nat) (lane : UInt64) (byte : UInt8) : UInt64 :=
  let mixed := (lane ^^^ byte.toUInt64) * 0x100000001b3
  (mixed ^^^ rotateLeft mixed 27) + UInt64.ofNat index * 0x9e37

/-- The loop body of `stable_digest`. -/
def digestByte (index : Nat) (lanes : Vector UInt64 4) (byte : UInt8) : Vector UInt64 4 :=
  have bound := mod_four_lt index
  lanes.set (index % 4) (digestLane index lanes[index % 4] byte)

/-- The lanes, each in big-endian order. -/
def laneBlock (lanes : Vector UInt64 4) : Block 32 :=
  ⟨toBigEndian 8 lanes[0].toNat ++ toBigEndian 8 lanes[1].toNat ++
    toBigEndian 8 lanes[2].toNat ++ toBigEndian 8 lanes[3].toNat, by
      simp only [List.length_append, toBigEndian_length]⟩

def stableDigest (bytes : Bytes) : Block 32 :=
  laneBlock (foldBytes digestByte 0 digestLanes bytes)

/-- `fingerprint_for_value`. -/
def fingerprintForValue (value : PlanValue) : StateFingerprint :=
  ⟨stableDigest (utf8 (renderValue value))⟩

/-! ## What a digest takes in -/

namespace DigestWriter

def u8 (value : Nat) : Bytes :=
  [UInt8.ofNat value]

/-- `DigestWriter::bool`. -/
def flag (value : Bool) : Bytes :=
  u8 (if value then 1 else 0)

def u32 (value : UInt32) : Bytes :=
  toBigEndian 4 value.toNat

def u64 (value : UInt64) : Bytes :=
  toBigEndian 8 value.toNat

def bytes (value : Bytes) : Bytes :=
  u64 (UInt64.ofNat value.length) ++ value

def str (value : String) : Bytes :=
  bytes (utf8 value)

def optionStr : Option String → Bytes
  | some value => flag true ++ str value
  | none => flag false

end DigestWriter

open DigestWriter

def targetKindTag : TargetKind → Nat
  | .cpuPolicy => 0
  | .cpuSystem => 1
  | .cgroup => 2
  | .process => 3
  | .gpu => 4
  | .irq => 5
  | .sysctl => 6

def equalityTag : EqualityKind → Nat
  | .byteExact => 0
  | .scalarExact => 1
  | .setExact => 2

def featureClassTag : FeatureClass → Nat
  | .runtimeMutable => 0
  | .conditional => 1
  | .experimental => 2
  | .bootOnlyReportOnly => 3

def writeKind (kind : MutationKind) : Bytes :=
  str kind.operationId.asStr ++ str (debugKind kind)

/-- The place of a feature in the derived order. -/
def featurePlace : Feature → ℕ ×ₗ WithBot CapabilityId
  | .cpuGovernor => toLex (0, ⊥)
  | .cpuFrequency => toLex (1, ⊥)
  | .cpuEnergyPreference => toLex (2, ⊥)
  | .cpuBoost => toLex (3, ⊥)
  | .platformProfile => toLex (4, ⊥)
  | .cgroupCpu => toLex (5, ⊥)
  | .cpuPlacement => toLex (6, ⊥)
  | .gpuTuning => toLex (7, ⊥)
  | .irqTuning => toLex (8, ⊥)
  | .schedulerTuning => toLex (9, ⊥)
  | .memoryVm => toLex (10, ⊥)
  | .transparentHugePages => toLex (11, ⊥)
  | .custom capability => toLex (12, (capability : WithBot CapabilityId))

/-- The order of preserve rules in a digest. -/
def PreserveRule.place (rule : PreserveRule) :
    (ℕ ×ₗ WithBot CapabilityId) ×ₗ WithBot TargetId ×ₗ String :=
  toLex (featurePlace rule.feature, toLex (rule.target, rule.reason))

/-- The order of proposals in a digest. -/
def PolicyProposal.place (proposal : PolicyProposal) :
    CapabilityId ×ₗ TargetId ×ₗ OperationId ×ₗ ℕ :=
  toLex (proposal.request.capability, toLex (proposal.request.target,
    toLex (proposal.request.operation.operationId, proposal.source.precedence)))

/-- The order of descriptors in a digest. -/
def descriptorPlace (descriptor : CapabilityDescriptor) : CapabilityId ×ₗ BackendId ×ₗ ℕ :=
  toLex (descriptor.id, toLex (descriptor.backend, descriptorRank descriptor.state))

def digestPreserve (rule : PreserveRule) : Bytes :=
  str (displayFeature rule.feature) ++ optionStr (rule.target.map TextId.asStr) ++
    str rule.reason

def digestProposal (proposal : PolicyProposal) : Bytes :=
  u8 proposal.source.precedence ++ str proposal.request.capability.asStr ++
    str proposal.request.target.asStr ++ flag proposal.request.required ++
    writeKind proposal.request.operation

def digestPolicy (policy : PlannerPolicy) : Block 32 :=
  stableDigest (str (displayProfile policy.profile) ++
    u8 (match policy.mode with
      | .report => 0
      | .boost => 1) ++
    u8 policy.maxRisk.rank ++ flag policy.allowExperimental ++ flag policy.requiredDefault ++
    u64 policy.sessionTimeoutMs ++
    policy.explicitOptIns.flatMap (fun feature => str (displayFeature feature)) ++
    (sortBy PreserveRule.place policy.preserves).flatMap digestPreserve ++
    (sortBy PolicyProposal.place policy.proposals).flatMap digestProposal)

def digestOperation (operation : OperationDescriptor) : Bytes :=
  str operation.id.asStr ++ u8 (equalityTag operation.equality) ++
    u8 (featureClassTag operation.classification)

def digestEvidence (observed : CapabilityEvidence) : Bytes :=
  str (evidenceDebug observed.source) ++ str observed.detail

def digestDescriptor (descriptor : CapabilityDescriptor) : Bytes :=
  str descriptor.id.asStr ++ str descriptor.backend.asStr ++
    u8 (targetKindTag descriptor.targetKind) ++ u8 (descriptorRank descriptor.state) ++
    u8 (equalityTag descriptor.equality) ++ u8 descriptor.risk.rank ++
    u8 (featureClassTag descriptor.classification) ++
    (sortBy OperationDescriptor.id descriptor.operations).flatMap digestOperation ++
    (canonicalizeEvidence descriptor.evidence).flatMap digestEvidence

def digestInventory (inventory : CapabilityInventory) : Block 32 :=
  stableDigest (u64 (UInt64.ofNat inventory.observedAt.asUnixMillis.toNat) ++
    (sortBy descriptorPlace inventory.capabilities).flatMap digestDescriptor)

def digestMutation (mutation : PlannedMutation) : Bytes :=
  u32 mutation.mutationId.get ++ bytes mutation.precondition.bytes.bytes ++
    writeKind mutation.kind

def digestItem (item : PlanItem) : Bytes :=
  str item.capability.asStr ++ str item.operation.asStr ++
    optionStr (item.backend.map TextId.asStr) ++ optionStr (item.target.map TextId.asStr) ++
    u8 item.control.ctorIdx ++ u8 item.action.ctorIdx ++ str (displayFeature item.feature) ++
    u8 (featureClassTag item.featureClass) ++ u8 item.risk.rank ++ u8 item.experimental.ctorIdx ++
    flag item.explicitOptInRequired ++ optionStr (item.current.map renderValue) ++
    optionStr (item.desired.map renderValue) ++ str item.rationale ++ optionStr item.reason ++
    item.dependencies.flatMap (fun dependency => u32 dependency.get) ++
    item.mutation.elim [] digestMutation

def digestResolution (resolution : PolicyResolution) (policyDigest capabilityDigest : Block 32) :
    Block 32 :=
  stableDigest (str (displayProfile resolution.profile) ++ bytes policyDigest.bytes ++
    bytes capabilityDigest.bytes ++ resolution.items.flatMap digestItem)

end Sysboost.Planner
