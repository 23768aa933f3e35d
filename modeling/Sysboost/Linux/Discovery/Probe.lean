import Sysboost.Ordered.Map
import Sysboost.Ordered.Sorting
import Sysboost.Core.Capability
import Sysboost.Platform.Filesystem
import Sysboost.Results.Panics

/-!
# Probing the host

A probe reads one node of a port: what the node holds, or why it says nothing.
The text of a path is checked when it is used, and a path that fails its check
stops the process.
-/

namespace Sysboost.Linux.Discovery

open Sysboost.Core Sysboost.Platform ByteCodec Ordered Results

universe u

variable {α : Type u}

/-! ## Report-only capabilities that only discovery names -/

namespace Ids

def kernelEnvironment : CapabilityId := ⟨"environment.kernel", rfl⟩
def numaTopology : CapabilityId := ⟨"memory.numa", rfl⟩
def cgroupV2 : CapabilityId := ⟨"cgroup.v2", rfl⟩
def gpuDevice : CapabilityId := ⟨"gpu.device", rfl⟩
def irqMetadata : CapabilityId := ⟨"irq.metadata", rfl⟩
def swap : CapabilityId := ⟨"memory.swap", rfl⟩
def zram : CapabilityId := ⟨"memory.zram", rfl⟩
def zswap : CapabilityId := ⟨"memory.zswap", rfl⟩
def systemd : CapabilityId := ⟨"service.systemd", rfl⟩

end Ids

/-- High-level interpretation of one read-only discovery result. -/
inductive DiscoveryStatus where
  | supported
  | unavailable
  | permissionDenied
  | presentButUnsupported
  | reportOnly
  | indeterminate
deriving DecidableEq

/-- One capability-matrix finding. -/
structure CapabilityFinding where
  id : CapabilityId
  target : Option TargetId
  status : DiscoveryStatus
  classification : FeatureClass
  evidence : List CapabilityEvidence
  attributes : OrderedMap String String

/-! ## Probes -/

def maxDiscoveryReadBytes : Nat :=
  1024 * 1024

inductive Probe (α : Type u) where
  | present (value : α)
  | missing
  | denied
  | malformed

namespace Probe

/-- `probe_value`. -/
def value : Probe α → Option α
  | present value => some value
  | missing | denied | malformed => none

def isPresent (probe : Probe α) : Bool :=
  probe.value.isSome

def isDenied : Probe α → Bool
  | denied => true
  | _ => false

def isMalformed : Probe α → Bool
  | malformed => true
  | _ => false

/-- Read the value that is present. -/
def bind {β : Type u} (probe : Probe α) (next : α → Probe β) : Probe β :=
  match probe with
  | present value => next value
  | missing => missing
  | denied => denied
  | malformed => malformed

/-- What the result of a port says. -/
def ofResult : Except SysboostError α → Probe α
  | .ok value => present value
  | .error error =>
      match error.code with
      | .authorizationError | .capabilityError => denied
      | .targetError | .unsupported => missing
      | _ => malformed

end Probe

def path (value : String) : Except Panic RelativePath :=
  expect "discovery paths are fixed and validated" (RelativePath.new value)

def readBytes (filesystem : ReadOnlyFileSystem) (value : String) : Except Panic (Probe Bytes) := do
  let path ← path value
  return (Probe.ofResult (filesystem.read path)).bind fun bytes =>
    if bytes.length ≤ maxDiscoveryReadBytes then .present bytes else .malformed

def readText (filesystem : ReadOnlyFileSystem) (value : String) :
    Except Panic (Probe String) := do
  let bytes ← readBytes filesystem value
  return bytes.bind fun bytes =>
    match fromUtf8 bytes with
    | some text => .present (trim text)
    | none => .malformed

def list (filesystem : ReadOnlyFileSystem) (value : Option String) :
    Except Panic (Probe (List DirectoryEntry)) := do
  let relative ← value.mapM path
  return .ofResult (filesystem.list relative)

/-- An identity that is not zero. -/
def probeIdentity (filesystem : ReadOnlyFileSystem) (relativePath : String) :
    Except Panic (Option TargetIdentity) := do
  let path ← path relativePath
  return (filesystem.identity path).toOption.filter fun identity =>
    decide (identity.bytes ≠ .fill 16 0)

/-! ## Findings -/

def status (probe : Probe α) (present : DiscoveryStatus) : DiscoveryStatus :=
  match probe with
  | .present _ => present
  | .missing => .unavailable
  | .denied => .permissionDenied
  | .malformed => .indeterminate

def statusForProbes (probes : List (Probe α × DiscoveryStatus)) : DiscoveryStatus :=
  if probes.any fun (probe, _) => probe.isDenied then .permissionDenied
  else if probes.any fun (probe, _) => probe.isMalformed then .indeterminate
  else
    (probes.findSome? fun (probe, present) => if probe.isPresent then some present else none).getD
      .unavailable

/-- The first of these that is among the statuses. -/
def combineStatuses (statuses : List DiscoveryStatus) : DiscoveryStatus :=
  ([.permissionDenied, .indeterminate, .supported, .presentButUnsupported,
    .reportOnly].find? fun status => statuses.contains status).getD .unavailable

def evidence (source : EvidenceSource) (detail : String) : CapabilityEvidence :=
  ⟨source, detail⟩

def probeEvidence (probe : Probe α) (source : EvidenceSource) (name : String) :
    CapabilityEvidence :=
  evidence source (match probe with
    | .present _ => name ++ " is readable and parsed"
    | .missing => name ++ " is not exposed"
    | .denied => name ++ " is present but read access was denied"
    | .malformed => name ++ " was present but malformed or oversized")

/-- The finding that `add_finding` pushes; a target that is no valid identifier
is left out. -/
def addFinding (id : CapabilityId) (target : Option String) (status : DiscoveryStatus)
    (classification : FeatureClass) (evidence : List CapabilityEvidence)
    (attributes : OrderedMap String String) : CapabilityFinding where
  id := id
  target := target.bind fun value => (TextId.new value).toOption
  status := status
  classification := classification
  evidence := evidence
  attributes := attributes

/-! ## Descriptors -/

def discoveryBackend : BackendId :=
  ⟨"linux.discovery", rfl⟩

/-- `CPU_BACKEND_ID`. -/
def cpuBackend : BackendId :=
  ⟨"linux.cpu", rfl⟩

/-- The operation of the CPU backend for a capability. -/
def cpuOperation (id : CapabilityId) : Option OperationId :=
  if id = CapabilityIds.cpuPolicyFrequencyMin ∨ id = CapabilityIds.cpuPolicyFrequencyMax then
    some OperationIds.cpuFrequency
  else if id = CapabilityIds.cpuPolicyGovernor then some OperationIds.cpuGovernor
  else if id = CapabilityIds.cpuPolicyEnergyPreference then some OperationIds.cpuEnergyPreference
  else if id = CapabilityIds.cpuBoost then some OperationIds.cpuBoost
  else if id = CapabilityIds.platformProfile then some OperationIds.platformProfile
  else none

/-- The descriptor that `add_descriptor_for_finding` pushes. -/
def addDescriptorForFinding (finding : CapabilityFinding) (targetKind : TargetKind) :
    CapabilityDescriptor :=
  let operation := cpuOperation finding.id
  { id := finding.id
    backend := if operation.isSome then cpuBackend else discoveryBackend
    targetKind := targetKind
    state :=
      match finding.status with
      | .supported => if operation.isSome then .available else .readOnly
      | .presentButUnsupported | .reportOnly => .readOnly
      | .unavailable => .unsupported
      | .permissionDenied => .denied
      | .indeterminate => .indeterminate
    operations := operation.toList.map fun operation =>
      ⟨operation, .privilegedMutation, .scalarExact, finding.classification⟩
    privilege := if operation.isSome then .privilegedMutation else .readOnly
    equality := if operation.isSome then .scalarExact else .byteExact
    risk :=
      match finding.classification with
      | .runtimeMutable | .conditional => .medium
      | .experimental => .critical
      | .bootOnlyReportOnly => .low
    classification := finding.classification
    evidence := finding.evidence }

/-! ## Texts -/

/-- Sorted words without repetitions. -/
def parseTokens (value : String) : List String :=
  dropRepeats (sortBy id (splitWhitespace value))

def parseU64 (probe : Probe String) : Probe UInt64 :=
  probe.bind fun value =>
    match parseNumber (2 ^ 64) value with
    | some number => .present (UInt64.ofNat number)
    | none => .malformed

def parseU32 (probe : Probe String) : Probe UInt32 :=
  probe.bind fun value =>
    match parseNumber (2 ^ 32) value with
    | some number => .present (UInt32.ofNat number)
    | none => .malformed

/-- The text before and after the first separator of a key and its value. -/
def splitKey (line : String) : Option (String × String) :=
  let key := line.toList.takeWhile fun character => character ≠ ':' && character ≠ '='
  match line.toList.drop key.length with
  | [] => none
  | _ :: value => some (String.ofList key, String.ofList value)

def keyValues (value : String) : OrderedMap String String :=
  ((lines value).filterMap splitKey).foldl
    (fun values (key, value) => values.insert (trim key) (trim value)) .empty

def firstKey (value key : String) : Option String :=
  (keyValues value).get key

/-- The numbers in the names of the directories with a prefix. -/
def sortNumericNames (entries : List DirectoryEntry) (front : String) : List UInt32 :=
  dropRepeats (sortBy UInt32.toNat (entries.filterMap fun entry =>
    if entry.kind = .directory then
      (afterPrefix front entry.name).bind fun rest =>
        (parseNumber (2 ^ 32) rest).map UInt32.ofNat
    else none))

end Sysboost.Linux.Discovery
