import Mathlib.Data.List.Lex
import Mathlib.Data.Prod.Lex
import Sysboost.Linux.Discovery.Host
import Sysboost.Planner.Digest

/-!
# CPU topology

The normalized topology that placement is planned over: which CPUs there are and
which are online, the physical cores and the NUMA nodes they belong to, and how
the kernel rates their capacity.
-/

namespace Sysboost.Linux.Topology

open Sysboost.Core Sysboost.Planner ByteCodec Discovery Ordered

instance (priority := low) linearOrderUInt32 : LinearOrder UInt32 where
  le_refl := UInt32.le_refl
  le_trans := fun _ _ _ => UInt32.le_trans
  le_antisymm := fun _ _ => UInt32.le_antisymm
  le_total := UInt32.le_total
  lt_iff_le_not_ge := by
    intro first second
    rw [UInt32.lt_iff_toNat_lt, UInt32.le_iff_toNat_le, UInt32.le_iff_toNat_le]
    omega
  toDecidableLE := inferInstance
  toDecidableEq := inferInstance
  toDecidableLT := inferInstance

def cpusetCapacityLimit : Nat :=
  1048576

def topologyError (message : String) : SysboostError :=
  (SysboostError.new .capabilityError message).withStage .detect

/-! ## Records -/

/-- How strongly the kernel proved CPU capacity differences. -/
inductive CpuCapacityMode where
  | heterogeneousProven
  | homogeneous
  | unknown
deriving DecidableEq

/-- Per-CPU classification derived only from positive kernel capacity data. -/
inductive CpuPerformanceClass where
  | performance
  | efficiency
  | unknown
deriving DecidableEq

/-- One normalized CPU topology observation. -/
structure CpuTopologyCpu where
  id : UInt32
  packageId : Option UInt32
  coreId : Option UInt32
  threadSiblings : CpuSet
  capacity : Option UInt64
  online : Bool
  numaNode : Option UInt32
  performanceClass : CpuPerformanceClass
deriving DecidableEq

/-- One NUMA node observation, so far as placement reads it. -/
structure NumaNodeFacts where
  id : UInt32
  cpus : Option String

/-- NUMA topology summary. -/
structure NumaFacts where
  nodes : List NumaNodeFacts

/-- A stable revision of the topology. -/
structure TopologyRevision where
  bytes : Block 32
deriving DecidableEq

/-- Normalized topology evidence used by the placement planner. -/
structure CpuTopology where
  possible : Option CpuSet
  online : Option CpuSet
  cpus : List CpuTopologyCpu
  numaNodes : OrderedMap UInt32 CpuSet
  capacityMode : CpuCapacityMode
  revision : TopologyRevision

/-! ## CPU lists -/

/-- The loop body of `parse_cpu_list`. -/
def parseCpuPart (cpus : List UInt32) (part : String) : Except SysboostError (List UInt32) := do
  if part.isEmpty then throw (topologyError "CPU list contains an empty component")
  let cpus ←
    match splitFirst '-' part with
    | some (first, last) =>
        match parseNumber (2 ^ 32) first with
        | none => throw (topologyError "CPU list range start is malformed")
        | some first =>
            match parseNumber (2 ^ 32) last with
            | none => throw (topologyError "CPU list range end is malformed")
            | some last =>
                if last < first then throw (topologyError "CPU list range is reversed")
                let span := last - first + 1
                if cpusetCapacityLimit < cpus.length + span then
                  throw (topologyError "CPU list exceeds the bounded planning size")
                pure (cpus ++ (List.range' first span).map UInt32.ofNat)
    | none =>
        match parseNumber (2 ^ 32) part with
        | none => throw (topologyError "CPU list member is malformed")
        | some cpu => pure (cpus ++ [UInt32.ofNat cpu])
  if cpusetCapacityLimit < cpus.length then
    throw (topologyError "CPU list exceeds the bounded planning size")
  return cpus

/-- Parse the kernel's comma-separated CPU list grammar, including ranges. -/
def parseCpuList (value : String) : Except SysboostError CpuSet := do
  let value := trim value
  if value.isEmpty then throw (topologyError "CPU list is empty")
  CpuSet.new (← ((splitAll ',' value).map trim).foldlM parseCpuPart [])

/-- `map(parse_cpu_list).transpose()`. -/
def parseCpuLists : Option String → Except SysboostError (Option CpuSet)
  | none => return none
  | some value => return some (← parseCpuList value)

def CpuSet.contains (cpus : CpuSet) (cpu : UInt32) : Bool :=
  cpus.asSlice.contains cpu

/-! ## Capacities -/

/-- The capacities of the online CPUs, unless one of them is unknown. -/
def onlineCapacities (cpus : List CpuTopologyCpu) (online : CpuSet) : Option (List UInt64) :=
  (cpus.filter fun cpu => CpuSet.contains online cpu.id).mapM CpuTopologyCpu.capacity

/-- The class of a CPU beside the greatest capacity. -/
def classFor (maximum : UInt64) : Option UInt64 → CpuPerformanceClass
  | some capacity => if capacity = maximum then .performance else .efficiency
  | none => .unknown

def classifyCapacities (cpus : List CpuTopologyCpu) (online : Option CpuSet) :
    CpuCapacityMode × List CpuTopologyCpu :=
  match online with
  | none => (.unknown, cpus)
  | some online =>
      match onlineCapacities cpus online with
      | none => (.unknown, cpus)
      | some capacities =>
          if capacities.contains 0 then (.unknown, cpus)
          else
            let capacities := dropRepeats (sortBy UInt64.toNat capacities)
            if capacities.length = 1 then (.homogeneous, cpus)
            else
              let maximum := capacities.getLast?.getD 0
              (.heterogeneousProven, cpus.map fun cpu =>
                if CpuSet.contains online cpu.id then
                  { cpu with performanceClass := classFor maximum cpu.capacity }
                else cpu)

def capacityRank : CpuPerformanceClass → Nat
  | .performance => 0
  | .unknown => 1
  | .efficiency => 2

/-! ## Revision -/

def writeSet (cpus : CpuSet) : Bytes :=
  toBigEndian 8 cpus.asSlice.length ++ cpus.asSlice.flatMap fun cpu => toBigEndian 4 cpu.toNat

def writeOptionSet : Option CpuSet → Bytes
  | some cpus => 1 :: writeSet cpus
  | none => [0]

/-- A number that may be unknown, with `u32::MAX` for one that is. -/
def writeIdentity (identity : Option UInt32) : Bytes :=
  toBigEndian 4 (identity.getD 0xffffffff).toNat

/-- The loop body of `topology_revision` over the CPUs. -/
def writeCpu (cpu : CpuTopologyCpu) : Bytes :=
  toBigEndian 4 cpu.id.toNat ++ writeIdentity cpu.packageId ++ writeIdentity cpu.coreId ++
    toBigEndian 8 (cpu.capacity.getD 0).toNat ++ [if cpu.online then 1 else 0] ++
    [UInt8.ofNat (capacityRank cpu.performanceClass)] ++ writeSet cpu.threadSiblings ++
    writeIdentity cpu.numaNode

/-- The loop body over the NUMA nodes. -/
def writeNode (node : UInt32 × CpuSet) : Bytes :=
  toBigEndian 4 node.1.toNat ++ writeSet node.2

/-- What `topology_revision` feeds to the digest. -/
def revisionBytes (possible online : Option CpuSet) (cpus : List CpuTopologyCpu)
    (numa : OrderedMap UInt32 CpuSet) : Bytes :=
  writeOptionSet possible ++ writeOptionSet online ++ cpus.flatMap writeCpu ++
    numa.entries.flatMap writeNode

def digestLanes : Vector UInt64 4 :=
  #v[0xcbf29ce484222325, 0x84222325cb29ce4, 0x9e3779b185ebca87, 0xd6e8feb86659fd93]

/-- The digest of this module: the planner's with one other initial lane. -/
def stableDigest (bytes : Bytes) : Block 32 :=
  laneBlock (foldBytes digestByte 0 digestLanes bytes)

def topologyRevision (possible online : Option CpuSet) (cpus : List CpuTopologyCpu)
    (numa : OrderedMap UInt32 CpuSet) : TopologyRevision :=
  ⟨stableDigest (revisionBytes possible online cpus numa)⟩

/-! ## Normalization -/

/-- The nodes whose CPUs are known. -/
def normalizeNuma (numa : NumaFacts) : Except SysboostError (OrderedMap UInt32 CpuSet) :=
  numa.nodes.foldlM (fun nodes node =>
    match node.cpus with
    | none => return nodes
    | some cpus => return nodes.insert node.id (← parseCpuList cpus)) .empty

/-- Put a value under a key that has none yet. -/
def insertNew {α : Type} (error : SysboostError) (map : OrderedMap UInt32 α)
    (entry : UInt32 × α) : Except SysboostError (OrderedMap UInt32 α) :=
  if (map.get entry.1).isSome then throw error else return map.insert entry.1 entry.2

/-- The entries by the CPUs that they are about. -/
def rawEntries (entries : List CpuTopologyEntry) :
    Except SysboostError (OrderedMap UInt32 CpuTopologyEntry) :=
  (entries.map fun entry => (entry.cpu, entry)).foldlM
    (insertNew (topologyError "CPU topology contains duplicate logical CPU IDs")) .empty

/-- The CPUs of a node, each with the node. -/
def membersOf (node : UInt32 × CpuSet) : List (UInt32 × UInt32) :=
  node.2.asSlice.map fun cpu => (cpu, node.1)

def cpuToNuma (nodes : OrderedMap UInt32 CpuSet) :
    Except SysboostError (OrderedMap UInt32 UInt32) :=
  (nodes.entries.flatMap membersOf).foldlM
    (insertNew (topologyError "NUMA facts assign one CPU to multiple NUMA nodes")) .empty

/-- The online CPUs: those declared, or those whose entries are online. -/
def onlineCpus (declared : Option CpuSet) (entries : List CpuTopologyEntry) :
    Except SysboostError (Option CpuSet) :=
  match declared with
  | some declared => return some declared
  | none =>
      let ids := (entries.filter CpuTopologyEntry.online).map CpuTopologyEntry.cpu
      if ids.isEmpty then return none else return some (← CpuSet.new ids)

/-- The thread siblings of a CPU, filtered to the online CPUs where these are known. -/
def normalizeSiblings (online : Option CpuSet) (id : UInt32) (siblings : Option CpuSet) :
    Except SysboostError CpuSet :=
  match online with
  | some online =>
      let filtered := ((siblings.map CpuSet.asSlice).getD []).filter (CpuSet.contains online)
      CpuSet.new (if filtered.isEmpty then [id] else filtered)
  | none =>
      match siblings with
      | some siblings => return siblings
      | none => CpuSet.new [id]

/-- The loop body of `from_facts` over the CPUs. -/
def normalizeCpu (entries : OrderedMap UInt32 CpuTopologyEntry) (online : Option CpuSet)
    (numa : OrderedMap UInt32 UInt32) (id : UInt32) : Except SysboostError CpuTopologyCpu := do
  let entry := entries.get id
  let siblings ← parseCpuLists (entry.bind CpuTopologyEntry.threadSiblings)
  if siblings.any fun siblings => !CpuSet.contains siblings id then
    throw (topologyError "CPU thread-sibling metadata does not contain its owning CPU")
  let isOnline := online.any (fun online => CpuSet.contains online id) ||
    (online.isNone && entry.any CpuTopologyEntry.online)
  return {
    id
    packageId := entry.bind CpuTopologyEntry.packageId
    coreId := entry.bind CpuTopologyEntry.coreId
    threadSiblings := ← normalizeSiblings online id siblings
    capacity := (entry.bind CpuTopologyEntry.capacity).filter (0 < ·)
    online := isOnline
    numaNode := numa.get id
    performanceClass := .unknown }

/-- Every CPU that is named by a list or an entry, in order. -/
def cpuIds (possible online : Option CpuSet) (entries : OrderedMap UInt32 CpuTopologyEntry) :
    List UInt32 :=
  canonicalCpus ((possible.map CpuSet.asSlice).getD [] ++ (online.map CpuSet.asSlice).getD [] ++
    entries.entries.map Prod.fst)

/-- Normalize discovery facts and NUMA facts into a planning topology. -/
def CpuTopology.fromFacts (facts : CpuTopologyFacts) (numa : NumaFacts) :
    Except SysboostError CpuTopology := do
  let possible ← parseCpuLists facts.possible
  let declaredOnline ← parseCpuLists facts.online
  let online ← onlineCpus declaredOnline facts.entries
  if possible.any fun possible => online.any fun online =>
      online.asSlice.any fun cpu => !CpuSet.contains possible cpu then
    throw (topologyError "online CPU list contains a CPU outside the possible CPU list")
  let entries ← rawEntries facts.entries
  let ids := cpuIds possible online entries
  if ids.isEmpty then
    throw ((SysboostError.new .capabilityError
      "CPU topology exposes neither possible CPUs nor topology entries").withStage .detect)
  let numaNodes ← normalizeNuma numa
  let numaOf ← cpuToNuma numaNodes
  let cpus ← ids.mapM (normalizeCpu entries online numaOf)
  let (capacityMode, cpus) := classifyCapacities cpus online
  return {
    possible
    online
    cpus
    numaNodes
    capacityMode
    revision := topologyRevision possible online cpus numaNodes }

end Sysboost.Linux.Topology
