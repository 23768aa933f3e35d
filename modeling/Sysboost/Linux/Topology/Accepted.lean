import Sysboost.Linux.Topology.Model
import Sysboost.Results.Loops

/-!
# Accepted topologies

What the records of a topology say about the facts they come from: each CPU that
is named has one record, in order, and the records agree with the online CPUs.
-/

namespace Sysboost.Linux.Topology

open Sysboost.Core ByteCodec Discovery Ordered Results

/-! ## Sets -/

@[simp]
theorem CpuSet.contains_eq_true_iff {cpus : CpuSet} {cpu : UInt32} :
    CpuSet.contains cpus cpu = true ↔ cpu ∈ cpus.asSlice := by
  simp [CpuSet.contains]

theorem mem_canonicalCpus {cpus : List UInt32} {cpu : UInt32} :
    cpu ∈ canonicalCpus cpus ↔ cpu ∈ cpus := by
  have dropped : cpu ∈ dropRepeats (cpus.insertionSort (· ≤ ·)) ↔
      cpu ∈ cpus.insertionSort (· ≤ ·) := mem_dropRepeats
  exact dropped.trans (List.mem_insertionSort _)

theorem mem_of_new {cpus : List UInt32} {made : CpuSet} (ok : CpuSet.new cpus = .ok made)
    {cpu : UInt32} : cpu ∈ made.asSlice ↔ cpu ∈ cpus := by
  unfold CpuSet.new at ok
  split at ok
  · cases ok
  · cases ok
    exact mem_canonicalCpus

/-- A set can be made of CPUs exactly when there are some. -/
theorem exists_new {cpus : List UInt32} (full : cpus ≠ []) : ∃ made, CpuSet.new cpus = .ok made := by
  unfold CpuSet.new
  split
  · rename_i empty
    obtain ⟨cpu, member⟩ := List.exists_mem_of_ne_nil cpus full
    have kept := mem_canonicalCpus.mpr member
    rw [empty] at kept
    cases kept
  · exact ⟨_, rfl⟩

/-- A set below a bound has no more CPUs than the bound. -/
theorem length_le_of_below {cpus : CpuSet} {bound : Nat}
    (below : ∀ cpu ∈ cpus.asSlice, cpu.toNat < bound) : cpus.asSlice.length ≤ bound := by
  have distinct : (cpus.asSlice.map UInt32.toNat).Nodup := by
    rw [List.nodup_map_iff fun _ _ => UInt32.toNat_inj.mp]
    exact cpus.sorted.imp fun less => UInt32.ne_of_lt less
  have inside : cpus.asSlice.map UInt32.toNat ⊆ List.range bound := by
    intro value member
    obtain ⟨cpu, present, rfl⟩ := List.mem_map.mp member
    exact List.mem_range.mpr (below cpu present)
  have shorter := distinct.length_le_of_subset inside
  rwa [List.length_map, List.length_range] at shorter

/-! ## Stages -/

/-- What `from_facts` computes on the way to a topology. -/
structure Stages where
  possible : Option CpuSet
  declared : Option CpuSet
  online : Option CpuSet
  entries : OrderedMap UInt32 CpuTopologyEntry
  numaNodes : OrderedMap UInt32 CpuSet
  numaOf : OrderedMap UInt32 UInt32
  cpus : List CpuTopologyCpu

/-- Every stage succeeds. -/
structure Stages.Pass (stages : Stages) (facts : CpuTopologyFacts) (numa : NumaFacts) : Prop where
  possible : parseCpuLists facts.possible = .ok stages.possible
  declared : parseCpuLists facts.online = .ok stages.declared
  online : onlineCpus stages.declared facts.entries = .ok stages.online
  inside : ∀ possible online, stages.possible = some possible → stages.online = some online →
    ∀ cpu ∈ online.asSlice, cpu ∈ possible.asSlice
  entries : rawEntries facts.entries = .ok stages.entries
  named : cpuIds stages.possible stages.online stages.entries ≠ []
  numaNodes : normalizeNuma numa = .ok stages.numaNodes
  numaOf : cpuToNuma stages.numaNodes = .ok stages.numaOf
  cpus : (cpuIds stages.possible stages.online stages.entries).mapM
    (normalizeCpu stages.entries stages.online stages.numaOf) = .ok stages.cpus

/-- The topology that the stages lead to. -/
def Stages.topology (stages : Stages) : CpuTopology :=
  let (capacityMode, cpus) := classifyCapacities stages.cpus stages.online
  { possible := stages.possible
    online := stages.online
    cpus
    numaNodes := stages.numaNodes
    capacityMode
    revision := topologyRevision stages.possible stages.online cpus stages.numaNodes }

/-- No online CPU lies outside the possible ones. -/
theorem inside_iff {possible online : Option CpuSet} :
    (¬(possible.any fun possible => online.any fun online =>
        online.asSlice.any fun cpu => !CpuSet.contains possible cpu) = true) ↔
      ∀ possible' online', possible = some possible' → online = some online' →
        ∀ cpu ∈ online'.asSlice, cpu ∈ possible'.asSlice := by
  cases possible with
  | none => simp
  | some possible =>
      cases online with
      | none => simp
      | some online => simp

/-- A topology is accepted exactly when every stage passes. -/
theorem fromFacts_eq_ok_iff {facts : CpuTopologyFacts} {numa : NumaFacts} {topology : CpuTopology} :
    CpuTopology.fromFacts facts numa = .ok topology ↔
      ∃ stages : Stages, stages.Pass facts numa ∧ topology = stages.topology := by
  unfold CpuTopology.fromFacts
  simp only [bind_eq_ok_iff, guard_eq_ok_iff]
  constructor
  · rintro ⟨possible, parsed, declared, parsed', online, known, inside, entries, distinct, named,
      numaNodes, normalized, numaOf, assigned, cpus, made, same⟩
    refine ⟨⟨possible, declared, online, entries, numaNodes, numaOf, cpus⟩, ?_,
      (Except.ok.inj same).symm⟩
    exact {
      possible := parsed
      declared := parsed'
      online := known
      inside := inside_iff.mp inside
      entries := distinct
      named := fun empty => named (by rw [empty]; rfl)
      numaNodes := normalized
      numaOf := assigned
      cpus := made }
  · rintro ⟨stages, pass, rfl⟩
    exact ⟨_, pass.possible, _, pass.declared, _, pass.online, inside_iff.mpr pass.inside, _,
      pass.entries, fun empty => pass.named (List.isEmpty_iff.mp empty), _, pass.numaNodes, _,
      pass.numaOf, _, pass.cpus, rfl⟩

/-! ## Records -/

/-- The record of a CPU, its class still open. -/
def recordOf (entries : OrderedMap UInt32 CpuTopologyEntry) (online : Option CpuSet)
    (numa : OrderedMap UInt32 UInt32) (id : UInt32) (siblings : CpuSet) : CpuTopologyCpu where
  id
  packageId := (entries.get id).bind CpuTopologyEntry.packageId
  coreId := (entries.get id).bind CpuTopologyEntry.coreId
  threadSiblings := siblings
  capacity := ((entries.get id).bind CpuTopologyEntry.capacity).filter (0 < ·)
  online := online.any (fun online => CpuSet.contains online id) ||
    (online.isNone && (entries.get id).any CpuTopologyEntry.online)
  numaNode := numa.get id
  performanceClass := .unknown

theorem normalizeCpu_eq_ok_iff {entries : OrderedMap UInt32 CpuTopologyEntry}
    {online : Option CpuSet} {numa : OrderedMap UInt32 UInt32} {id : UInt32}
    {cpu : CpuTopologyCpu} :
    normalizeCpu entries online numa id = .ok cpu ↔
      ∃ listed, parseCpuLists ((entries.get id).bind CpuTopologyEntry.threadSiblings) = .ok listed ∧
        (∀ siblings, listed = some siblings → id ∈ siblings.asSlice) ∧
        ∃ siblings, normalizeSiblings online id listed = .ok siblings ∧
          cpu = recordOf entries online numa id siblings := by
  have owned (listed : Option CpuSet) :
      (¬(listed.any fun siblings => !CpuSet.contains siblings id) = true) ↔
        ∀ siblings, listed = some siblings → id ∈ siblings.asSlice := by
    cases listed with
    | none => simp
    | some siblings => simp
  unfold normalizeCpu
  simp only [bind_eq_ok_iff, guard_eq_ok_iff, owned]
  constructor
  · rintro ⟨listed, parsed, own, siblings, kept, same⟩
    exact ⟨listed, parsed, own, siblings, kept, (Except.ok.inj same).symm⟩
  · rintro ⟨listed, parsed, own, siblings, kept, rfl⟩
    exact ⟨listed, parsed, own, siblings, kept, rfl⟩

/-- The siblings of a CPU are itself or online, and an online CPU is its own sibling. -/
theorem normalizeSiblings_spec {online : CpuSet} {id : UInt32} {listed : Option CpuSet}
    {siblings : CpuSet} (own : ∀ siblings, listed = some siblings → id ∈ siblings.asSlice)
    (kept : normalizeSiblings (some online) id listed = .ok siblings) :
    (∀ cpu ∈ siblings.asSlice, cpu = id ∨ cpu ∈ online.asSlice) ∧
      (id ∈ online.asSlice → id ∈ siblings.asSlice) := by
  have members (cpu : UInt32) : cpu ∈ siblings.asSlice ↔ _ := mem_of_new kept
  generalize filtered : ((listed.map CpuSet.asSlice).getD []).filter (CpuSet.contains online) =
    inside at members
  constructor
  · intro cpu member
    rw [members] at member
    split at member
    · exact .inl (List.mem_singleton.mp member)
    · rw [← filtered] at member
      exact .inr (CpuSet.contains_eq_true_iff.mp (List.mem_filter.mp member).2)
  · intro present
    rw [members]
    split
    · exact List.mem_singleton_self id
    · rename_i full
      rw [← filtered] at full ⊢
      cases listed with
      | none => exact absurd rfl full
      | some siblings =>
          apply List.mem_filter.mpr
          exact ⟨own siblings rfl, CpuSet.contains_eq_true_iff.mpr present⟩

/-- Classification only sets the classes of online CPUs. -/
theorem classifyCapacities_map (cpus : List CpuTopologyCpu) (online : Option CpuSet) :
    ∃ classes : CpuTopologyCpu → CpuPerformanceClass,
      (classifyCapacities cpus online).2 =
        cpus.map (fun cpu => { cpu with performanceClass := classes cpu }) ∧
      ∀ cpu, (∀ online', online = some online' → cpu.id ∉ online'.asSlice) →
        classes cpu = cpu.performanceClass := by
  have same : cpus = cpus.map fun cpu => { cpu with performanceClass := cpu.performanceClass } :=
    (List.map_id cpus).symm
  have unchanged : ∃ classes : CpuTopologyCpu → CpuPerformanceClass,
      cpus = cpus.map (fun cpu => { cpu with performanceClass := classes cpu }) ∧
      ∀ cpu, (∀ online', online = some online' → cpu.id ∉ online'.asSlice) →
        classes cpu = cpu.performanceClass :=
    ⟨CpuTopologyCpu.performanceClass, same, fun _ _ => rfl⟩
  unfold classifyCapacities
  split
  · exact unchanged
  · rename_i online
    split
    · exact unchanged
    · split
      · exact unchanged
      · rename_i capacities _ _
        simp only
        split
        · exact unchanged
        · generalize (dropRepeats (sortBy UInt64.toNat capacities)).getLast?.getD 0 = maximum
          refine ⟨fun cpu => if CpuSet.contains online cpu.id then classFor maximum cpu.capacity
            else cpu.performanceClass, ?_, ?_⟩
          · apply List.map_congr_left
            intro cpu _
            by_cases present : CpuSet.contains online cpu.id = true
            · simp only [if_pos present]
            · simp only [if_neg present]
          · intro cpu offline
            exact if_neg fun present => offline online rfl (CpuSet.contains_eq_true_iff.mp present)

/-- What every accepted topology satisfies. -/
structure CpuTopology.WellFormed (topology : CpuTopology) : Prop where
  ascending : (topology.cpus.map CpuTopologyCpu.id).Pairwise (· < ·)
  recorded : ∀ online, topology.online = some online → ∀ id ∈ online.asSlice,
    ∃ cpu ∈ topology.cpus, cpu.id = id
  siblings : ∀ online, topology.online = some online → ∀ cpu ∈ topology.cpus,
    ∀ id ∈ cpu.threadSiblings.asSlice, id = cpu.id ∨ id ∈ online.asSlice
  own : ∀ online, topology.online = some online → ∀ cpu ∈ topology.cpus,
    cpu.id ∈ online.asSlice → cpu.id ∈ cpu.threadSiblings.asSlice

theorem Stages.Pass.map_id {stages : Stages} {facts : CpuTopologyFacts} {numa : NumaFacts}
    (pass : stages.Pass facts numa) :
    stages.topology.cpus.map CpuTopologyCpu.id =
      cpuIds stages.possible stages.online stages.entries := by
  obtain ⟨classes, classified, -⟩ := classifyCapacities_map stages.cpus stages.online
  have kept : stages.topology.cpus.map CpuTopologyCpu.id = stages.cpus.map CpuTopologyCpu.id := by
    rw [show stages.topology.cpus = _ from classified, List.map_map]
    rfl
  rw [kept]
  have made := mapM_eq_ok_iff.mp pass.cpus
  generalize cpuIds stages.possible stages.online stages.entries = ids at made ⊢
  generalize stages.cpus = cpus at made ⊢
  induction made with
  | nil => rfl
  | cons first _ ih =>
      obtain ⟨_, _, _, _, _, rfl⟩ := normalizeCpu_eq_ok_iff.mp first
      rw [List.map_cons, ih]
      rfl

/-- A record of the topology is a record of a CPU, with its class. -/
theorem Stages.Pass.exists_record {stages : Stages} {facts : CpuTopologyFacts} {numa : NumaFacts}
    (pass : stages.Pass facts numa) {cpu : CpuTopologyCpu} (member : cpu ∈ stages.topology.cpus) :
    ∃ listed siblings performanceClass,
      parseCpuLists ((stages.entries.get cpu.id).bind CpuTopologyEntry.threadSiblings) =
        .ok listed ∧
      (∀ siblings, listed = some siblings → cpu.id ∈ siblings.asSlice) ∧
      normalizeSiblings stages.online cpu.id listed = .ok siblings ∧
      cpu = { recordOf stages.entries stages.online stages.numaOf cpu.id siblings with
        performanceClass := performanceClass } := by
  obtain ⟨classes, classified, -⟩ := classifyCapacities_map stages.cpus stages.online
  rw [show stages.topology.cpus = _ from classified] at member
  obtain ⟨record, present, rfl⟩ := List.mem_map.mp member
  obtain ⟨id, -, made⟩ := exists_of_mapM_mem pass.cpus present
  obtain ⟨listed, parsed, own, siblings, kept, rfl⟩ := normalizeCpu_eq_ok_iff.mp made
  exact ⟨listed, siblings, _, parsed, own, kept, rfl⟩

theorem wellFormed_of_fromFacts {facts : CpuTopologyFacts} {numa : NumaFacts}
    {topology : CpuTopology} (accepted : CpuTopology.fromFacts facts numa = .ok topology) :
    topology.WellFormed := by
  obtain ⟨stages, pass, rfl⟩ := fromFacts_eq_ok_iff.mp accepted
  have ids := pass.map_id
  constructor
  · rw [ids]
    exact canonicalCpus_sorted _
  · intro online known id present
    have named : id ∈ cpuIds stages.possible stages.online stages.entries := by
      rw [cpuIds, mem_canonicalCpus, show stages.online = some online from known]
      exact List.mem_append_left _ (List.mem_append_right _ present)
    rw [← ids] at named
    exact List.mem_map.mp named
  · intro online known cpu member id sibling
    obtain ⟨listed, siblings, _, -, own, kept, same⟩ := pass.exists_record member
    rw [show stages.online = some online from known] at kept
    rw [same] at sibling
    exact (normalizeSiblings_spec own kept).1 id sibling
  · intro online known cpu member present
    obtain ⟨listed, siblings, _, -, own, kept, same⟩ := pass.exists_record member
    rw [show stages.online = some online from known] at kept
    have inside := (normalizeSiblings_spec own kept).2 present
    rw [same]
    exact inside

/-! ## Bounds -/

/-- A part of a list adds the CPUs of a range, or one CPU. -/
theorem parseCpuPart_eq_ok {cpus after : List UInt32} {part : String}
    (step : parseCpuPart cpus part = .ok after) :
    after.length ≤ cpusetCapacityLimit ∧
      ((∃ first last low high, splitFirst '-' part = some (first, last) ∧
          parseNumber (2 ^ 32) first = some low ∧ parseNumber (2 ^ 32) last = some high ∧
          low ≤ high ∧
          after = cpus ++ (List.range' low (high - low + 1)).map UInt32.ofNat) ∨
        ∃ number, splitFirst '-' part = none ∧ parseNumber (2 ^ 32) part = some number ∧
          after = cpus ++ [UInt32.ofNat number]) := by
  have checked (listed : List UInt32) (passed : (do
      if cpusetCapacityLimit < listed.length then
        throw (topologyError "CPU list exceeds the bounded planning size")
      return listed : Except SysboostError (List UInt32)) = .ok after) :
      after.length ≤ cpusetCapacityLimit ∧ after = listed := by
    obtain ⟨bounded, same⟩ := guard_eq_ok_iff.mp passed
    cases same
    exact ⟨Nat.le_of_not_lt bounded, rfl⟩
  unfold parseCpuPart at step
  obtain ⟨-, step⟩ := guard_eq_ok_iff.mp step
  split at step
  next first last cut =>
    split at step
    · cases step
    next low start =>
      split at step
      · cases step
      next high stop =>
        simp only [guard_eq_ok_iff] at step
        obtain ⟨ordered, -, step⟩ := step
        obtain ⟨bounded, same⟩ := checked _ step
        exact ⟨bounded, .inl ⟨first, last, low, high, cut, start, stop,
          Nat.le_of_not_lt ordered, same⟩⟩
  next whole =>
    split at step
    · cases step
    next number read =>
      obtain ⟨bounded, same⟩ := checked _ step
      exact ⟨bounded, .inr ⟨number, whole, read, same⟩⟩

theorem parseCpuList_length {text : String} {cpus : CpuSet} (parsed : parseCpuList text = .ok cpus) :
    cpus.asSlice.length ≤ cpusetCapacityLimit := by
  simp only [parseCpuList, bind_eq_ok_iff, guard_eq_ok_iff] at parsed
  obtain ⟨-, listed, parsed, made⟩ := parsed
  have bounded : listed.length ≤ cpusetCapacityLimit := by
    apply foldlM_eq_ok (p := fun cpus _ => cpus.length ≤ cpusetCapacityLimit) parsed
    · exact Nat.zero_le _
    · exact fun cpus front part rest after _ _ step => (parseCpuPart_eq_ok step).1
  exact (CpuSet.length_le_of_new made).trans bounded

theorem parseCpuLists_length {text : Option String} {cpus : CpuSet}
    (parsed : parseCpuLists text = .ok (some cpus)) :
    cpus.asSlice.length ≤ cpusetCapacityLimit := by
  cases text with
  | none => cases parsed
  | some text =>
      obtain ⟨listed, parsed, same⟩ := bind_eq_ok_iff.mp parsed
      cases same
      exact parseCpuList_length parsed

theorem normalizeSiblings_length {online : Option CpuSet} {id : UInt32} {listed : Option CpuSet}
    {siblings : CpuSet}
    (bounded : ∀ siblings, listed = some siblings → siblings.asSlice.length ≤ cpusetCapacityLimit)
    (kept : normalizeSiblings online id listed = .ok siblings) :
    siblings.asSlice.length ≤ cpusetCapacityLimit := by
  have single : [id].length ≤ cpusetCapacityLimit := (by decide : 1 ≤ cpusetCapacityLimit)
  have inside : ((listed.map CpuSet.asSlice).getD []).length ≤ cpusetCapacityLimit := by
    cases listed with
    | none => exact Nat.zero_le _
    | some listed => exact bounded listed rfl
  cases online with
  | none =>
      cases listed with
      | none => exact (CpuSet.length_le_of_new kept).trans single
      | some listed =>
          cases kept
          exact inside
  | some online =>
      apply (CpuSet.length_le_of_new kept).trans
      split
      · exact single
      · exact (List.length_filter_le _ _).trans inside

/-- The sets of the nodes are parsed lists. -/
theorem normalizeNuma_length {numa : NumaFacts} {nodes : OrderedMap UInt32 CpuSet}
    (normalized : normalizeNuma numa = .ok nodes) :
    ∀ node ∈ nodes.entries, node.2.asSlice.length ≤ cpusetCapacityLimit := by
  apply foldlM_eq_ok (p := fun nodes _ =>
    ∀ node ∈ nodes.entries, node.2.asSlice.length ≤ cpusetCapacityLimit) normalized
  · exact fun node member => absurd member List.not_mem_nil
  · intro nodes front facts rest after _ known step
    split at step
    · cases step
      exact known
    · obtain ⟨cpus, parsed, same⟩ := bind_eq_ok_iff.mp step
      cases same
      intro node member
      rcases OrderedMap.mem_place member with rfl | member
      · exact parseCpuList_length parsed
      · exact known node member

/-! ## Capacities -/

/-- The mode is read from the capacities of the online CPUs alone. -/
theorem classifyCapacities_mode {cpus others : List CpuTopologyCpu} {online : CpuSet}
    (same : onlineCapacities cpus online = onlineCapacities others online) :
    (classifyCapacities cpus (some online)).1 = (classifyCapacities others (some online)).1 := by
  unfold classifyCapacities
  simp only [same]
  split
  · rfl
  · split
    · rfl
    · split
      · rfl
      · rfl

/-- Classes do not change the mode. -/
theorem classifyCapacities_again (cpus : List CpuTopologyCpu) (online : Option CpuSet) :
    (classifyCapacities (classifyCapacities cpus online).2 online).1 =
      (classifyCapacities cpus online).1 := by
  obtain ⟨classes, classified, -⟩ := classifyCapacities_map cpus online
  cases online with
  | none => rfl
  | some online =>
      apply classifyCapacities_mode
      rw [classified, onlineCapacities, onlineCapacities, List.filter_map, List.mapM_map]
      rfl

/-- What the records of an accepted topology hold beside its sets. -/
structure CpuTopology.Derived (topology : CpuTopology) : Prop where
  flagged : ∀ online, topology.online = some online → ∀ cpu ∈ topology.cpus,
    cpu.online = CpuSet.contains online cpu.id
  unclassified : ∀ online, topology.online = some online → ∀ cpu ∈ topology.cpus,
    cpu.id ∉ online.asSlice → cpu.performanceClass = .unknown
  capacity : ∀ cpu ∈ topology.cpus, cpu.capacity ≠ some 0
  fewSiblings : ∀ cpu ∈ topology.cpus, cpu.threadSiblings.asSlice.length ≤ cpusetCapacityLimit
  fewMembers : ∀ node ∈ topology.numaNodes.entries, node.2.asSlice.length ≤ cpusetCapacityLimit
  located : ∃ numaOf, cpuToNuma topology.numaNodes = .ok numaOf ∧
    ∀ cpu ∈ topology.cpus, cpu.numaNode = numaOf.get cpu.id
  mode : (classifyCapacities topology.cpus topology.online).1 = topology.capacityMode
  revision : topology.revision =
    topologyRevision topology.possible topology.online topology.cpus topology.numaNodes

theorem derived_of_fromFacts {facts : CpuTopologyFacts} {numa : NumaFacts}
    {topology : CpuTopology} (accepted : CpuTopology.fromFacts facts numa = .ok topology) :
    topology.Derived := by
  obtain ⟨stages, pass, rfl⟩ := fromFacts_eq_ok_iff.mp accepted
  constructor
  · intro online known cpu member
    obtain ⟨_, _, _, -, -, -, same⟩ := pass.exists_record member
    have known : stages.online = some online := known
    rw [same, known]
    simp [recordOf]
  · intro online known cpu member offline
    obtain ⟨classes, classified, kept⟩ := classifyCapacities_map stages.cpus stages.online
    rw [show stages.topology.cpus = _ from classified] at member
    obtain ⟨record, present, rfl⟩ := List.mem_map.mp member
    obtain ⟨id, -, made⟩ := exists_of_mapM_mem pass.cpus present
    obtain ⟨_, _, _, _, _, rfl⟩ := normalizeCpu_eq_ok_iff.mp made
    apply kept
    intro online' known'
    cases (show stages.online = some online from known).symm.trans known'
    exact offline
  · intro cpu member zero
    obtain ⟨_, _, _, -, -, -, same⟩ := pass.exists_record member
    rw [same] at zero
    have positive := (Option.filter_eq_some_iff.mp zero).2
    exact absurd positive (by decide)
  · intro cpu member
    obtain ⟨listed, siblings, _, parsed, -, kept, same⟩ := pass.exists_record member
    rw [same]
    apply normalizeSiblings_length _ kept
    rintro siblings rfl
    exact parseCpuLists_length parsed
  · exact normalizeNuma_length pass.numaNodes
  · refine ⟨stages.numaOf, pass.numaOf, ?_⟩
    intro cpu member
    obtain ⟨_, _, _, -, -, -, same⟩ := pass.exists_record member
    rw [same]
    rfl
  · exact classifyCapacities_again stages.cpus stages.online
  · rfl

end Sysboost.Linux.Topology
