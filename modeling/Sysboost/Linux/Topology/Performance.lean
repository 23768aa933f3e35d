import Sysboost.Linux.Topology.Partition

/-!
# Performance cores come first

On a topology whose capacities differ, a group is a performance group when all
of its CPUs have the greatest capacity, and an efficiency group when none has.
A selection that prefers performance cores takes no efficiency group before the
last performance group; on any other topology the preference changes nothing.
-/

namespace Sysboost.Linux.Topology

open Sysboost.Core ByteCodec Discovery Ordered Results

/-! ## Classes of CPUs -/

theorem classFor_eq_performance_iff {maximum capacity : UInt64} :
    classFor maximum (some capacity) = .performance ↔ capacity = maximum := by
  simp [classFor]

theorem classFor_eq_efficiency_iff {maximum capacity : UInt64} :
    classFor maximum (some capacity) = .efficiency ↔ capacity ≠ maximum := by
  simp [classFor]

/-- Capacities are proven to differ when every online CPU has one, and then the
classes compare them with the greatest. -/
theorem classifyCapacities_proven {cpus : List CpuTopologyCpu} {online : Option CpuSet}
    (named : ∀ online', online = some online' → ∃ cpu ∈ cpus, cpu.id ∈ online'.asSlice)
    (proven : (classifyCapacities cpus online).1 = .heterogeneousProven) :
    ∃ online' capacities greatest, online = some online' ∧
      onlineCapacities cpus online' = some capacities ∧ greatest ∈ capacities ∧
      (∀ capacity ∈ capacities, capacity ≤ greatest) ∧
      (classifyCapacities cpus online).2 = cpus.map fun cpu =>
        if CpuSet.contains online' cpu.id then
          { cpu with performanceClass := classFor greatest cpu.capacity }
        else cpu := by
  unfold classifyCapacities at proven ⊢
  split at proven
  · cases proven
  next online =>
    split at proven
    · cases proven
    next capacities known =>
      split at proven
      · cases proven
      next positive =>
        simp only at proven
        split at proven
        · cases proven
        next several =>
          simp only [if_neg positive, if_neg several]
          cases last : (dropRepeats (sortBy UInt64.toNat capacities)).getLast? with
          | none =>
              obtain ⟨cpu, member, present⟩ := named online rfl
              have listed := map_eq_of_mapM_eq_some known
              have empty : capacities = [] := by
                apply List.eq_nil_iff_forall_not_mem.mpr
                intro capacity member
                rw [← mem_sortBy UInt64.toNat, ← mem_dropRepeats,
                  List.getLast?_eq_none_iff.mp last] at member
                cases member
              rw [empty, List.map_nil, List.map_eq_nil_iff, List.filter_eq_nil_iff] at listed
              exact absurd (CpuSet.contains_eq_true_iff.mpr present) (listed cpu member)
          | some greatest =>
              obtain ⟨member, most⟩ := getLast?_dropRepeats_sortBy last
              exact ⟨online, capacities, greatest, rfl, known, member, most, rfl⟩

/-! ## Classes of groups -/

/-- A value is agreed on when every one of the CPUs has it. -/
theorem agreed_eq_some_iff {α : Type} [DecidableEq α] {members : List CpuTopologyCpu}
    (full : members ≠ []) {value : CpuTopologyCpu → Option α} {shared : α} :
    agreed members value = some shared ↔ ∀ cpu ∈ members, value cpu = some shared := by
  cases members with
  | nil => exact absurd rfl full
  | cons first rest =>
      rw [agreed, Option.filter_eq_some_iff, List.all_eq_true]
      simp only [List.head?_cons, Option.bind_some, decide_eq_true_eq]
      constructor
      · exact fun agrees => agrees.2
      · exact fun all => ⟨all first List.mem_cons_self, all⟩

/-- A group has a definite class when all of its CPUs have it. -/
theorem performanceClass_coreGroup {members : List CpuTopologyCpu} {group : CpuCoreGroup}
    (grouped : coreGroup members = some group) {performanceClass : CpuPerformanceClass}
    (definite : performanceClass ≠ .unknown) :
    group.performanceClass = performanceClass ↔
      ∀ cpu ∈ members, cpu.performanceClass = performanceClass := by
  have full : sortBy CpuTopologyCpu.id members ≠ [] := by
    obtain ⟨id, member⟩ := List.exists_mem_of_ne_nil _ group.cpus.nonempty
    obtain ⟨cpu, present, -⟩ := (mem_coreGroup grouped).mp member
    exact List.ne_nil_of_mem ((mem_sortBy _).mpr present)
  have own : group.performanceClass = (agreed (sortBy CpuTopologyCpu.id members)
      fun cpu => some cpu.performanceClass).getD .unknown := by
    obtain ⟨cpus, -, rfl⟩ := Option.map_eq_some_iff.mp grouped
    rfl
  have agrees : agreed (sortBy CpuTopologyCpu.id members)
      (fun cpu => some cpu.performanceClass) = some performanceClass ↔ _ := agreed_eq_some_iff full
  simp only [mem_sortBy, Option.some.injEq] at agrees
  rw [own, ← agrees]
  cases agreed (sortBy CpuTopologyCpu.id members) fun cpu => some cpu.performanceClass with
  | none => simp [definite.symm]
  | some shared => simp

namespace CpuTopology

variable {topology : CpuTopology} {online : CpuSet}

/-- The class of a group in the list of groups. -/
theorem performanceClass_iff (wellFormed : topology.WellFormed)
    (known : topology.online = some online) {group : CpuCoreGroup}
    (present : group ∈ topology.coreGroups) {performanceClass : CpuPerformanceClass}
    (definite : performanceClass ≠ .unknown) :
    group.performanceClass = performanceClass ↔ ∀ cpu ∈ topology.onlineRecords online,
      cpu.id ∈ group.cpus.asSlice → cpu.performanceClass = performanceClass := by
  obtain ⟨first, -, made⟩ := (mem_coreGroups_iff known).mp present
  rw [performanceClass_coreGroup made definite]
  constructor
  · intro all cpu record own
    obtain ⟨other, member, same⟩ := (mem_coreGroup made).mp own
    have listed := (mem_onlineRecords.mp (List.mem_filter.mp member).1).1
    rw [← record_unique wellFormed listed (mem_onlineRecords.mp record).1 same]
    exact all other member
  · intro all cpu member
    exact all cpu (List.mem_filter.mp member).1 ((mem_coreGroup made).mpr ⟨cpu, member, rfl⟩)

/-- The online CPUs are rated by the greatest of their capacities. -/
structure Rated (topology : CpuTopology) (online : CpuSet) (greatest : UInt64) : Prop where
  reached : ∃ cpu ∈ topology.onlineRecords online, cpu.capacity = some greatest
  rated : ∀ cpu ∈ topology.onlineRecords online, ∃ capacity ≤ greatest,
    cpu.capacity = some capacity ∧ cpu.performanceClass = classFor greatest (some capacity)

theorem rated_of_fromFacts {facts : CpuTopologyFacts} {numa : NumaFacts}
    (accepted : CpuTopology.fromFacts facts numa = .ok topology)
    (proven : topology.capacityMode = .heterogeneousProven) :
    ∃ online greatest, topology.online = some online ∧ topology.Rated online greatest := by
  have wellFormed := wellFormed_of_fromFacts accepted
  obtain ⟨stages, pass, rfl⟩ := fromFacts_eq_ok_iff.mp accepted
  have named (online : CpuSet) (known : stages.online = some online) :
      ∃ cpu ∈ stages.cpus, cpu.id ∈ online.asSlice := by
    obtain ⟨id, present⟩ := List.exists_mem_of_ne_nil _ online.nonempty
    obtain ⟨cpu, member, rfl⟩ := wellFormed.recorded online known id present
    obtain ⟨classes, classified, -⟩ := classifyCapacities_map stages.cpus stages.online
    rw [show stages.topology.cpus = _ from classified] at member
    obtain ⟨record, listed, rfl⟩ := List.mem_map.mp member
    exact ⟨record, listed, present⟩
  obtain ⟨online, capacities, greatest, known, listed, member, most, classified⟩ :=
    classifyCapacities_proven named proven
  have capacity (value : Option UInt64) : (∃ cpu ∈ stages.cpus, cpu.id ∈ online.asSlice ∧
      cpu.capacity = value) ↔ ∃ capacity ∈ capacities, some capacity = value := by
    have member : value ∈ (stages.cpus.filter fun cpu =>
        CpuSet.contains online cpu.id).map CpuTopologyCpu.capacity ↔
          value ∈ capacities.map some := by
      rw [map_eq_of_mapM_eq_some listed]
    simpa [and_assoc] using member
  have records (cpu : CpuTopologyCpu) : cpu ∈ stages.topology.onlineRecords online ↔
      ∃ record ∈ stages.cpus, record.id ∈ online.asSlice ∧
        { record with performanceClass := classFor greatest record.capacity } = cpu := by
    rw [mem_onlineRecords, show stages.topology.cpus = _ from classified, List.mem_map]
    constructor
    · rintro ⟨⟨record, present, rfl⟩, own⟩
      by_cases inside : record.id ∈ online.asSlice
      · exact ⟨record, present, inside, by rw [if_pos (CpuSet.contains_eq_true_iff.mpr inside)]⟩
      · rw [if_neg fun contained => inside (CpuSet.contains_eq_true_iff.mp contained)] at own
        exact absurd own inside
    · rintro ⟨record, present, inside, rfl⟩
      exact ⟨⟨record, present, if_pos (CpuSet.contains_eq_true_iff.mpr inside)⟩, inside⟩
  refine ⟨online, greatest, known, ?_, ?_⟩
  · obtain ⟨record, present, inside, own⟩ := (capacity (some greatest)).mpr ⟨greatest, member, rfl⟩
    exact ⟨_, (records _).mpr ⟨record, present, inside, rfl⟩, own⟩
  · intro cpu online
    obtain ⟨record, present, inside, rfl⟩ := (records cpu).mp online
    obtain ⟨value, listed, own⟩ := (capacity record.capacity).mp ⟨record, present, inside, rfl⟩
    exact ⟨value, most value listed, own.symm, by rw [own]⟩

/-! ## Selections -/

/-- No CPU of a performance group is kept for housekeeping when an efficiency
group is part of the workload. -/
def PerformanceFirst (topology : CpuTopology) (plan : CpuIsolationPlan) : Prop :=
  ∀ slow ∈ topology.coreGroups, slow.performanceClass = .efficiency →
    (∃ cpu ∈ slow.cpus.asSlice, cpu ∈ plan.workloadCpus.asSlice) →
      ∀ fast ∈ topology.coreGroups, fast.performanceClass = .performance →
        ∀ cpu ∈ fast.cpus.asSlice, cpu ∉ plan.housekeepingCpus.asSlice

/-- A group of a better class is preferred where capacities are proven. -/
theorem preference_lt {policy : CpuSelectionPolicy}
    (prefers : policy.preferPerformanceCores = true) (free : policy.preferredNumaNode = none)
    {fast slow : CpuCoreGroup}
    (better : capacityRank fast.performanceClass < capacityRank slow.performanceClass) :
    preference policy .heterogeneousProven fast < preference policy .heterogeneousProven slow := by
  rw [preference, preference, prefers, free]
  apply Prod.Lex.toLex_lt_toLex.mpr
  apply Or.inr
  constructor
  · rfl
  · exact Prod.Lex.toLex_lt_toLex.mpr (.inl better)

/-- The preference for performance cores changes no order where they are not proven. -/
theorem preference_of_not_proven {policy : CpuSelectionPolicy} {mode : CpuCapacityMode}
    (unproven : mode ≠ .heterogeneousProven) :
    preference { policy with preferPerformanceCores := false } mode = preference policy mode := by
  funext group
  simp [preference, unproven]

theorem performanceFirst_of_placement {policy : CpuSelectionPolicy} {chosen : List CpuCoreGroup}
    {plan : CpuIsolationPlan} (wellFormed : topology.WellFormed)
    (prefers : policy.preferPerformanceCores = true) (free : policy.preferredNumaNode = none)
    (proven : topology.capacityMode = .heterogeneousProven)
    (placement : topology.Placement policy online chosen plan) :
    topology.PerformanceFirst plan := by
  intro slow slowGroup slowClass shared fast fastGroup fastClass cpu own kept
  obtain ⟨taken, inside, member⟩ := shared
  obtain ⟨group, present, holds⟩ := (placement.whole taken).mp member
  have same : group = slow := by
    by_contra differs
    exact (pairwise_coreGroups wellFormed placement.known).forall (placement.groups group present)
      slowGroup differs taken holds inside
  have less : preference policy topology.capacityMode fast <
      preference policy topology.capacityMode group := by
    rw [proven, same]
    apply preference_lt prefers free
    rw [fastClass, slowClass]
    decide
  have first : fast ∈ chosen := by
    apply mem_of_prefix_of_lt placement.sorted placement.front present _ less
    exact placement.order.symm.subset fastGroup
  exact placement.disjoint cpu ((placement.whole cpu).mpr ⟨fast, first, own⟩) kept

/-- The workload does not depend on a preference that nothing supports. -/
theorem workload_of_not_proven {policy : CpuSelectionPolicy} {target : Option TargetIdentity}
    (unproven : topology.capacityMode ≠ .heterogeneousProven) :
    (topology.selectForTarget policy target).map CpuIsolationPlan.workloadCpus =
      (topology.selectForTarget { policy with preferPerformanceCores := false } target).map
        CpuIsolationPlan.workloadCpus := by
  have same : candidates { policy with preferPerformanceCores := false } topology.capacityMode
      topology.coreGroups = candidates policy topology.capacityMode topology.coreGroups := by
    rw [candidates, candidates, preference_of_not_proven unproven]
  unfold selectForTarget
  cases topology.online with
  | none => rfl
  | some online =>
      simp only [pure_bind, map_of_bind, map_of_guard, same]
      rfl

/-- What the classes of the groups say of the capacities of the online CPUs. -/
structure Classed (topology : CpuTopology) (online : CpuSet) (greatest : UInt64) : Prop where
  bounded : ∀ cpu ∈ topology.onlineRecords online, ∃ capacity ≤ greatest,
    cpu.capacity = some capacity
  reached : ∃ cpu ∈ topology.onlineRecords online, cpu.capacity = some greatest
  performance : ∀ group ∈ topology.coreGroups, group.performanceClass = .performance ↔
    ∀ cpu ∈ topology.onlineRecords online, cpu.id ∈ group.cpus.asSlice →
      cpu.capacity = some greatest
  efficiency : ∀ group ∈ topology.coreGroups, group.performanceClass = .efficiency ↔
    ∀ cpu ∈ topology.onlineRecords online, cpu.id ∈ group.cpus.asSlice →
      cpu.capacity ≠ some greatest

theorem Rated.classed {greatest : UInt64} (wellFormed : topology.WellFormed)
    (known : topology.online = some online) (rated : topology.Rated online greatest) :
    topology.Classed online greatest := by
  have performance (cpu : CpuTopologyCpu) (record : cpu ∈ topology.onlineRecords online) :
      cpu.performanceClass = .performance ↔ cpu.capacity = some greatest := by
    obtain ⟨capacity, -, own, performanceClass⟩ := rated.rated cpu record
    rw [performanceClass, own, classFor_eq_performance_iff, Option.some.injEq]
  have efficiency (cpu : CpuTopologyCpu) (record : cpu ∈ topology.onlineRecords online) :
      cpu.performanceClass = .efficiency ↔ cpu.capacity ≠ some greatest := by
    obtain ⟨capacity, -, own, performanceClass⟩ := rated.rated cpu record
    rw [performanceClass, own, classFor_eq_efficiency_iff, Ne, Ne, Option.some.injEq]
  constructor
  · intro cpu record
    obtain ⟨capacity, most, own, -⟩ := rated.rated cpu record
    exact ⟨capacity, most, own⟩
  · exact rated.reached
  · intro group present
    rw [performanceClass_iff wellFormed known present (by decide)]
    exact forall₂_congr fun cpu record => imp_congr_right fun _ => performance cpu record
  · intro group present
    rw [performanceClass_iff wellFormed known present (by decide)]
    exact forall₂_congr fun cpu record => imp_congr_right fun _ => efficiency cpu record

end CpuTopology

/-- The preference for performance cores is met where capacities are proven to
differ, and changes no workload elsewhere. -/
theorem performance_preference {facts : CpuTopologyFacts} {numa : NumaFacts}
    {topology : CpuTopology} {policy : CpuSelectionPolicy} {target : Option TargetIdentity}
    (accepted : CpuTopology.fromFacts facts numa = .ok topology)
    (prefers : policy.preferPerformanceCores = true) (free : policy.preferredNumaNode = none) :
    (topology.capacityMode = .heterogeneousProven →
      (∃ online greatest, topology.online = some online ∧ topology.Classed online greatest) ∧
        ∀ plan, topology.selectForTarget policy target = .ok plan →
          topology.PerformanceFirst plan) ∧
    (topology.capacityMode ≠ .heterogeneousProven →
      (topology.selectForTarget policy target).map CpuIsolationPlan.workloadCpus =
        (topology.selectForTarget { policy with preferPerformanceCores := false } target).map
          CpuIsolationPlan.workloadCpus) := by
  have wellFormed := wellFormed_of_fromFacts accepted
  constructor
  · intro proven
    constructor
    · obtain ⟨online, greatest, known, rated⟩ := CpuTopology.rated_of_fromFacts accepted proven
      exact ⟨online, greatest, known, rated.classed wellFormed known⟩
    · intro plan ok
      obtain ⟨online, chosen, placement⟩ := CpuTopology.placement_of_selectForTarget accepted ok
      exact CpuTopology.performanceFirst_of_placement wellFormed prefers free proven placement
  · exact CpuTopology.workload_of_not_proven

namespace Fixture

/-- Two small cores before two cores of the greatest capacity. -/
def hybrid : CpuTopologyFacts where
  possible := some "0-3"
  online := some "0-3"
  entries := [{ entry 0 (some 0) (some 0) "0" with capacity := some 512 },
    { entry 1 (some 0) (some 1) "1" with capacity := some 512 },
    entry 2 (some 0) (some 2) "2", entry 3 (some 0) (some 3) "3"]
  heterogeneous := true

/-- Performance cores on any node. -/
def fast : CpuSelectionPolicy :=
  ⟨true, none, none⟩

end Fixture

theorem performance_preference_hybrid :
    ∃ topology plan, CpuTopology.fromFacts Fixture.hybrid Fixture.numa = .ok topology ∧
      topology.select Fixture.fast = .ok plan ∧ plan.workloadCpus.asSlice = [2, 3] ∧
      topology.PerformanceFirst plan := by
  have runs : ((CpuTopology.fromFacts Fixture.hybrid Fixture.numa).toOption.any fun topology =>
      decide (topology.capacityMode = .heterogeneousProven) &&
        (topology.select Fixture.fast).toOption.any fun plan =>
          plan.workloadCpus.asSlice = [2, 3]) = true := by
    decide +kernel
  obtain ⟨topology, accepted, holds⟩ := exists_ok_of_any runs
  obtain ⟨proven, holds⟩ := Bool.and_eq_true_iff.mp holds
  obtain ⟨plan, selected, workload⟩ := exists_ok_of_any holds
  have prefers : Fixture.fast.preferPerformanceCores = true := rfl
  have preferred : topology.PerformanceFirst plan :=
    ((performance_preference accepted prefers rfl).1 (of_decide_eq_true proven)).2 plan selected
  exact ⟨topology, plan, accepted, selected, of_decide_eq_true workload, preferred⟩

end Sysboost.Linux.Topology
