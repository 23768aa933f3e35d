import Sysboost.Linux.Topology.Partition

/-!
# Thread siblings and core groups

A CPU whose package and core are known is grouped by them, and one whose are not
by its siblings.  Nothing relates the two, so siblings stay together only where
their records agree.
-/

namespace Sysboost.Linux.Topology

open Sysboost.Core Discovery Results

/-- Both records name the same core, or neither names one and their siblings agree. -/
def SameCore (first second : CpuTopologyCpu) : Prop :=
  (∃ package core, first.packageId = some package ∧ first.coreId = some core ∧
    second.packageId = some package ∧ second.coreId = some core) ∨
  ((first.packageId = none ∨ first.coreId = none) ∧
    (second.packageId = none ∨ second.coreId = none) ∧
    first.threadSiblings = second.threadSiblings)

theorem coreKey_eq_iff {first second : CpuTopologyCpu} :
    first.coreKey = second.coreKey ↔ SameCore first second := by
  unfold CpuTopologyCpu.coreKey SameCore
  cases first.packageId <;> cases first.coreId <;> cases second.packageId <;>
    cases second.coreId <;> simp [eq_comm]

/-- One CPU is in the workload set and the other one in housekeeping. -/
def CpuIsolationPlan.Splits (plan : CpuIsolationPlan) (first second : UInt32) : Prop :=
  (first ∈ plan.workloadCpus.asSlice ∧ second ∈ plan.housekeepingCpus.asSlice) ∨
    (first ∈ plan.housekeepingCpus.asSlice ∧ second ∈ plan.workloadCpus.asSlice)

namespace CpuTopology

variable {topology : CpuTopology} {online : CpuSet}

/-- Both CPUs are in one core group. -/
def Together (topology : CpuTopology) (first second : UInt32) : Prop :=
  ∃ group ∈ topology.coreGroups, first ∈ group.cpus.asSlice ∧ second ∈ group.cpus.asSlice

/-- Two online CPUs are together exactly when their records name the same core. -/
theorem together_iff (wellFormed : topology.WellFormed) (known : topology.online = some online)
    {first second : CpuTopologyCpu} (present : first ∈ topology.onlineRecords online)
    (present' : second ∈ topology.onlineRecords online) :
    topology.Together first.id second.id ↔ SameCore first second := by
  rw [← coreKey_eq_iff]
  constructor
  · rintro ⟨group, grouped, member, member'⟩
    obtain ⟨cpu, _, members⟩ := mem_group_iff known grouped
    obtain ⟨other, record, key, same⟩ := (members first.id).mp member
    obtain ⟨other', record', key', same'⟩ := (members second.id).mp member'
    have own := record_unique wellFormed (mem_onlineRecords.mp record).1
      (mem_onlineRecords.mp present).1 same
    have own' := record_unique wellFormed (mem_onlineRecords.mp record').1
      (mem_onlineRecords.mp present').1 same'
    rw [← own, ← own', key, key']
  · intro same
    obtain ⟨group, grouped, members⟩ := exists_coreGroup known present
    refine ⟨group, grouped, ?_, ?_⟩
    · exact (members first.id).mpr ⟨first, present, rfl, rfl⟩
    · exact (members second.id).mpr ⟨second, present', same.symm, rfl⟩

/-- CPUs that are together are not split by a placement. -/
theorem Placement.not_splits (wellFormed : topology.WellFormed) {policy : CpuSelectionPolicy}
    {chosen : List CpuCoreGroup} {plan : CpuIsolationPlan}
    (placement : topology.Placement policy online chosen plan) {first second : UInt32}
    (together : topology.Together first second) : ¬plan.Splits first second := by
  obtain ⟨group, grouped, member, member'⟩ := together
  have apart := pairwise_coreGroups wellFormed placement.known
  have whole {cpu other : UInt32} (own : cpu ∈ group.cpus.asSlice)
      (own' : other ∈ group.cpus.asSlice) (works : cpu ∈ plan.workloadCpus.asSlice) :
      other ∈ plan.workloadCpus.asSlice := by
    obtain ⟨taken, chosen, inside⟩ := (placement.whole cpu).mp works
    by_cases same : group = taken
    · subst same
      exact (placement.whole other).mpr ⟨group, chosen, own'⟩
    · exact absurd inside (apart.forall grouped (placement.groups taken chosen) same cpu own)
  rintro (⟨works, keeps⟩ | ⟨keeps, works⟩)
  · exact placement.disjoint second (whole member member' works) keeps
  · exact placement.disjoint first (whole member' member works) keeps

/-- Thread siblings are in one core group, and no selection splits them. -/
def SiblingsTogether (topology : CpuTopology) : Prop :=
  ∀ online, topology.online = some online → ∀ cpu ∈ topology.onlineRecords online,
    ∀ other ∈ topology.onlineRecords online, other.id ∈ cpu.threadSiblings.asSlice →
      topology.Together cpu.id other.id ∧ ∀ policy target plan,
        topology.selectForTarget policy target = .ok plan → ¬plan.Splits cpu.id other.id

/-- The records of thread siblings name the same core. -/
def SiblingsAgree (topology : CpuTopology) : Prop :=
  ∀ online, topology.online = some online → ∀ cpu ∈ topology.onlineRecords online,
    ∀ other ∈ topology.onlineRecords online, other.id ∈ cpu.threadSiblings.asSlice →
      SameCore cpu other

/-- Thread siblings stay together exactly where their records agree. -/
theorem siblingsTogether_iff {facts : CpuTopologyFacts} {numa : NumaFacts}
    (accepted : fromFacts facts numa = .ok topology) :
    topology.SiblingsTogether ↔ topology.SiblingsAgree := by
  have wellFormed := wellFormed_of_fromFacts accepted
  constructor
  · intro together online known cpu present other present' sibling
    rw [← together_iff wellFormed known present present']
    exact (together online known cpu present other present' sibling).1
  · intro agree online known cpu present other present' sibling
    have together : topology.Together cpu.id other.id := by
      rw [together_iff wellFormed known present present']
      exact agree online known cpu present other present' sibling
    refine ⟨together, ?_⟩
    intro policy target plan selected
    obtain ⟨_, _, placement⟩ := placement_of_selectForTarget accepted selected
    exact placement.not_splits wellFormed together

end CpuTopology

theorem siblingsTogether_iff_cores :
    ∃ topology, CpuTopology.fromFacts Fixture.facts Fixture.numa = .ok topology ∧
      (topology.SiblingsTogether ↔ topology.SiblingsAgree) := by
  have runs : ((CpuTopology.fromFacts Fixture.facts Fixture.numa).toOption.any fun _ => true) =
      true := by
    decide +kernel
  obtain ⟨topology, accepted, -⟩ := exists_ok_of_any runs
  exact ⟨topology, accepted, CpuTopology.siblingsTogether_iff accepted⟩

/-- Two threads of one core, of which only the first names the core. -/
def Fixture.mixedFacts : CpuTopologyFacts where
  possible := some "0-1"
  online := some "0-1"
  entries := [entry 0 (some 0) (some 0) "0-1", entry 1 none none "0-1"]
  heterogeneous := false

/-- The two threads are split between workload and housekeeping. -/
theorem siblings_split :
    ∃ topology plan, CpuTopology.fromFacts Fixture.mixedFacts ⟨[]⟩ = .ok topology ∧
      topology.select ⟨false, none, none⟩ = .ok plan ∧
      (∃ cpu ∈ topology.cpus, cpu.id = 0 ∧ 1 ∈ cpu.threadSiblings.asSlice) ∧
      ¬topology.Together 0 1 ∧ plan.Splits 0 1 := by
  have runs : ((CpuTopology.fromFacts Fixture.mixedFacts ⟨[]⟩).toOption.any fun topology =>
      (topology.select ⟨false, none, none⟩).toOption.any fun plan =>
        (topology.cpus.any fun cpu => cpu.id = 0 && cpu.threadSiblings.asSlice.contains 1) &&
          (topology.coreGroups.all fun group => !group.cpus.asSlice.contains 0 ||
            !group.cpus.asSlice.contains 1) &&
          (plan.workloadCpus.asSlice = [0] && plan.housekeepingCpus.asSlice = [1])) = true := by
    decide +kernel
  obtain ⟨topology, accepted, runs⟩ := exists_ok_of_any runs
  obtain ⟨plan, selected, runs⟩ := exists_ok_of_any runs
  simp only [Bool.and_eq_true, List.any_eq_true, List.all_eq_true, decide_eq_true_eq,
    List.contains_iff_mem, Bool.or_eq_true, Bool.not_eq_true'] at runs
  obtain ⟨⟨⟨cpu, present, own, sibling⟩, apart⟩, workload, housekeeping⟩ := runs
  refine ⟨topology, plan, accepted, selected, ⟨cpu, present, own, sibling⟩, ?_, .inl ⟨?_, ?_⟩⟩
  · rintro ⟨group, grouped, member, member'⟩
    rcases apart group grouped with absent | absent
    · simp [member] at absent
    · simp [member'] at absent
  · simp [workload]
  · simp [housekeeping]

end Sysboost.Linux.Topology
