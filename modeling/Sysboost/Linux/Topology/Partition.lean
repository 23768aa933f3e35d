import Mathlib.Data.List.Flatten
import Sysboost.Linux.Topology.Accepted
import Sysboost.Linux.Topology.Selection

/-!
# Placement parts the online CPUs

The core groups part the online CPUs.  A selection takes a shortest prefix of
the groups in their order of preference and leaves the others for housekeeping.
-/

namespace Sysboost.Linux.Topology

open Sysboost.Core ByteCodec Discovery Ordered Results

/-! ## Groups part the online CPUs -/

/-- The group of some CPUs consists of their numbers. -/
theorem mem_coreGroup {members : List CpuTopologyCpu} {group : CpuCoreGroup}
    (grouped : coreGroup members = some group) {id : UInt32} :
    id ∈ group.cpus.asSlice ↔ ∃ cpu ∈ members, cpu.id = id := by
  cases made : CpuSet.new ((sortBy CpuTopologyCpu.id members).map CpuTopologyCpu.id) with
  | error error => simp [coreGroup, made, Except.toOption] at grouped
  | ok cpus =>
      have own : cpus = group.cpus := by
        simp only [coreGroup, made, Except.toOption, Option.map_some, Option.some.injEq] at grouped
        rw [← grouped]
      rw [← own, mem_of_new made]
      simp

theorem exists_group {members : List CpuTopologyCpu} (full : members ≠ []) :
    ∃ group, coreGroup members = some group := by
  have present : (sortBy CpuTopologyCpu.id members).map CpuTopologyCpu.id ≠ [] := by
    rw [Ne, List.map_eq_nil_iff]
    intro empty
    exact full ((sortBy_perm _ _).symm.trans (.of_eq empty)).eq_nil
  obtain ⟨cpus, made⟩ := exists_new present
  exact ⟨_, by rw [coreGroup, made]; rfl⟩

/-- No CPU is in both groups. -/
def Apart (first second : CpuCoreGroup) : Prop :=
  ∀ id ∈ first.cpus.asSlice, id ∉ second.cpus.asSlice

instance : Std.Symm Apart where
  symm _ _ apart id member member' := apart id member' member

namespace CpuTopology

variable {topology : CpuTopology} {online : CpuSet}

/-- The records of the online CPUs. -/
def onlineRecords (topology : CpuTopology) (online : CpuSet) : List CpuTopologyCpu :=
  topology.cpus.filter fun cpu => CpuSet.contains online cpu.id

theorem mem_onlineRecords {cpu : CpuTopologyCpu} :
    cpu ∈ topology.onlineRecords online ↔ cpu ∈ topology.cpus ∧ cpu.id ∈ online.asSlice := by
  simp [onlineRecords]

/-- A group consists of the online CPUs under one key. -/
theorem mem_coreGroups_iff (known : topology.online = some online) {group : CpuCoreGroup} :
    group ∈ topology.coreGroups ↔ ∃ cpu ∈ topology.onlineRecords online,
      coreGroup ((topology.onlineRecords online).filter fun other =>
        other.coreKey = cpu.coreKey) = some group := by
  simp only [coreGroups, known, mem_sortBy, List.mem_filterMap,
    OrderedMap.mem_values_groupBy_iff]
  constructor
  · rintro ⟨members, ⟨cpu, member, rfl⟩, made⟩
    exact ⟨cpu, member, made⟩
  · rintro ⟨cpu, member, made⟩
    exact ⟨_, ⟨cpu, member, rfl⟩, made⟩

/-- The members of a group are the CPUs with the key of one of them. -/
theorem mem_group_iff (known : topology.online = some online) {group : CpuCoreGroup}
    (present : group ∈ topology.coreGroups) :
    ∃ cpu ∈ topology.onlineRecords online, ∀ id, id ∈ group.cpus.asSlice ↔
      ∃ other ∈ topology.onlineRecords online, other.coreKey = cpu.coreKey ∧ other.id = id := by
  obtain ⟨cpu, member, made⟩ := (mem_coreGroups_iff known).mp present
  refine ⟨cpu, member, ?_⟩
  intro id
  simp [mem_coreGroup made, and_assoc]

/-- Every online CPU has a group, which consists of the CPUs with its key. -/
theorem exists_coreGroup (known : topology.online = some online) {cpu : CpuTopologyCpu}
    (member : cpu ∈ topology.onlineRecords online) :
    ∃ group ∈ topology.coreGroups, ∀ id, id ∈ group.cpus.asSlice ↔
      ∃ other ∈ topology.onlineRecords online, other.coreKey = cpu.coreKey ∧ other.id = id := by
  have full : ((topology.onlineRecords online).filter fun other =>
      other.coreKey = cpu.coreKey) ≠ [] :=
    List.ne_nil_of_mem (List.mem_filter.mpr ⟨member, by simp⟩)
  obtain ⟨group, made⟩ := exists_group full
  refine ⟨group, (mem_coreGroups_iff known).mpr ⟨cpu, member, made⟩, ?_⟩
  intro id
  simp [mem_coreGroup made, and_assoc]

variable (wellFormed : topology.WellFormed)

include wellFormed

/-- A CPU has one record. -/
theorem record_unique {first second : CpuTopologyCpu} (present : first ∈ topology.cpus)
    (present' : second ∈ topology.cpus) (same : first.id = second.id) : first = second := by
  have distinct : (topology.cpus.map CpuTopologyCpu.id).Nodup :=
    wellFormed.ascending.imp fun less => UInt32.ne_of_lt less
  exact List.inj_on_of_nodup_map distinct present present' same

/-- The groups cover exactly the online CPUs. -/
theorem mem_online_iff (known : topology.online = some online) {id : UInt32} :
    id ∈ online.asSlice ↔ ∃ group ∈ topology.coreGroups, id ∈ group.cpus.asSlice := by
  constructor
  · intro present
    obtain ⟨cpu, member, rfl⟩ := wellFormed.recorded online known id present
    have record := mem_onlineRecords.mpr ⟨member, present⟩
    obtain ⟨group, grouped, members⟩ := exists_coreGroup known record
    exact ⟨group, grouped, (members cpu.id).mpr ⟨cpu, record, rfl, rfl⟩⟩
  · rintro ⟨group, grouped, member⟩
    obtain ⟨_, _, members⟩ := mem_group_iff known grouped
    obtain ⟨cpu, record, _, rfl⟩ := (members id).mp member
    exact (mem_onlineRecords.mp record).2

/-- No CPU is in two places of the list of groups. -/
theorem pairwise_coreGroups (known : topology.online = some online) :
    topology.coreGroups.Pairwise Apart := by
  simp only [coreGroups, known]
  rw [(sortBy_perm _ _).pairwise_iff fun apart => Std.Symm.symm _ _ apart,
    List.pairwise_filterMap]
  apply OrderedMap.pairwise_values_groupBy.imp_of_mem
  intro members members' value value' apart group made group' made' id member member'
  obtain ⟨cpu, present, rfl⟩ := (mem_coreGroup made).mp member
  obtain ⟨cpu', present', same⟩ := (mem_coreGroup made').mp member'
  have listed (members : List CpuTopologyCpu) (value : members ∈ (OrderedMap.groupBy
      CpuTopologyCpu.coreKey (topology.onlineRecords online)).values)
      {cpu : CpuTopologyCpu} (present : cpu ∈ members) : cpu ∈ topology.cpus := by
    obtain ⟨_, _, rfl⟩ := OrderedMap.mem_values_groupBy_iff.mp value
    exact (mem_onlineRecords.mp (List.mem_filter.mp present).1).1
  rw [record_unique wellFormed (listed _ value' present') (listed _ value present) same] at present'
  exact apart cpu present present'

/-- The groups list every online CPU once. -/
theorem flatMap_coreGroups_perm (known : topology.online = some online) :
    (topology.coreGroups.flatMap fun group => group.cpus.asSlice).Perm online.asSlice := by
  have once (cpus : CpuSet) : cpus.asSlice.Nodup :=
    cpus.sorted.imp fun less => UInt32.ne_of_lt less
  have distinct : (topology.coreGroups.flatMap fun group => group.cpus.asSlice).Nodup := by
    rw [List.nodup_flatMap]
    constructor
    · exact fun group _ => once group.cpus
    · exact (pairwise_coreGroups wellFormed known).imp fun apart id member member' =>
        apart id member member'
  rw [List.perm_ext_iff_of_nodup distinct (once online)]
  intro id
  rw [mem_online_iff wellFormed known, List.mem_flatMap]

end CpuTopology

/-! ## Candidates -/

theorem logicalCpus_eq_length (groups : List CpuCoreGroup) :
    logicalCpus groups = (groups.flatMap fun group => group.cpus.asSlice).length := by
  rw [logicalCpus, List.length_flatMap]

theorem logicalCpus_append (front back : List CpuCoreGroup) :
    logicalCpus (front ++ back) = logicalCpus front + logicalCpus back := by
  simp [logicalCpus]

/-- The preferred groups and the others are all the groups. -/
theorem numaCandidates_perm {groups : List CpuCoreGroup} (preferred : Option UInt32)
    (apart : groups.Pairwise Apart) : (numaCandidates preferred groups).1.Perm groups := by
  cases preferred with
  | none => exact .refl _
  | some node =>
      simp only [numaCandidates]
      split
      · exact .refl _
      · have others : (groups.filter fun group => !group.cpus.asSlice.any fun cpu =>
            ((groups.filter fun group => group.numaNode = some node).flatMap
              fun group => group.cpus.asSlice).contains cpu) =
            groups.filter fun group => !decide (group.numaNode = some node) := by
          apply List.filter_congr
          intro group member
          congr 1
          rw [Bool.eq_iff_iff, List.any_eq_true, decide_eq_true_eq]
          constructor
          · rintro ⟨id, own, shared⟩
            obtain ⟨other, preferred, own'⟩ := List.mem_flatMap.mp (List.contains_iff_mem.mp shared)
            obtain ⟨member', here⟩ := List.mem_filter.mp preferred
            by_cases same : group = other
            · rw [same]
              exact of_decide_eq_true here
            · exact absurd own' (apart.forall member member' same id own)
          · intro here
            obtain ⟨id, own⟩ := List.exists_mem_of_ne_nil _ group.cpus.nonempty
            refine ⟨id, own, List.contains_iff_mem.mpr (List.mem_flatMap.mpr ⟨group, ?_, own⟩)⟩
            exact List.mem_filter.mpr ⟨member, decide_eq_true here⟩
        rw [others]
        exact List.filter_append_perm _ groups

/-- The candidates are the groups in the order of preference. -/
theorem candidates_perm {groups : List CpuCoreGroup} (policy : CpuSelectionPolicy)
    (mode : CpuCapacityMode) (apart : groups.Pairwise Apart) :
    (candidates policy mode groups).Perm groups :=
  (sortBy_perm _ _).trans (numaCandidates_perm _ apart)

/-! ## The loop -/

/-- Enough CPUs are selected, or as many groups as may be. -/
def Reaches (bound requested : Nat) (selected : List CpuCoreGroup) : Prop :=
  bound ≤ selected.length ∨ requested ≤ logicalCpus selected

/-- The loop stops at the first prefix of the candidates that reaches. -/
theorem selectGroups_spec (bound : Nat) {requested : Nat} (positive : 0 < requested)
    (selected rest : List CpuCoreGroup) :
    ∃ count ≤ rest.length,
      selectGroups bound requested selected (logicalCpus selected) rest =
        selected ++ rest.take count ∧
      (∀ fewer < count, ¬Reaches bound requested (selected ++ rest.take fewer)) ∧
      (Reaches bound requested (selected ++ rest.take count) ∨ count = rest.length) := by
  induction rest generalizing selected with
  | nil => exact ⟨0, by simp [selectGroups]⟩
  | cons group rest ih =>
      by_cases reaches : Reaches bound requested selected
      · refine ⟨0, by simp, ?_, by simp, .inl (by simpa using reaches)⟩
        rw [List.take_zero, List.append_nil, selectGroups]
        rcases reaches with full | enough
        · rw [if_pos full]
        · have some : selected ≠ [] := by
            rintro rfl
            exact absurd enough (by simpa [logicalCpus] using positive.ne')
          split
          · rfl
          · rw [if_pos ⟨enough, some⟩]
      · obtain ⟨count, inside, same, minimal, final⟩ := ih (selected ++ [group])
        have more : logicalCpus (selected ++ [group]) =
            logicalCpus selected + group.cpus.asSlice.length := by
          simp [logicalCpus]
        have append (fewer : Nat) : selected ++ (group :: rest).take (fewer + 1) =
            selected ++ [group] ++ rest.take fewer := by simp
        rw [Reaches, not_or] at reaches
        refine ⟨count + 1, Nat.succ_le_succ inside, ?_, ?_, ?_⟩
        · rw [append, selectGroups, if_neg reaches.1, if_neg fun both => reaches.2 both.1, ← more,
            same]
        · intro fewer less
          cases fewer with
          | zero =>
              rw [List.take_zero, List.append_nil, Reaches, not_or]
              exact reaches
          | succ fewer =>
              rw [append]
              exact minimal fewer (Nat.lt_of_succ_lt_succ less)
        · rw [append, List.length_cons, Nat.succ_inj]
          exact final

/-! ## Masks -/

/-- The bit of a CPU in a mask. -/
def hasBit (bytes : Bytes) (cpu : UInt32) : Bool :=
  (bytes[cpu.toNat / 8]?.getD 0).toNat.testBit (cpu.toNat % 8)

theorem testBit_or_shift (byte : UInt8) {place : Nat} (inside : place < 8) (other : Nat) :
    (byte ||| 1 <<< UInt8.ofNat place).toNat.testBit other =
      (byte.toNat.testBit other || decide (place = other)) := by
  have each : ∀ place : Fin 8, ((1 : UInt8) <<< UInt8.ofNat place.val).toNat = 2 ^ place.val := by
    decide
  have single : ((1 : UInt8) <<< UInt8.ofNat place).toNat = 2 ^ place := each ⟨place, inside⟩
  rw [UInt8.toNat_or, Nat.testBit_or, single, Nat.testBit_two_pow]

@[simp]
theorem length_setBit (bytes : Bytes) (cpu : UInt32) : (setBit bytes cpu).length = bytes.length := by
  simp [setBit]

/-- Setting the bit of a CPU adds that CPU to a mask. -/
theorem hasBit_setBit {bytes : Bytes} {cpu : UInt32} (inside : cpu.toNat / 8 < bytes.length)
    (other : UInt32) : hasBit (setBit bytes cpu) other = (hasBit bytes other || other = cpu) := by
  have small : cpu.toNat % 8 < 8 := Nat.mod_lt _ (by decide)
  have number : other = cpu ↔ cpu.toNat / 8 = other.toNat / 8 ∧ cpu.toNat % 8 = other.toNat % 8 := by
    rw [← UInt32.toNat_inj]
    omega
  rw [hasBit, hasBit, setBit, List.getElem?_modify]
  by_cases same : cpu.toNat / 8 = other.toNat / 8
  · rw [← same, List.getElem?_eq_getElem inside]
    simp only [if_true, Option.map_eq_map, Option.map_some, Option.getD_some,
      testBit_or_shift _ small]
    simp [number, same]
  · simp [number, same]

theorem hasBit_foldl_setBit {cpus : List UInt32} {bytes : Bytes}
    (inside : ∀ cpu ∈ cpus, cpu.toNat / 8 < bytes.length) (other : UInt32) :
    hasBit (cpus.foldl setBit bytes) other = (hasBit bytes other || cpus.contains other) := by
  induction cpus generalizing bytes with
  | nil => simp
  | cons cpu cpus ih =>
      rw [List.forall_mem_cons] at inside
      rw [List.foldl_cons, ih (by simpa using inside.2), hasBit_setBit inside.1, Bool.or_assoc]
      simp

/-- A mask contains exactly the CPUs of its set. -/
theorem hasBit_of_fromCpuSet {cpus : CpuSet} {mask : CpuAffinityMask}
    (made : CpuAffinityMask.fromCpuSet cpus = .ok mask) (cpu : UInt32) :
    hasBit mask.bytes cpu = true ↔ cpu ∈ cpus.asSlice := by
  unfold CpuAffinityMask.fromCpuSet at made
  split at made
  · cases made
  · rename_i last found
    simp only at made
    split at made
    · cases made
    · cases made
      have greatest (cpu : UInt32) (member : cpu ∈ cpus.asSlice) : cpu.toNat ≤ last.toNat := by
        obtain ⟨front, whole⟩ := List.getLast?_eq_some_iff.mp found
        have sorted := cpus.sorted
        rw [whole] at sorted member
        rcases List.mem_append.mp member with member | member
        · have less := (List.pairwise_append.mp sorted).2.2 cpu member last (by simp)
          exact (UInt32.lt_iff_toNat_lt.mp less).le
        · rw [List.mem_singleton.mp member]
      rw [hasBit_foldl_setBit]
      · have clear : hasBit (List.replicate (last.toNat / 8 + 1) 0) cpu = false := by
          rw [hasBit, List.getElem?_replicate]
          split
          · simp
          · simp
        simp [clear]
      · intro cpu member
        have le := greatest cpu member
        rw [List.length_replicate]
        omega

/-! ## Selections -/

namespace CpuTopology

/-- The groups that the loop of a selection takes. -/
def chosen (topology : CpuTopology) (policy : CpuSelectionPolicy) : List CpuCoreGroup :=
  selectGroups (maxWorkloadGroups topology.coreGroups) (requestedLogical policy) [] 0
    (candidates policy topology.capacityMode topology.coreGroups)

/-- What a selection has checked and computed. -/
structure Selected (topology : CpuTopology) (policy : CpuSelectionPolicy) (online : CpuSet)
    (plan : CpuIsolationPlan) : Prop where
  known : topology.online = some online
  groups : 2 ≤ topology.coreGroups.length
  requested : 0 < requestedLogical policy
  workload : CpuSet.new ((topology.chosen policy).flatMap fun group => group.cpus.asSlice) =
    .ok plan.workloadCpus
  housekeeping : CpuSet.new (online.asSlice.filter fun cpu =>
    !CpuSet.contains plan.workloadCpus cpu) = .ok plan.housekeepingCpus
  smaller : plan.workloadCpus.asSlice.length < online.asSlice.length
  workloadMask : CpuAffinityMask.fromCpuSet plan.workloadCpus = .ok plan.workloadMask
  housekeepingMask : CpuAffinityMask.fromCpuSet plan.housekeepingCpus = .ok plan.housekeepingMask
  fallbacks : plan.fallbacks = capacityFallback policy topology.capacityMode ++
    (numaCandidates policy.preferredNumaNode topology.coreGroups).2 ++
    if reduced policy online (maxWorkloadGroups topology.coreGroups)
      (candidates policy topology.capacityMode topology.coreGroups) then
        [.reducedToPreserveHousekeeping] else []
  onlineAtPlan : plan.onlineAtPlan = online
  revision : plan.topologyRevision = topology.revision

theorem selected_of_selectForTarget {topology : CpuTopology} {policy : CpuSelectionPolicy}
    {target : Option TargetIdentity} {plan : CpuIsolationPlan}
    (selected : topology.selectForTarget policy target = .ok plan) :
    ∃ online, topology.Selected policy online plan := by
  unfold selectForTarget at selected
  cases known : topology.online with
  | none =>
      rw [known] at selected
      cases selected
  | some online =>
      rw [known] at selected
      simp only [pure_bind, bind_eq_ok_iff, guard_eq_ok_iff] at selected
      obtain ⟨enough, room, requested, some, workload, made, housekeeping, made', rest, mask, bits,
        mask', bits', same⟩ := selected
      cases same
      exact ⟨online, {
        known := known
        groups := by omega
        requested := Nat.pos_of_ne_zero requested
        workload := made
        housekeeping := made'
        smaller := Nat.lt_of_not_le fun all => rest (.inl all)
        workloadMask := bits
        housekeepingMask := bits'
        fallbacks := rfl
        onlineAtPlan := rfl
        revision := rfl }⟩

/-- The requested count is reached, or the bound on the groups. -/
def Satisfies (policy : CpuSelectionPolicy) (bound : Nat) (groups : List CpuCoreGroup) : Prop :=
  bound ≤ groups.length ∨ ∃ requested, policy.workloadCpuCount = some requested ∧
    requested.toNat ≤ logicalCpus groups

/-- A placement parts the online CPUs along the groups, and leaves at least half
of the groups for housekeeping. -/
structure Placement (topology : CpuTopology) (policy : CpuSelectionPolicy) (online : CpuSet)
    (chosen : List CpuCoreGroup) (plan : CpuIsolationPlan) : Prop where
  known : topology.online = some online
  workload : plan.workloadCpus.asSlice ≠ []
  housekeeping : plan.housekeepingCpus.asSlice ≠ []
  disjoint : ∀ cpu ∈ plan.workloadCpus.asSlice, cpu ∉ plan.housekeepingCpus.asSlice
  union : ∀ cpu, cpu ∈ online.asSlice ↔
    cpu ∈ plan.workloadCpus.asSlice ∨ cpu ∈ plan.housekeepingCpus.asSlice
  whole : ∀ cpu, cpu ∈ plan.workloadCpus.asSlice ↔ ∃ group ∈ chosen, cpu ∈ group.cpus.asSlice
  groups : ∀ group ∈ chosen, group ∈ topology.coreGroups
  half : chosen.length ≤ topology.coreGroups.length / 2
  workloadMask : ∀ cpu, hasBit plan.workloadMask.bytes cpu = true ↔
    cpu ∈ plan.workloadCpus.asSlice
  housekeepingMask : ∀ cpu, hasBit plan.housekeepingMask.bytes cpu = true ↔
    cpu ∈ plan.housekeepingCpus.asSlice
  order : (candidates policy topology.capacityMode topology.coreGroups).Perm topology.coreGroups
  sorted : (candidates policy topology.capacityMode topology.coreGroups).Pairwise
    fun first second => preference policy topology.capacityMode first ≤
      preference policy topology.capacityMode second
  front : chosen <+: candidates policy topology.capacityMode topology.coreGroups
  satisfies : Satisfies policy (topology.coreGroups.length / 2) chosen
  shortest : ∀ shorter, shorter <+: chosen → shorter ≠ chosen →
    ¬Satisfies policy (topology.coreGroups.length / 2) shorter
  reduced : .reducedToPreserveHousekeeping ∈ plan.fallbacks ↔
    ∃ requested, policy.workloadCpuCount = some requested ∧
      plan.workloadCpus.asSlice.length < requested.toNat

theorem maxWorkloadGroups_eq {groups : List CpuCoreGroup} (some : 2 ≤ groups.length) :
    maxWorkloadGroups groups = groups.length / 2 := by
  unfold maxWorkloadGroups
  omega

/-- A set of different CPUs has as many. -/
theorem length_of_new {cpus : List UInt32} {made : CpuSet} (distinct : cpus.Nodup)
    (ok : CpuSet.new cpus = .ok made) : made.asSlice.length = cpus.length := by
  have once : made.asSlice.Nodup := made.sorted.imp fun less => UInt32.ne_of_lt less
  exact ((List.perm_ext_iff_of_nodup once distinct).mpr fun _ => mem_of_new ok).length_eq

section Selected

variable {topology : CpuTopology} {policy : CpuSelectionPolicy} {online : CpuSet}
  {plan : CpuIsolationPlan} (wellFormed : topology.WellFormed)
  (selected : topology.Selected policy online plan)

include wellFormed selected

theorem Selected.candidates_perm :
    (candidates policy topology.capacityMode topology.coreGroups).Perm topology.coreGroups :=
  Topology.candidates_perm policy _ (pairwise_coreGroups wellFormed selected.known)

/-- The candidates list every online CPU once. -/
theorem Selected.flatMap_candidates_perm :
    ((candidates policy topology.capacityMode topology.coreGroups).flatMap
      fun group => group.cpus.asSlice).Perm online.asSlice :=
  ((selected.candidates_perm wellFormed).flatMap_right _).trans
    (flatMap_coreGroups_perm wellFormed selected.known)

/-- Some of the candidates list different CPUs. -/
theorem Selected.nodup_flatMap {groups : List CpuCoreGroup}
    (front : groups <+: candidates policy topology.capacityMode topology.coreGroups) :
    (groups.flatMap fun group => group.cpus.asSlice).Nodup := by
  have once : online.asSlice.Nodup := online.sorted.imp fun less => UInt32.ne_of_lt less
  have all := (selected.flatMap_candidates_perm wellFormed).nodup_iff.mpr once
  exact all.sublist (front.sublist.flatMap _)

theorem Selected.satisfies_iff {groups : List CpuCoreGroup} {bound : Nat}
    (front : groups <+: candidates policy topology.capacityMode topology.coreGroups) :
    Satisfies policy bound groups ↔ Reaches bound (requestedLogical policy) groups := by
  have few : logicalCpus groups ≤ 2 ^ 32 := by
    calc logicalCpus groups
        ≤ logicalCpus (candidates policy topology.capacityMode topology.coreGroups) := by
          obtain ⟨rest, whole⟩ := front
          rw [← whole, logicalCpus_append]
          omega
      _ = online.asSlice.length := by
          rw [logicalCpus_eq_length, (selected.flatMap_candidates_perm wellFormed).length_eq]
      _ ≤ 2 ^ 32 := length_le_of_below fun cpu _ => cpu.toNat_lt
  apply or_congr_right
  cases wanted : policy.workloadCpuCount with
  | none =>
      have unbounded : requestedLogical policy = 2 ^ 64 - 1 := by
        rw [requestedLogical, wanted]
        rfl
      rw [unbounded]
      constructor
      · rintro ⟨_, none, _⟩
        cases none
      · intro reached
        omega
  | some requested => simp [requestedLogical, wanted]

/-- The chosen groups are a shortest prefix of the candidates that reaches. -/
theorem Selected.chosen_spec :
    topology.chosen policy <+: candidates policy topology.capacityMode topology.coreGroups ∧
      Satisfies policy (topology.coreGroups.length / 2) (topology.chosen policy) ∧
      (topology.chosen policy).length ≤ topology.coreGroups.length / 2 ∧
      ∀ shorter, shorter <+: topology.chosen policy → shorter ≠ topology.chosen policy →
        ¬Satisfies policy (topology.coreGroups.length / 2) shorter := by
  have length : (candidates policy topology.capacityMode topology.coreGroups).length =
      topology.coreGroups.length := (selected.candidates_perm wellFormed).length_eq
  obtain ⟨count, inside, taken, minimal, final⟩ := selectGroups_spec
    (maxWorkloadGroups topology.coreGroups) selected.requested []
    (candidates policy topology.capacityMode topology.coreGroups)
  rw [maxWorkloadGroups_eq selected.groups] at minimal final
  have chosen : topology.chosen policy =
      (candidates policy topology.capacityMode topology.coreGroups).take count := taken
  have front (fewer : Nat) :
      (candidates policy topology.capacityMode topology.coreGroups).take fewer <+:
        candidates policy topology.capacityMode topology.coreGroups := List.take_prefix _ _
  have enough : count ≤ topology.coreGroups.length / 2 := by
    by_contra more
    apply minimal (topology.coreGroups.length / 2) (by omega)
    apply Or.inl
    rw [List.nil_append, List.length_take, length]
    omega
  rw [chosen]
  refine ⟨front count, ?_, ?_, ?_⟩
  · rw [selected.satisfies_iff wellFormed (front count)]
    rcases final with reaches | all
    · exact reaches
    · apply Or.inl
      rw [List.length_take, all, length]
      omega
  · rw [List.length_take]
    omega
  · rintro shorter part differs satisfies
    have short : shorter.length < count := by
      have le := part.length_le
      rw [List.length_take] at le
      apply Nat.lt_of_le_of_ne (by omega)
      intro same
      apply differs
      apply part.eq_of_length
      rw [List.length_take]
      omega
    have own := List.prefix_iff_eq_take.mp (part.trans (front count))
    rw [own, selected.satisfies_iff wellFormed (front shorter.length)] at satisfies
    exact minimal shorter.length short satisfies

theorem Selected.length_workload :
    plan.workloadCpus.asSlice.length = logicalCpus (topology.chosen policy) := by
  have front := (selected.chosen_spec wellFormed).1
  rw [logicalCpus_eq_length,
    length_of_new (selected.nodup_flatMap wellFormed front) selected.workload]

/-- The request is reported as reduced when the workload is smaller. -/
theorem Selected.reduced_iff :
    .reducedToPreserveHousekeeping ∈ plan.fallbacks ↔
      ∃ requested, policy.workloadCpuCount = some requested ∧
        plan.workloadCpus.asSlice.length < requested.toNat := by
  have others : .reducedToPreserveHousekeeping ∉ capacityFallback policy topology.capacityMode ++
      (numaCandidates policy.preferredNumaNode topology.coreGroups).2 := by
    rw [List.mem_append, not_or]
    constructor
    · unfold capacityFallback
      split
      · simp
      · split <;> simp
      · split <;> simp
    · unfold numaCandidates
      split
      · simp
      · simp only
        split <;> simp
  have reported : .reducedToPreserveHousekeeping ∈ plan.fallbacks ↔
      reduced policy online (topology.coreGroups.length / 2)
        (candidates policy topology.capacityMode topology.coreGroups) = true := by
    rw [selected.fallbacks, maxWorkloadGroups_eq selected.groups, List.mem_append,
      or_iff_right others]
    split
    · rename_i holds
      simp [holds]
    · rename_i fails
      simp [fails]
  obtain ⟨front, satisfies, half, -⟩ := selected.chosen_spec wellFormed
  have smaller := selected.smaller
  rw [selected.length_workload wellFormed] at smaller ⊢
  obtain ⟨rest, whole⟩ : topology.chosen policy <+:
      (candidates policy topology.capacityMode topology.coreGroups).take
        (topology.coreGroups.length / 2) :=
    List.prefix_take_iff.mpr ⟨front, half⟩
  have sizes : logicalCpus ((candidates policy topology.capacityMode topology.coreGroups).take
      (topology.coreGroups.length / 2)) =
        logicalCpus (topology.chosen policy) + logicalCpus rest := by
    rw [← whole, logicalCpus_append]
  rw [reported, reduced]
  cases wanted : policy.workloadCpuCount with
  | none => simp
  | some requested =>
      simp only [Option.any_some, Bool.or_eq_true, decide_eq_true_eq, Option.some.injEq,
        exists_eq_left', sizes]
      rcases satisfies with full | ⟨requested', same, enough⟩
      · have none : rest = [] := by
          have length := congrArg List.length whole
          rw [List.length_append, List.length_take] at length
          apply List.eq_nil_of_length_eq_zero
          omega
        rw [none]
        simp only [logicalCpus, List.map_nil, List.sum_nil]
        simp only [logicalCpus] at smaller
        omega
      · rw [wanted] at same
        cases same
        omega

end Selected

/-- A selection on an accepted topology is a placement of whole groups. -/
theorem placement_of_selectForTarget {facts : CpuTopologyFacts} {numa : NumaFacts}
    {topology : CpuTopology} {policy : CpuSelectionPolicy} {target : Option TargetIdentity}
    {plan : CpuIsolationPlan} (accepted : CpuTopology.fromFacts facts numa = .ok topology)
    (ok : topology.selectForTarget policy target = .ok plan) :
    ∃ online chosen, topology.Placement policy online chosen plan := by
  have wellFormed := wellFormed_of_fromFacts accepted
  obtain ⟨online, selected⟩ := selected_of_selectForTarget ok
  obtain ⟨front, satisfies, half, shortest⟩ := selected.chosen_spec wellFormed
  have groups (group : CpuCoreGroup) (member : group ∈ topology.chosen policy) :
      group ∈ topology.coreGroups :=
    (selected.candidates_perm wellFormed).subset (front.subset member)
  have whole (cpu : UInt32) : cpu ∈ plan.workloadCpus.asSlice ↔
      ∃ group ∈ topology.chosen policy, cpu ∈ group.cpus.asSlice := by
    rw [mem_of_new selected.workload, List.mem_flatMap]
  have rest (cpu : UInt32) : cpu ∈ plan.housekeepingCpus.asSlice ↔
      cpu ∈ online.asSlice ∧ cpu ∉ plan.workloadCpus.asSlice := by
    rw [mem_of_new selected.housekeeping, List.mem_filter]
    simp [CpuSet.contains]
  refine ⟨online, topology.chosen policy, ?_⟩
  exact {
    known := selected.known
    workload := plan.workloadCpus.nonempty
    housekeeping := plan.housekeepingCpus.nonempty
    disjoint := fun cpu member kept => ((rest cpu).mp kept).2 member
    union := by
      intro cpu
      rw [rest]
      constructor
      · intro present
        by_cases member : cpu ∈ plan.workloadCpus.asSlice
        · exact .inl member
        · exact .inr ⟨present, member⟩
      · rintro (member | kept)
        · obtain ⟨group, taken, own⟩ := (whole cpu).mp member
          exact (mem_online_iff wellFormed selected.known).mpr ⟨group, groups group taken, own⟩
        · exact kept.1
    whole
    groups
    half
    workloadMask := hasBit_of_fromCpuSet selected.workloadMask
    housekeepingMask := hasBit_of_fromCpuSet selected.housekeepingMask
    order := selected.candidates_perm wellFormed
    sorted := sortBy_pairwise _ _
    front
    satisfies
    shortest
    reduced := selected.reduced_iff wellFormed }

end CpuTopology

namespace Fixture

/-- A CPU of the first package. -/
def entry (cpu : UInt32) (packageId coreId : Option UInt32) (threadSiblings : String) :
    CpuTopologyEntry :=
  ⟨cpu, packageId, coreId, some threadSiblings, some 1024, true⟩

/-- Two cores with two threads each. -/
def facts : CpuTopologyFacts where
  possible := some "0-3"
  online := some "0-3"
  entries := [entry 0 (some 0) (some 0) "0-1", entry 1 (some 0) (some 0) "0-1",
    entry 2 (some 0) (some 1) "2-3", entry 3 (some 0) (some 1) "2-3"]
  heterogeneous := false

def numa : NumaFacts :=
  ⟨[⟨0, some "0-3"⟩]⟩

/-- Three CPUs on the only node. -/
def policy : CpuSelectionPolicy :=
  ⟨false, some 3, some 0⟩

end Fixture

theorem placement_of_selectForTarget_cores :
    ∃ topology plan, CpuTopology.fromFacts Fixture.facts Fixture.numa = .ok topology ∧
      topology.selectForTarget Fixture.policy none = .ok plan ∧
      ∃ online chosen, topology.Placement Fixture.policy online chosen plan := by
  have runs : ((CpuTopology.fromFacts Fixture.facts Fixture.numa).toOption.any fun topology =>
      (topology.selectForTarget Fixture.policy none).toOption.isSome) = true := by
    decide +kernel
  obtain ⟨topology, accepted, some⟩ := exists_ok_of_any runs
  cases selected : topology.selectForTarget Fixture.policy none with
  | error error =>
      rw [selected] at some
      cases some
  | ok plan =>
      exact ⟨topology, plan, accepted, selected,
        CpuTopology.placement_of_selectForTarget accepted selected⟩

end Sysboost.Linux.Topology
