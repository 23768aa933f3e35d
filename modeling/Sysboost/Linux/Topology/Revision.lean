import Sysboost.ByteCodec.Framing
import Sysboost.Linux.Topology.Partition

/-!
# The revision of a topology

A plan is only applied to the topology it was made for, and this is decided by a
digest.  The digested bytes have no length in front of the records and mark an
unknown number by a number; the first never confuses two topologies, and the
second does.
-/

namespace Sysboost.Linux.Topology

open Sysboost.Core ByteCodec Discovery Ordered Results

/-! ## What is planned over -/

/-- What a selection reads of a topology beside its revision: the online CPUs, their records,
and the capacity mode. -/
def CpuTopology.planningFacts (topology : CpuTopology) :
    Option (CpuSet × List CpuTopologyCpu × CpuCapacityMode) :=
  topology.online.map fun online =>
    (online, topology.cpus.filter fun cpu => CpuSet.contains online cpu.id, topology.capacityMode)

theorem coreGroups_congr {first second : CpuTopology}
    (same : first.planningFacts = second.planningFacts) : first.coreGroups = second.coreGroups := by
  unfold CpuTopology.planningFacts at same
  unfold CpuTopology.coreGroups
  cases known : first.online with
  | none =>
      rw [known] at same
      rw [Option.map_eq_none_iff.mp same.symm]
  | some online =>
      rw [known] at same
      obtain ⟨online', known', facts⟩ := Option.map_eq_some_iff.mp same.symm
      obtain ⟨rfl, records⟩ := Prod.mk.inj facts
      simp only [known', (Prod.mk.inj records).1]

/-- Topologies with the same facts and the same revision are planned over alike. -/
theorem selectForTarget_congr {first second : CpuTopology}
    (same : first.planningFacts = second.planningFacts)
    (revision : first.revision = second.revision) (policy : CpuSelectionPolicy)
    (target : Option TargetIdentity) :
    first.selectForTarget policy target = second.selectForTarget policy target := by
  have groups := coreGroups_congr same
  unfold CpuTopology.planningFacts at same
  unfold CpuTopology.selectForTarget
  cases known : first.online with
  | none =>
      rw [known] at same
      rw [Option.map_eq_none_iff.mp same.symm]
      rfl
  | some online =>
      rw [known] at same
      obtain ⟨online', known', facts⟩ := Option.map_eq_some_iff.mp same.symm
      obtain ⟨rfl, records⟩ := Prod.mk.inj facts
      rw [known', (Prod.mk.inj records).2, groups, revision]

/-- What `topology_revision` feeds to the digest for a topology. -/
def CpuTopology.revisionInput (topology : CpuTopology) : Bytes :=
  revisionBytes topology.possible topology.online topology.cpus topology.numaNodes

/-- Equal revisions mean equal facts, and a plan is only valid on the facts it was made for,
unless two inputs of the digest collide. -/
def RevisionDetermines (planned current : CpuTopology) : Prop :=
  (current.revisionInput = planned.revisionInput →
    current.planningFacts = planned.planningFacts) ∧
  ∀ policy target plan identity, planned.selectForTarget policy target = .ok plan →
    plan.validateBeforeApply current identity = .ok () →
    (stableDigest current.revisionInput = stableDigest planned.revisionInput →
      current.revisionInput = planned.revisionInput) →
    current.planningFacts = planned.planningFacts

/-! ## Records as the revision sees them -/

/-- A number, as its writing shows it: `u32::MAX` stands for an unknown one. -/
def known (identity : Option UInt32) : Option UInt32 :=
  identity.filter (· ≠ 0xffffffff)

/-- A record, as its writing shows it. -/
def shown (cpu : CpuTopologyCpu) : CpuTopologyCpu :=
  { cpu with
    packageId := known cpu.packageId
    coreId := known cpu.coreId
    numaNode := known cpu.numaNode }

theorem writeIdentity_known (identity : Option UInt32) :
    writeIdentity (known identity) = writeIdentity identity := by
  cases identity with
  | none => rfl
  | some value =>
      by_cases sentinel : value = 0xffffffff
      · subst sentinel
        rfl
      · rw [known, Option.filter_some_pos (by simpa using sentinel)]

theorem writeCpu_shown (cpu : CpuTopologyCpu) : writeCpu (shown cpu) = writeCpu cpu := by
  simp only [writeCpu, shown, writeIdentity_known]
  rfl

theorem framed_writeIdentity : Framed (fun _ => True) known writeIdentity := by
  apply framed_of_width
  · exact fun _ => toBigEndian_length 4 _
  · intro first second _ _ same
    have numbers := UInt32.toNat_inj.mp
      (toBigEndian_inj (UInt32.toNat_lt _) (UInt32.toNat_lt _) same)
    cases first with
    | none =>
        cases second with
        | none => rfl
        | some value =>
            have sentinel : value = 0xffffffff := numbers.symm
            subst sentinel
            rfl
    | some value =>
        cases second with
        | none =>
            have sentinel : value = 0xffffffff := numbers
            subst sentinel
            rfl
        | some other =>
            have equal : value = other := numbers
            rw [equal]

theorem framed_id : Framed (fun _ => True) id fun id : UInt32 => toBigEndian 4 id.toNat :=
  ((framed_toBigEndian 4).comap UInt32.toNat).weaken (fun id _ => id.toNat_lt)
    fun _ _ _ _ same => UInt32.toNat_inj.mp same

theorem framed_writeSet : Framed (fun _ => True) id writeSet := by
  have listed := (framed_id.counted 8).comap CpuSet.asSlice
  apply listed.weaken
  · intro cpus _
    have short : cpus.asSlice.length ≤ 2 ^ 32 := length_le_of_below fun cpu _ => cpu.toNat_lt
    exact ⟨by omega, fun _ _ => trivial⟩
  · intro first second _ _ same
    simp only [List.map_id] at same
    exact CpuSet.ext same

theorem framed_writeOptionSet : Framed (fun _ => True) id writeOptionSet := by
  intro first second rest rest' _ _ same
  cases first with
  | none =>
      cases second with
      | none => exact ⟨rfl, (List.cons.inj same).2⟩
      | some cpus => cases (List.cons.inj same).1
  | some cpus =>
      cases second with
      | none => cases (List.cons.inj same).1
      | some others =>
          obtain ⟨sets, rests⟩ := framed_writeSet _ _ _ _ trivial trivial (List.cons.inj same).2
          exact ⟨congrArg some sets, rests⟩

theorem framed_capacity : Framed (· ≠ some 0) id fun capacity : Option UInt64 =>
    toBigEndian 8 (capacity.getD 0).toNat := by
  apply framed_of_width
  · exact fun _ => toBigEndian_length 8 _
  · intro first second positive positive' same
    have numbers := UInt64.toNat_inj.mp
      (toBigEndian_inj (UInt64.toNat_lt _) (UInt64.toNat_lt _) same)
    cases first with
    | none =>
        cases second with
        | none => rfl
        | some value => exact absurd (congrArg some numbers.symm) positive'
    | some value =>
        cases second with
        | none => exact absurd (congrArg some numbers) positive
        | some other => exact congrArg some numbers

theorem flag_injective {first second : Bool}
    (same : (if first then (1 : UInt8) else 0) = if second then 1 else 0) : first = second := by
  cases first <;> cases second <;> simp_all

theorem capacityRank_injective {first second : CpuPerformanceClass}
    (same : UInt8.ofNat (capacityRank first) = UInt8.ofNat (capacityRank second)) :
    first = second := by
  cases first <;> cases second <;> simp_all [capacityRank]

/-- A record shows where it ends, and what it holds but for the unknown numbers. -/
theorem framed_writeCpu : Framed (fun cpu => cpu.capacity ≠ some 0) shown writeCpu := by
  have every {α : Type} {β : Type} {view : α → β} {encode : α → Bytes}
      (framed : Framed (fun _ => True) view encode) (read : CpuTopologyCpu → α) :
      Framed (fun cpu : CpuTopologyCpu => cpu.capacity ≠ some 0) (fun cpu => view (read cpu))
        fun cpu => encode (read cpu) :=
    (framed.comap read).weaken (fun _ _ => trivial) fun _ _ _ _ same => same
  have whole := ((((((every framed_id CpuTopologyCpu.id).pair
    (every framed_writeIdentity CpuTopologyCpu.packageId)).pair
    (every framed_writeIdentity CpuTopologyCpu.coreId)).pair
    (framed_capacity.comap CpuTopologyCpu.capacity)).pair
    (framed_singleton _ fun cpu : CpuTopologyCpu => if cpu.online then (1 : UInt8) else 0)).pair
    (framed_singleton _ fun cpu : CpuTopologyCpu =>
      UInt8.ofNat (capacityRank cpu.performanceClass))).pair
    (every framed_writeSet CpuTopologyCpu.threadSiblings) |>.pair
    (every framed_writeIdentity CpuTopologyCpu.numaNode)
  apply whole.weaken (fun _ ok => ok)
  intro first second _ _ same
  simp only [Prod.mk.injEq, id] at same
  obtain ⟨⟨⟨⟨⟨⟨⟨ids, packages⟩, cores⟩, capacities⟩, flags⟩, ranks⟩, siblings⟩, nodes⟩ := same
  cases first
  cases second
  simp only [shown, CpuTopologyCpu.mk.injEq]
  exact ⟨ids, packages, cores, siblings, capacities, flag_injective flags, nodes,
    capacityRank_injective ranks⟩

theorem framed_writeNode : Framed (fun _ => True) id writeNode := by
  have whole := (framed_id.comap (Prod.fst : UInt32 × CpuSet → UInt32)).pair
    (framed_writeSet.comap Prod.snd)
  exact whole.weaken (fun _ _ => trivial) fun _ _ _ _ same => same

/-! ## The boundary between the records and the nodes -/

/-- The words of a node: its number, the number of its CPUs, and the CPUs. -/
def nodeWords (node : UInt32 × CpuSet) : List UInt32 :=
  node.1 :: 0 :: UInt32.ofNat node.2.asSlice.length :: node.2.asSlice

theorem writeNode_eq {node : UInt32 × CpuSet}
    (few : node.2.asSlice.length ≤ cpusetCapacityLimit) :
    writeNode node = writeWords (nodeWords node) := by
  have limit : node.2.asSlice.length < 2 ^ 32 := Nat.lt_of_le_of_lt few (by decide)
  have high : node.2.asSlice.length / 256 ^ 4 = 0 := Nat.div_eq_of_lt (by omega)
  have low : (UInt32.ofNat node.2.asSlice.length).toNat = node.2.asSlice.length := by
    rw [UInt32.toNat_ofNat', Nat.mod_eq_of_lt limit]
  rw [writeNode, writeSet, toBigEndian_add 4 4, high, nodeWords, writeWords_cons, writeWords_cons,
    writeWords_cons, low, List.append_assoc]
  rfl

theorem flatMap_writeNode {nodes : List (UInt32 × CpuSet)}
    (few : ∀ node ∈ nodes, node.2.asSlice.length ≤ cpusetCapacityLimit) :
    nodes.flatMap writeNode = writeWords (nodes.flatMap nodeWords) := by
  induction nodes with
  | nil => rfl
  | cons node nodes ih =>
      rw [List.forall_mem_cons] at few
      rw [List.flatMap_cons, List.flatMap_cons, writeWords_append, ih few.2, writeNode_eq few.1]

theorem writeCpu_length (cpu : CpuTopologyCpu) :
    (writeCpu cpu).length = 34 + 4 * cpu.threadSiblings.asSlice.length := by
  have siblings : (cpu.threadSiblings.asSlice.flatMap fun cpu => toBigEndian 4 cpu.toNat).length =
      4 * cpu.threadSiblings.asSlice.length := writeWords_length _
  simp only [writeCpu, writeSet, writeIdentity, List.length_append, toBigEndian_length,
    List.length_singleton, siblings]
  omega

section Words

/-- The bytes of a record in front of its flags. -/
def recordHead (cpu : CpuTopologyCpu) : Bytes :=
  toBigEndian 4 cpu.id.toNat ++ (writeIdentity cpu.packageId ++ (writeIdentity cpu.coreId ++
    toBigEndian 8 (cpu.capacity.getD 0).toNat))

theorem recordHead_length (cpu : CpuTopologyCpu) : (recordHead cpu).length = 20 := by
  simp only [recordHead, writeIdentity, List.length_append, toBigEndian_length]

theorem writeCpu_eq (cpu : CpuTopologyCpu) : writeCpu cpu = recordHead cpu ++
    (if cpu.online then 1 else 0) :: UInt8.ofNat (capacityRank cpu.performanceClass) ::
      (writeSet cpu.threadSiblings ++ writeIdentity cpu.numaNode) := by
  simp only [writeCpu, recordHead, List.append_assoc, List.cons_append, List.nil_append]

variable {extra : CpuTopologyCpu} {tail : Bytes} {words : List UInt32}
  (offline : extra.online = false) (unclassified : extra.performanceClass = .unknown)
  (few : extra.threadSiblings.asSlice.length ≤ cpusetCapacityLimit)
  (same : writeWords words = writeCpu extra ++ tail)

include offline unclassified few

/-- The flags of an offline CPU and the number of its siblings, which is small, are spread over
three words. -/
theorem writeCpu_offline : ∃ high < 65536, ∃ body,
    writeCpu extra ++ tail = recordHead extra ++ (toBigEndian 4 65536 ++
      (toBigEndian 4 (extra.threadSiblings.asSlice.length / 65536) ++
        (toBigEndian 4 (extra.threadSiblings.asSlice.length * 65536 + high) ++ body))) := by
  have limit : extra.threadSiblings.asSlice.length < 2 ^ 32 := Nat.lt_of_le_of_lt few (by decide)
  generalize count : extra.threadSiblings.asSlice.length = length at limit
  cases siblings : extra.threadSiblings.asSlice with
  | nil => exact absurd siblings extra.threadSiblings.nonempty
  | cons first others =>
      have counted : toBigEndian 8 length = [0, 0] ++ (toBigEndian 4 (length / 65536) ++
          toBigEndian 2 length) := by
        have top : length / 256 ^ 6 = 0 := Nat.div_eq_of_lt (by omega)
        rw [toBigEndian_add 2 6, toBigEndian_add 4 2, top]
        rfl
      have flags : toBigEndian 4 65536 = [0, 1, 0, 0] := by decide
      have joined : toBigEndian 4 (length * 65536 + first.toNat / 65536) =
          toBigEndian 2 length ++ toBigEndian 2 (first.toNat / 65536) := by
        have small := first.toNat_lt
        have quotient : (length * 65536 + first.toNat / 65536) / 256 ^ 2 = length := by omega
        have remainder : (length * 65536 + first.toNat / 65536) % 256 ^ 2 =
            first.toNat / 65536 % 256 ^ 2 := by omega
        rw [toBigEndian_add 2 2, quotient, ← toBigEndian_mod 2 (length * 65536 + _), remainder,
          toBigEndian_mod]
      have word : toBigEndian 4 first.toNat = toBigEndian 2 (first.toNat / 65536) ++
          toBigEndian 2 first.toNat := toBigEndian_add 2 2 first.toNat
      have rank : UInt8.ofNat (capacityRank .unknown) = 1 := rfl
      refine ⟨first.toNat / 65536, by have := first.toNat_lt; omega,
        toBigEndian 2 first.toNat ++ ((others.flatMap fun cpu => toBigEndian 4 cpu.toNat) ++
          (writeIdentity extra.numaNode ++ tail)), ?_⟩
      rw [joined, flags, writeCpu_eq, writeSet, count, counted, siblings, offline, unclassified,
        rank, List.flatMap_cons, word]
      simp only [List.append_assoc, List.cons_append, List.nil_append, Bool.false_eq_true, if_false]

include same

theorem words_offline :
    words[0]? = some extra.id ∧ words[5]? = some 65536 ∧
      words[6]? = some (UInt32.ofNat (extra.threadSiblings.asSlice.length / 65536)) ∧
      ∃ high < 65536,
        words[7]? = some (UInt32.ofNat (extra.threadSiblings.asSlice.length * 65536 + high)) := by
  obtain ⟨high, small, body, layout⟩ := writeCpu_offline offline unclassified few
  have whole := same.trans layout
  have head := recordHead_length extra
  constructor
  · have split := whole
    rw [recordHead, List.append_assoc] at split
    have first := getElem?_zero_of_writeWords split
    rwa [UInt32.ofNat_toNat] at first
  constructor
  · exact getElem?_of_writeWords whole head
  rw [← List.append_assoc] at whole
  constructor
  · apply getElem?_of_writeWords whole
    rw [List.length_append, head, toBigEndian_length]
  · rw [← List.append_assoc] at whole
    refine ⟨high, small, getElem?_of_writeWords whole ?_⟩
    rw [List.length_append, List.length_append, head, toBigEndian_length, toBigEndian_length]

end Words

/-- The number of siblings of a record behind a record stands at a word. -/
theorem words_next {extra next : CpuTopologyCpu} {tail : Bytes} {words : List UInt32}
    (few : next.threadSiblings.asSlice.length ≤ cpusetCapacityLimit)
    (same : writeWords words = writeCpu extra ++ (writeCpu next ++ tail)) :
    words[14 + extra.threadSiblings.asSlice.length]? = some 0 := by
  have counted : toBigEndian 8 next.threadSiblings.asSlice.length =
      toBigEndian 4 0 ++ toBigEndian 4 next.threadSiblings.asSlice.length := by
    rw [toBigEndian_add 4 4, Nat.div_eq_of_lt (Nat.lt_of_le_of_lt few (by decide))]
  have split : writeWords words =
      (writeCpu extra ++ (recordHead next ++ [if next.online then 1 else 0,
        UInt8.ofNat (capacityRank next.performanceClass)])) ++
      (toBigEndian 4 0 ++ (toBigEndian 4 next.threadSiblings.asSlice.length ++
        ((next.threadSiblings.asSlice.flatMap fun cpu => toBigEndian 4 cpu.toNat) ++
          (writeIdentity next.numaNode ++ tail)))) := by
    rw [same, writeCpu_eq next, writeSet, counted]
    simp only [List.append_assoc, List.cons_append, List.nil_append]
  apply getElem?_of_writeWords split
  rw [List.length_append, List.length_append, writeCpu_length, recordHead_length]
  simp only [List.length_cons, List.length_nil]
  omega

/-- Strictly ascending words are at least as great as their places. -/
theorem le_getElem_of_ascending {words : List UInt32} (ascending : words.Pairwise (· < ·))
    {position : Nat} {word : UInt32} (found : words[position]? = some word) :
    position ≤ word.toNat := by
  induction position generalizing word with
  | zero => exact Nat.zero_le _
  | succ position ih =>
      obtain ⟨inside, rfl⟩ := List.getElem?_eq_some_iff.mp found
      have before := ih (List.getElem?_eq_getElem (by omega))
      have order := List.pairwise_iff_getElem.mp ascending position (position + 1) (by omega) inside
        (Nat.lt_succ_self position)
      have order := UInt32.lt_iff_toNat_lt.mp order
      omega

/-- Another record follows an offline CPU: a single one ends between two words. -/
theorem words_more {nodes' : List (UInt32 × CpuSet)} {extra : CpuTopologyCpu}
    {more : List CpuTopologyCpu} {words : List UInt32}
    (fewMembers' : ∀ node ∈ nodes', node.2.asSlice.length ≤ cpusetCapacityLimit)
    (few : ∀ cpu ∈ more, cpu.threadSiblings.asSlice.length ≤ cpusetCapacityLimit)
    (same : writeWords words =
      writeCpu extra ++ (more.flatMap writeCpu ++ nodes'.flatMap writeNode)) :
    words[14 + extra.threadSiblings.asSlice.length]? = some 0 := by
  cases more with
  | nil =>
      rw [flatMap_writeNode fewMembers'] at same
      have length := congrArg List.length same
      rw [writeWords_length, List.length_append, writeCpu_length, List.flatMap_nil, List.nil_append,
        writeWords_length] at length
      omega
  | cons next more =>
      rw [List.flatMap_cons, List.append_assoc] at same
      exact words_next (few next List.mem_cons_self) same

/-- The nodes do not begin where the other records have an offline CPU more. -/
theorem no_extra {nodes nodes' : List (UInt32 × CpuSet)}
    (ascending : nodes.Pairwise fun first second => first.1 < second.1)
    (fewMembers : ∀ node ∈ nodes, node.2.asSlice.length ≤ cpusetCapacityLimit)
    (fewMembers' : ∀ node ∈ nodes', node.2.asSlice.length ≤ cpusetCapacityLimit)
    {extra : CpuTopologyCpu} {more : List CpuTopologyCpu}
    (offline : extra.online = false) (unclassified : extra.performanceClass = .unknown)
    (below : ∀ sibling ∈ extra.threadSiblings.asSlice, sibling ≤ extra.id)
    (few : ∀ cpu ∈ extra :: more, cpu.threadSiblings.asSlice.length ≤ cpusetCapacityLimit)
    (same : nodes.flatMap writeNode =
      writeCpu extra ++ (more.flatMap writeCpu ++ nodes'.flatMap writeNode)) : False := by
  rw [List.forall_mem_cons] at few
  have whole := (flatMap_writeNode fewMembers).symm.trans same
  obtain ⟨id, flags, middle, high, small, low⟩ :=
    words_offline offline unclassified few.1 whole
  have next := words_more fewMembers' few.2 whole
  have count : extra.threadSiblings.asSlice.length ≤ extra.id.toNat + 1 := by
    apply length_le_of_below
    intro sibling member
    have order := UInt32.le_iff_toNat_le.mp (below sibling member)
    omega
  have one : 1 ≤ extra.threadSiblings.asSlice.length :=
    List.length_pos_iff.mpr extra.threadSiblings.nonempty
  have limit : extra.threadSiblings.asSlice.length ≤ 1048576 := few.1
  generalize extra.threadSiblings.asSlice.length = length at count one limit middle low next
  cases nodes with
  | nil => cases id
  | cons node nodes =>
      obtain ⟨number, members, sorted, nonempty⟩ := node
      rw [List.pairwise_cons] at ascending
      rw [List.forall_mem_cons] at fewMembers
      rw [List.flatMap_cons, nodeWords] at id flags middle low next
      cases id
      -- The flags are a word that is no count, and what follows them is small.
      match members, sorted, nonempty with
      | [], _, nonempty => exact nonempty rfl
      | [first], _, _ =>
          cases nodes with
          | nil => cases flags
          | cons node nodes =>
              rw [List.flatMap_cons, nodeWords] at flags
              cases flags
      | [first, second], _, _ =>
          cases nodes with
          | nil => cases flags
          | cons node nodes =>
              have bounded : node.2.asSlice.length ≤ 1048576 := fewMembers.2 node List.mem_cons_self
              rw [List.flatMap_cons, nodeWords] at middle low next
              have middle := congrArg UInt32.toNat (Option.some.inj middle)
              have low := congrArg UInt32.toNat (Option.some.inj low)
              rw [UInt32.toNat_ofNat'] at middle
              rw [UInt32.toNat_ofNat', UInt32.toNat_ofNat'] at low
              have inside : 6 + length < node.2.asSlice.length := by
                change 0 = _ at middle
                omega
              have member : node.2.asSlice[6 + length]? = some 0 := by
                rw [show 14 + length = 6 + length + 8 by omega] at next
                simp only [List.cons_append, List.nil_append, List.getElem?_cons_succ] at next
                rwa [List.getElem?_append_left inside] at next
              have place := le_getElem_of_ascending node.2.sorted member
              change 6 + length ≤ 0 at place
              omega
      | [first, second, third], _, _ =>
          cases nodes with
          | nil => cases middle
          | cons node nodes =>
              rw [List.flatMap_cons, nodeWords] at middle low
              have order := UInt32.lt_iff_toNat_lt.mp (ascending.1 node List.mem_cons_self)
              have middle := congrArg UInt32.toNat (Option.some.inj middle)
              have low := congrArg UInt32.toNat (Option.some.inj low)
              rw [UInt32.toNat_ofNat'] at middle low
              change node.1.toNat = _ at middle
              change 0 = _ at low
              change extra.id.toNat < _ at order
              omega
      | first :: second :: third :: fourth :: members, sorted, _ =>
          have ordered := (List.pairwise_cons.mp (List.pairwise_cons.mp
            (List.pairwise_cons.mp sorted).2).2).1 fourth List.mem_cons_self
          have order := UInt32.lt_iff_toNat_lt.mp ordered
          cases Option.some.inj flags
          have middle := congrArg UInt32.toNat (Option.some.inj middle)
          rw [UInt32.toNat_ofNat'] at middle
          change fourth.toNat = _ at middle
          change 65536 < _ at order
          omega

/-! ## Equal inputs -/

/-- The topologies differ in the package or core number of an online CPU that is unknown in one
of them and `u32::MAX` in the other, and in nothing that is written otherwise. -/
structure Confused (planned current : CpuTopology) : Prop where
  possible : planned.possible = current.possible
  online : planned.online = current.online
  cpus : planned.cpus.map shown = current.cpus.map shown
  numaNodes : planned.numaNodes = current.numaNodes
  differs : ∃ online, planned.online = some online ∧ ∃ cpu ∈ planned.cpus, ∃ other ∈ current.cpus,
    cpu.id ∈ online.asSlice ∧ cpu.id = other.id ∧
      (cpu.packageId ≠ other.packageId ∨ cpu.coreId ≠ other.coreId)

theorem map_id_of_shown {cpus others : List CpuTopologyCpu}
    (views : cpus.map shown = others.map shown) :
    cpus.map CpuTopologyCpu.id = others.map CpuTopologyCpu.id := by
  have ids := congrArg (List.map CpuTopologyCpu.id) views
  rwa [List.map_map, List.map_map] at ids

theorem flatMap_writeCpu_of_shown {cpus others : List CpuTopologyCpu}
    (views : cpus.map shown = others.map shown) :
    cpus.flatMap writeCpu = others.flatMap writeCpu := by
  have written (cpus : List CpuTopologyCpu) :
      cpus.flatMap writeCpu = (cpus.map shown).flatMap writeCpu := by
    rw [List.flatMap_map]
    exact List.flatMap_congr fun cpu _ => (writeCpu_shown cpu).symm
  rw [written cpus, written others, views]

theorem eq_of_shown {cpu other : CpuTopologyCpu} (view : shown cpu = shown other)
    (package : cpu.packageId = other.packageId) (core : cpu.coreId = other.coreId)
    (node : cpu.numaNode = other.numaNode) : cpu = other := by
  cases cpu
  cases other
  simp only [shown, CpuTopologyCpu.mk.injEq] at view package core node ⊢
  exact ⟨view.1, package, core, view.2.2.2.1, view.2.2.2.2.1, view.2.2.2.2.2.1, node,
    view.2.2.2.2.2.2.2⟩

theorem id_eq_of_shown {cpu other : CpuTopologyCpu} (view : shown cpu = shown other) :
    cpu.id = other.id := by
  have ids := congrArg CpuTopologyCpu.id view
  exact ids

/-- Records that are the same where they are present. -/
theorem filter_eq_of_shown {present : UInt32 → Bool} {cpus others : List CpuTopologyCpu}
    (views : cpus.map shown = others.map shown)
    (same : ∀ cpu ∈ cpus, ∀ other ∈ others, present cpu.id = true → shown cpu = shown other →
      cpu = other) :
    (cpus.filter fun cpu => present cpu.id) = others.filter fun cpu => present cpu.id := by
  induction cpus generalizing others with
  | nil =>
      cases others with
      | nil => rfl
      | cons _ _ => cases views
  | cons cpu cpus ih =>
      cases others with
      | nil => cases views
      | cons other others =>
          obtain ⟨view, views⟩ := List.cons.inj views
          have rest := ih views fun cpu member other member' =>
            same cpu (List.mem_cons_of_mem _ member) other (List.mem_cons_of_mem _ member')
          have ids := id_eq_of_shown view
          rw [List.filter_cons, List.filter_cons, rest, ← ids]
          by_cases inside : present cpu.id = true
          · rw [if_pos inside, if_pos inside,
              same cpu List.mem_cons_self other List.mem_cons_self inside view]
          · rw [if_neg inside, if_neg inside]

/-- Nodes show where they end. -/
theorem nodes_eq {nodes nodes' : List (UInt32 × CpuSet)}
    (same : nodes.flatMap writeNode = nodes'.flatMap writeNode) : nodes = nodes' := by
  have nonempty (node : UInt32 × CpuSet) (rest : Bytes) : [] ≠ writeNode node ++ rest := by
    intro empty
    have length := congrArg List.length empty
    rw [writeNode, List.length_append, List.length_append, toBigEndian_length,
      List.length_nil] at length
    omega
  have texts : nodes.flatMap writeNode ++ [] = nodes'.flatMap writeNode ++ [] := by rw [same]
  rcases framed_writeNode.flatMap_append_cases (fun _ _ => trivial) (fun _ _ => trivial) texts with
    ⟨maps, -⟩ | ⟨_, node, _, -, -, longer⟩ | ⟨_, node, _, -, -, longer⟩
  · simpa only [List.map_id] using maps
  · exact absurd longer (nonempty node _)
  · exact absurd longer (nonempty node _)

section Accepted

variable {first second : CpuTopology} {online : CpuSet}

/-- No topology with the same online CPUs has a record more. -/
theorem not_longer (recorded : first.WellFormed) (ordered : second.WellFormed)
    (nodes : first.Derived) (derived : second.Derived) (known : first.online = some online)
    (known' : second.online = some online) {front more : List CpuTopologyCpu}
    {extra : CpuTopologyCpu} (cpus : second.cpus = front ++ extra :: more)
    (views : first.cpus.map shown = front.map shown)
    (rest : first.numaNodes.entries.flatMap writeNode =
      writeCpu extra ++ (more.flatMap writeCpu ++ second.numaNodes.entries.flatMap writeNode)) :
    False := by
  have member : extra ∈ second.cpus := by
    rw [cpus]
    exact List.mem_append_right _ List.mem_cons_self
  have lower : ∀ id ∈ online.asSlice, id < extra.id := by
    intro id present
    obtain ⟨cpu, inside, rfl⟩ := recorded.recorded online known id present
    have listed : cpu.id ∈ front.map CpuTopologyCpu.id := by
      rw [← map_id_of_shown views]
      exact List.mem_map_of_mem inside
    have ascending := ordered.ascending
    rw [cpus, List.map_append, List.pairwise_append] at ascending
    exact ascending.2.2 cpu.id listed extra.id List.mem_cons_self
  have absent : extra.id ∉ online.asSlice := fun present => UInt32.lt_irrefl _ (lower _ present)
  apply no_extra first.numaNodes.sorted nodes.fewMembers derived.fewMembers _ _ _ _ rest
  · rw [derived.flagged online known' extra member]
    exact Bool.eq_false_iff.mpr fun contained => absent (CpuSet.contains_eq_true_iff.mp contained)
  · exact derived.unclassified online known' extra member absent
  · intro sibling related
    rcases ordered.siblings online known' extra member sibling related with rfl | present
    · exact UInt32.le_refl _
    · exact UInt32.le_of_lt (lower sibling present)
  · intro cpu listed
    apply derived.fewSiblings
    rw [cpus]
    exact List.mem_append_right _ listed

/-- The sets in front of the records are determined. -/
theorem sets_eq_of_revisionInput (same : first.revisionInput = second.revisionInput) :
    first.possible = second.possible ∧ first.online = second.online ∧
      first.cpus.flatMap writeCpu ++ first.numaNodes.entries.flatMap writeNode =
        second.cpus.flatMap writeCpu ++ second.numaNodes.entries.flatMap writeNode := by
  simp only [CpuTopology.revisionInput, revisionBytes, List.append_assoc] at same
  obtain ⟨possible, same⟩ := framed_writeOptionSet _ _ _ _ trivial trivial same
  obtain ⟨onlines, same⟩ := framed_writeOptionSet _ _ _ _ trivial trivial same
  exact ⟨possible, onlines, same⟩

/-- The input of the digest determines everything but the unknown numbers. -/
theorem eq_of_revisionInput (ordered : first.WellFormed) (ordered' : second.WellFormed)
    (derived : first.Derived) (derived' : second.Derived) (known : first.online = some online)
    (same : first.revisionInput = second.revisionInput) :
    first.possible = second.possible ∧ first.online = second.online ∧
      first.cpus.map shown = second.cpus.map shown ∧ first.numaNodes = second.numaNodes := by
  obtain ⟨possible, onlines, same⟩ := sets_eq_of_revisionInput same
  have known' : second.online = some online := onlines.symm.trans known
  have aligned : first.cpus.map shown = second.cpus.map shown ∧
      first.numaNodes.entries.flatMap writeNode = second.numaNodes.entries.flatMap writeNode := by
    rcases framed_writeCpu.flatMap_append_cases derived.capacity derived'.capacity same with
      aligned | ⟨front, extra, more, cpus, views, rest⟩ | ⟨front, extra, more, cpus, views, rest⟩
    · exact aligned
    · exact (not_longer ordered ordered' derived derived' known known' cpus views rest).elim
    · exact (not_longer ordered' ordered derived' derived known' known cpus views rest).elim
  have nodes := nodes_eq aligned.2
  refine ⟨possible, onlines, aligned.1, ?_⟩
  cases firstNodes : first.numaNodes
  cases secondNodes : second.numaNodes
  rw [firstNodes, secondNodes] at nodes
  cases nodes
  rfl

/-- Equal records but for the unknown numbers are equal where no number is confused. -/
theorem planningFacts_eq (derived : first.Derived) (derived' : second.Derived)
    (known : first.online = some online) (onlines : first.online = second.online)
    (views : first.cpus.map shown = second.cpus.map shown)
    (nodes : first.numaNodes = second.numaNodes)
    (agree : ∀ cpu ∈ first.cpus, ∀ other ∈ second.cpus, cpu.id ∈ online.asSlice →
      cpu.id = other.id → cpu.packageId = other.packageId ∧ cpu.coreId = other.coreId) :
    first.planningFacts = second.planningFacts := by
  have known' : second.online = some online := onlines.symm.trans known
  have located : ∀ cpu ∈ first.cpus, ∀ other ∈ second.cpus, cpu.id = other.id →
      cpu.numaNode = other.numaNode := by
    intro cpu member other member' same
    obtain ⟨numaOf, made, at_⟩ := derived.located
    obtain ⟨numaOf', made', at'⟩ := derived'.located
    rw [nodes, made'] at made
    cases made
    rw [at_ cpu member, at' other member', same]
  have filtered : (first.cpus.filter fun cpu => CpuSet.contains online cpu.id) =
      second.cpus.filter fun cpu => CpuSet.contains online cpu.id := by
    apply filter_eq_of_shown views
    intro cpu member other member' present view
    have ids := id_eq_of_shown view
    have numbers := agree cpu member other member' (CpuSet.contains_eq_true_iff.mp present) ids
    exact eq_of_shown view numbers.1 numbers.2 (located cpu member other member' ids)
  have modes : first.capacityMode = second.capacityMode := by
    rw [← derived.mode, ← derived'.mode, known, known']
    apply classifyCapacities_mode
    rw [onlineCapacities, onlineCapacities, filtered]
  simp only [CpuTopology.planningFacts, known, known', Option.map_some, filtered, modes]

/-- Where a number is confused, the inputs are equal and the facts are not. -/
theorem Confused.differ (ordered : first.WellFormed) (confused : Confused first second) :
    second.revisionInput = first.revisionInput ∧
      second.planningFacts ≠ first.planningFacts := by
  obtain ⟨possible, onlines, views, nodes, online, known, cpu, member, other, member', present,
    ids, differs⟩ := confused
  constructor
  · rw [CpuTopology.revisionInput, CpuTopology.revisionInput, possible, onlines, nodes,
      revisionBytes, revisionBytes, flatMap_writeCpu_of_shown views]
  · intro facts
    rw [CpuTopology.planningFacts, CpuTopology.planningFacts, ← onlines, known] at facts
    have records := (Prod.mk.inj (Prod.mk.inj (Option.some.inj facts)).2).1
    have inside : other ∈ first.cpus := by
      have kept : other ∈ second.cpus.filter fun cpu => CpuSet.contains online cpu.id :=
        List.mem_filter.mpr ⟨member', CpuSet.contains_eq_true_iff.mpr (ids ▸ present)⟩
      rw [records] at kept
      exact (List.mem_filter.mp kept).1
    have nodup : (first.cpus.map CpuTopologyCpu.id).Nodup :=
      ordered.ascending.imp UInt32.ne_of_lt
    have same : cpu = other := List.inj_on_of_nodup_map nodup member inside ids
    subst same
    rcases differs with differs | differs
    · exact differs rfl
    · exact differs rfl

theorem eq_of_known {first second : Option UInt32} (same : known first = known second)
    (numbered : (known first).isSome) : first = second := by
  obtain ⟨value, shows⟩ := Option.isSome_iff_exists.mp numbered
  rw [(Option.filter_eq_some_iff.mp shows).1,
    (Option.filter_eq_some_iff.mp (same.symm.trans shows)).1]

/-- No number of an online CPU is confused that is known and is not `u32::MAX`. -/
theorem not_confused_of_numbered (ordered : first.WellFormed)
    (numbered : ∀ online, first.online = some online → ∀ cpu ∈ first.cpus,
      cpu.id ∈ online.asSlice → (known cpu.packageId).isSome ∧ (known cpu.coreId).isSome) :
    ¬Confused first second := by
  rintro ⟨-, -, views, -, online, shows, cpu, member, other, member', present, ids, differs⟩
  have view : shown cpu = shown other := by
    have listed : shown other ∈ first.cpus.map shown := by
      rw [views]
      exact List.mem_map_of_mem member'
    obtain ⟨record, inside, view⟩ := List.mem_map.mp listed
    have nodup : (first.cpus.map CpuTopologyCpu.id).Nodup :=
      ordered.ascending.imp UInt32.ne_of_lt
    have same : cpu = record :=
      List.inj_on_of_nodup_map nodup member inside (ids.trans (id_eq_of_shown view).symm)
    rwa [same]
  have package := congrArg CpuTopologyCpu.packageId view
  have core := congrArg CpuTopologyCpu.coreId view
  have both := numbered online shows cpu member present
  rcases differs with differs | differs
  · exact differs (eq_of_known package both.1)
  · exact differs (eq_of_known core both.2)

/-- Equal inputs have equal planning facts exactly where no number is confused. -/
theorem planningFacts_of_revisionInput_iff (ordered : first.WellFormed)
    (ordered' : second.WellFormed) (derived : first.Derived) (derived' : second.Derived) :
    (second.revisionInput = first.revisionInput → second.planningFacts = first.planningFacts) ↔
      ¬Confused first second := by
  constructor
  · intro determines confused
    obtain ⟨same, differ⟩ := confused.differ ordered
    exact differ (determines same)
  · intro distinct same
    cases known : first.online with
    | none =>
        obtain ⟨-, onlines, -⟩ := sets_eq_of_revisionInput same
        rw [CpuTopology.planningFacts, CpuTopology.planningFacts, onlines, known]
        rfl
    | some online =>
        obtain ⟨possible, onlines, views, nodes⟩ :=
          eq_of_revisionInput ordered ordered' derived derived' known same.symm
        apply Eq.symm
        apply planningFacts_eq derived derived' known onlines views nodes
        intro cpu member other member' present ids
        by_contra differs
        rw [not_and_or] at differs
        exact distinct ⟨possible, onlines, views, nodes, online, known, cpu, member, other, member',
          present, ids, differs⟩

end Accepted

/-! ## Plans -/

theorem revision_of_validateBeforeApply {plan : CpuIsolationPlan} {current : CpuTopology}
    {identity : Option TargetIdentity}
    (valid : plan.validateBeforeApply current identity = .ok ()) :
    current.revision = plan.topologyRevision := by
  unfold CpuIsolationPlan.validateBeforeApply at valid
  obtain ⟨unchanged, -⟩ := guard_eq_ok_iff.mp valid
  rw [not_or, not_not] at unchanged
  exact unchanged.1

/-- The revision determines the facts exactly where no number is confused. -/
theorem revisionDetermines_iff {facts facts' : CpuTopologyFacts} {numa numa' : NumaFacts}
    {planned current : CpuTopology} (accepted : CpuTopology.fromFacts facts numa = .ok planned)
    (accepted' : CpuTopology.fromFacts facts' numa' = .ok current) :
    RevisionDetermines planned current ↔ ¬Confused planned current := by
  have derived := derived_of_fromFacts accepted
  have derived' := derived_of_fromFacts accepted'
  rw [← planningFacts_of_revisionInput_iff (wellFormed_of_fromFacts accepted)
    (wellFormed_of_fromFacts accepted') derived derived']
  constructor
  · exact fun determines => determines.1
  · intro determines
    constructor
    · exact determines
    · intro policy target plan identity selected valid distinct
      obtain ⟨_, choice⟩ := CpuTopology.selected_of_selectForTarget selected
      have revisions := (revision_of_validateBeforeApply valid).trans choice.revision
      rw [derived.revision, derived'.revision] at revisions
      exact determines (distinct (TopologyRevision.mk.inj revisions))

/-- CPUs whose siblings are not known. -/
def Fixture.numberedFacts (packageId : Option UInt32) : CpuTopologyFacts where
  possible := some "0-3"
  online := some "0-3"
  entries := [⟨0, packageId, some 0, none, some 1024, true⟩,
    ⟨1, packageId, some 0, none, some 1024, true⟩, ⟨2, packageId, some 1, none, some 1024, true⟩,
    ⟨3, packageId, some 1, none, some 1024, true⟩]
  heterogeneous := false

/-- Numbers below the greatest are not confused. -/
theorem revisionDetermines_iff_numbered :
    ∃ planned current,
      CpuTopology.fromFacts (Fixture.numberedFacts (some 0)) ⟨[]⟩ = .ok planned ∧
      CpuTopology.fromFacts (Fixture.numberedFacts (some 1)) ⟨[]⟩ = .ok current ∧
      RevisionDetermines planned current := by
  have runs : ((CpuTopology.fromFacts (Fixture.numberedFacts (some 0)) ⟨[]⟩).toOption.any
      fun planned =>
    (CpuTopology.fromFacts (Fixture.numberedFacts (some 1)) ⟨[]⟩).toOption.any fun current =>
      planned.cpus.map shown ≠ current.cpus.map shown) = true := by
    decide +kernel
  obtain ⟨planned, accepted, runs⟩ := exists_ok_of_any runs
  obtain ⟨current, accepted', runs⟩ := exists_ok_of_any runs
  have distinct : ¬Confused planned current := fun confused =>
    absurd confused.cpus (of_decide_eq_true runs)
  exact ⟨planned, current, accepted, accepted',
    (revisionDetermines_iff accepted accepted').mpr distinct⟩

/-- A plan made without package numbers is valid on the package `u32::MAX`, where it splits a
core that a plan made there keeps whole. -/
theorem revision_confused :
    ∃ planned current plan replanned,
      CpuTopology.fromFacts (Fixture.numberedFacts none) ⟨[]⟩ = .ok planned ∧
      CpuTopology.fromFacts (Fixture.numberedFacts (some 0xffffffff)) ⟨[]⟩ = .ok current ∧
      current.revisionInput = planned.revisionInput ∧
      current.planningFacts ≠ planned.planningFacts ∧
      planned.select ⟨false, some 1, none⟩ = .ok plan ∧
      plan.validateBeforeApply current none = .ok () ∧
      current.select ⟨false, some 1, none⟩ = .ok replanned ∧
      plan.workloadCpus.asSlice = [0] ∧ replanned.workloadCpus.asSlice = [0, 1] := by
  have runs : ((CpuTopology.fromFacts (Fixture.numberedFacts none) ⟨[]⟩).toOption.any
      fun planned =>
    (CpuTopology.fromFacts (Fixture.numberedFacts (some 0xffffffff)) ⟨[]⟩).toOption.any
      fun current =>
    (planned.select ⟨false, some 1, none⟩).toOption.any fun plan =>
    (current.select ⟨false, some 1, none⟩).toOption.any fun replanned =>
      current.revisionInput = planned.revisionInput &&
        current.planningFacts ≠ planned.planningFacts &&
        ((plan.validateBeforeApply current none).toOption.any fun _ => true) &&
        plan.workloadCpus.asSlice = [0] && replanned.workloadCpus.asSlice = [0, 1]) = true := by
    decide +kernel
  obtain ⟨planned, accepted, runs⟩ := exists_ok_of_any runs
  obtain ⟨current, accepted', runs⟩ := exists_ok_of_any runs
  obtain ⟨plan, selected, runs⟩ := exists_ok_of_any runs
  obtain ⟨replanned, selected', runs⟩ := exists_ok_of_any runs
  simp only [Bool.and_eq_true, decide_eq_true_eq] at runs
  obtain ⟨⟨⟨⟨input, facts⟩, passes⟩, workload⟩, workload'⟩ := runs
  obtain ⟨⟨⟩, valid, -⟩ := exists_ok_of_any passes
  exact ⟨planned, current, plan, replanned, accepted, accepted', input, facts, selected, valid,
    selected', workload, workload'⟩

end Sysboost.Linux.Topology
