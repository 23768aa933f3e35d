import Sysboost.Linux.Discovery.CurrentState
import Sysboost.Linux.Topology.Accepted
import Sysboost.Linux.WorkloadRestore
import Sysboost.Ordered.Runs

/-!
# Lists of CPUs

A set of CPUs is rendered as runs.  The topology, discovery and the workload
backend read such lists each in their own way, and discovery also looks a single
CPU up in one.
-/

namespace Sysboost.Linux.Topology

open Sysboost.Core ByteCodec Discovery Ordered Results Workload

/-! ## Rendering -/

/-- `saturating_add(1)`. -/
def saturatingNext (cpu : UInt32) : UInt32 :=
  if cpu = 0xffffffff then cpu else cpu + 1

def renderRange (range : UInt32 × UInt32) : String :=
  if range.1 = range.2 then toString range.1
  else toString range.1 ++ "-" ++ toString range.2

/-- The ranges that the loop of `render_cpu_set` collects. -/
def runsOf (cpus : CpuSet) : List (UInt32 × UInt32) :=
  runs (fun last cpu => cpu = saturatingNext last) cpus.asSlice

def renderCpuSet (cpus : CpuSet) : String :=
  ",".intercalate ((runsOf cpus).map renderRange)

/-- `start..=end`. -/
def cpusBetween (first last : Nat) : List UInt32 :=
  (List.range' first (last - first + 1)).map UInt32.ofNat

def cpusOf (range : UInt32 × UInt32) : List UInt32 :=
  cpusBetween range.1.toNat range.2.toNat

theorem mem_cpusBetween {first last : Nat} (ordered : first ≤ last) (fits : last < 2 ^ 32)
    {cpu : UInt32} : cpu ∈ cpusBetween first last ↔ first ≤ cpu.toNat ∧ cpu.toNat ≤ last := by
  rw [cpusBetween, List.mem_map]
  constructor
  · rintro ⟨number, member, rfl⟩
    obtain ⟨above, below⟩ := List.mem_range'_1.mp member
    rw [UInt32.toNat_ofNat_of_lt' ((by omega : number ≤ last).trans_lt fits)]
    omega
  · rintro ⟨above, below⟩
    exact ⟨cpu.toNat, List.mem_range'_1.mpr (by omega), UInt32.ofNat_toNat⟩

@[simp]
theorem length_cpusBetween (first last : Nat) :
    (cpusBetween first last).length = last - first + 1 := by
  simp [cpusBetween]

/-- Where there is a greater CPU, the next number does not overflow. -/
theorem toNat_saturatingNext {last cpu : UInt32} (above : last < cpu) :
    (saturatingNext last).toNat = last.toNat + 1 := by
  rw [UInt32.lt_iff_toNat_lt] at above
  have small : cpu.toNat < 2 ^ 32 := cpu.toNat_lt
  have below : last ≠ 0xffffffff := by
    rintro rfl
    have top : UInt32.toNat 0xffffffff = 2 ^ 32 - 1 := rfl
    omega
  rw [saturatingNext, if_neg below, UInt32.toNat_add, UInt32.toNat_one]
  omega

theorem fills_cpusOf : Fills (fun last cpu => decide (cpu = saturatingNext last)) cpusOf := by
  constructor
  · intro first
    simp [cpusOf, cpusBetween]
  · intro first last next ordered above joined
    have number := toNat_saturatingNext above
    rw [← of_decide_eq_true joined] at number
    rw [UInt32.le_iff_toNat_le] at ordered
    have longer : next.toNat - first.toNat + 1 = last.toNat - first.toNat + 1 + 1 := by omega
    have last' : first.toNat + (last.toNat - first.toNat + 1) = next.toNat := by omega
    rw [cpusOf, cpusBetween, longer, List.range'_concat, List.map_append, List.map_singleton, Nat.one_mul,
      last', UInt32.ofNat_toNat]
    rfl

/-! ## Reading -/

/-- A number holds digits. -/
theorem not_mem_toString {symbol : Char} (other : symbol.isDigit = false) (cpu : UInt32) :
    symbol ∉ (toString cpu).toList := by
  intro member
  have number : symbol ∈ (toString cpu.toNat).toList := member
  rw [isDigit_of_mem_toString number] at other
  cases other

theorem parseNumber_toString_cpu (cpu : UInt32) :
    parseNumber (2 ^ 32) (toString cpu) = some cpu.toNat :=
  parseNumber_toString cpu.toNat_lt

/-- The symbols of a rendered run. -/
theorem forall_mem_renderRange {p : Char → Prop} (dash : p '-')
    (digits : ∀ symbol, symbol.isDigit = true → p symbol) (range : UInt32 × UInt32) :
    ∀ symbol ∈ (renderRange range).toList, p symbol := by
  have number (cpu : UInt32) : ∀ symbol ∈ (toString cpu).toList, p symbol := by
    intro symbol member
    have number : symbol ∈ (toString cpu.toNat).toList := member
    exact digits symbol (isDigit_of_mem_toString number)
  unfold renderRange
  split
  · exact number range.1
  · intro symbol member
    simp only [String.toList_append, List.mem_append] at member
    rcases member with (member | member) | member
    · exact number range.1 symbol member
    · rw [List.mem_singleton.mp member]
      exact dash
    · exact number range.2 symbol member

/-- The ends of a range are those around its dash. -/
theorem splitFirst_dash {first last : String} (plain : '-' ∉ first.toList) :
    splitFirst '-' (first ++ "-" ++ last) = some (first, last) :=
  splitFirst_eq_some plain (by simp)

/-- A run of one CPU is rendered as its number. -/
theorem renderRange_single {range : UInt32 × UInt32} (single : range.1 = range.2) :
    renderRange range = toString range.1 ∧ splitFirst '-' (toString range.1) = none ∧
      cpusOf range = [range.1] := by
  refine ⟨if_pos single, splitFirst_eq_none_iff.mpr (not_mem_toString (by decide) range.1), ?_⟩
  simp [cpusOf, cpusBetween, ← single]

/-- A longer run is rendered as its ends. -/
theorem splitFirst_renderRange {range : UInt32 × UInt32} (longer : range.1 ≠ range.2) :
    splitFirst '-' (renderRange range) = some (toString range.1, toString range.2) := by
  rw [renderRange, if_neg longer]
  exact splitFirst_dash (not_mem_toString (by decide) range.1)

@[simp]
theorem renderRange_isEmpty (range : UInt32 × UInt32) : (renderRange range).isEmpty = false := by
  have filled : toString range.1 ≠ "" := toString_ne_empty range.1.toNat
  rw [Bool.eq_false_iff, ne_eq, String.isEmpty_iff, renderRange]
  split
  · exact filled
  · intro empty
    exact filled (by simpa [String.append_eq_empty_iff] using congrArg String.toList empty)

theorem trim_renderRange (range : UInt32 × UInt32) : trim (renderRange range) = renderRange range :=
  trim_of_solid
    (forall_mem_renderRange (by decide) (fun _ digit => isWhitespace_of_isDigit digit) range)

section Part

variable {range : UInt32 × UInt32}

theorem parseCpuPart_renderRange {cpus : List UInt32} (ordered : range.1 ≤ range.2)
    (fits : cpus.length + (cpusOf range).length ≤ cpusetCapacityLimit) :
    parseCpuPart cpus (renderRange range) = .ok (cpus ++ cpusOf range) := by
  rw [UInt32.le_iff_toNat_le] at ordered
  have within : ¬cpusetCapacityLimit < (cpus ++ cpusOf range).length := by
    rw [List.length_append]
    omega
  simp only [parseCpuPart, renderRange_isEmpty, Bool.false_eq_true, if_false]
  by_cases single : range.1 = range.2
  · obtain ⟨text, whole, cpu⟩ := renderRange_single single
    rw [cpu] at within ⊢
    simp only [text, whole, parseNumber_toString_cpu, UInt32.ofNat_toNat, pure_bind, if_neg within]
    rfl
  · rw [cpusOf, length_cpusBetween] at fits
    simp only [splitFirst_renderRange single, parseNumber_toString_cpu, if_neg ordered.not_gt,
      if_neg fits.not_gt, pure_bind]
    exact if_neg within

theorem parseCpuRange_renderRange (ordered : range.1 ≤ range.2)
    (fits : (cpusOf range).length ≤ 4096) :
    parseCpuRange (renderRange range) = some (cpusOf range) := by
  rw [UInt32.le_iff_toNat_le] at ordered
  rw [cpusOf, length_cpusBetween] at fits
  have trimmed (cpu : UInt32) : trim (toString cpu) = toString cpu :=
    trim_of_solid (solid_toString cpu.toNat)
  rw [parseCpuRange]
  by_cases single : range.1 = range.2
  · obtain ⟨text, whole, cpu⟩ := renderRange_single single
    simp only [text, whole, trimmed, parseNumber_toString_cpu, cpu, bind, Option.bind_some,
      UInt32.ofNat_toNat]
    rfl
  · have within : ¬(decide (range.2.toNat < range.1.toNat) ||
        decide (4096 < range.2.toNat - range.1.toNat)) = true := by
      simp only [Bool.or_eq_true, decide_eq_true_eq]
      omega
    simp only [splitFirst_renderRange single, trimmed, parseNumber_toString_cpu, bind,
      Option.bind_some, if_neg within, cpusOf, cpusBetween, Nat.succ_sub ordered]
    rfl

theorem parseCpusetPart_renderRange (ordered : range.1 ≤ range.2)
    (fits : (cpusOf range).length ≤ 4096) :
    parseCpusetPart (renderRange range) = .ok (cpusOf range) := by
  rw [UInt32.le_iff_toNat_le] at ordered
  rw [cpusOf, length_cpusBetween] at fits
  have read (cpu : UInt32) (message : String) :
      number (2 ^ 32) message (toString cpu) = .ok cpu.toNat := number_toString _ cpu.toNat_lt
  simp only [parseCpusetPart, renderRange_isEmpty, Bool.false_eq_true, if_false]
  by_cases single : range.1 = range.2
  · obtain ⟨text, whole, cpu⟩ := renderRange_single single
    simp only [text, whole, read, bind, Except.bind, UInt32.ofNat_toNat, cpu]
    rfl
  · have within : ¬(range.2.toNat < range.1.toNat ∨ 4096 < range.2.toNat - range.1.toNat) := by
      omega
    simp only [splitFirst_renderRange single, read, bind, Except.bind, if_neg within]
    rfl

/-- A rendered run is read by `range_contains` as the run. -/
theorem contains_renderRange {needle : UInt32} (ordered : range.1 ≤ range.2) :
    (match splitFirst '-' (renderRange range) with
      | none => decide (parseNumber (2 ^ 32) (renderRange range) = some needle.toNat)
      | some (first, last) =>
          match parseNumber (2 ^ 32) first, parseNumber (2 ^ 32) last with
          | some first, some last => first ≤ needle.toNat && needle.toNat ≤ last
          | _, _ => false) = true ↔ needle ∈ cpusOf range := by
  by_cases single : range.1 = range.2
  · obtain ⟨text, whole, cpu⟩ := renderRange_single single
    simp only [text, whole, parseNumber_toString_cpu, cpu, decide_eq_true_eq, Option.some.injEq,
      UInt32.toNat_inj, List.mem_singleton]
    exact eq_comm
  · rw [UInt32.le_iff_toNat_le] at ordered
    simp only [splitFirst_renderRange single, parseNumber_toString_cpu, cpusOf,
      mem_cpusBetween ordered range.2.toNat_lt, Bool.and_eq_true, decide_eq_true_eq]

end Part

/-! ## Reading back -/

variable {cpus : CpuSet}

theorem flatMap_runsOf (cpus : CpuSet) : (runsOf cpus).flatMap cpusOf = cpus.asSlice :=
  flatMap_runs fills_cpusOf cpus.sorted

theorem le_of_mem_runsOf {range : UInt32 × UInt32} (member : range ∈ runsOf cpus) :
    range.1 ≤ range.2 :=
  le_of_mem_runs cpus.sorted member

theorem length_le_of_mem_runsOf {range : UInt32 × UInt32} (member : range ∈ runsOf cpus) :
    (cpusOf range).length ≤ cpus.asSlice.length := by
  rw [← flatMap_runsOf cpus]
  exact (List.sublist_flatten_of_mem (List.mem_map_of_mem member)).length_le

/-- The parts of a rendered set are its runs. -/
theorem splitAll_renderCpuSet (cpus : CpuSet) :
    splitAll ',' (renderCpuSet cpus) = (runsOf cpus).map renderRange := by
  apply splitAll_intercalate
  · intro none
    have listed := flatMap_runsOf cpus
    rw [List.map_eq_nil_iff.mp none, List.flatMap_nil] at listed
    exact cpus.nonempty listed.symm
  · intro text member
    obtain ⟨range, -, rfl⟩ := List.mem_map.mp member
    exact fun comma => forall_mem_renderRange (p := (· ≠ ',')) (by decide)
      (fun symbol digit other => by rw [other] at digit; cases digit) range _ comma rfl

theorem trim_renderCpuSet (cpus : CpuSet) : trim (renderCpuSet cpus) = renderCpuSet cpus := by
  apply trim_of_solid
  apply forall_mem_intercalate
  · exact forall_mem_of_all (by decide)
  · intro text member
    obtain ⟨range, -, rfl⟩ := List.mem_map.mp member
    exact forall_mem_renderRange (by decide) (fun _ digit => isWhitespace_of_isDigit digit) range

theorem trim_parts (cpus : CpuSet) :
    (splitAll ',' (renderCpuSet cpus)).map trim = (runsOf cpus).map renderRange := by
  rw [splitAll_renderCpuSet, List.map_map]
  exact List.map_congr_left fun range _ => trim_renderRange range

/-- A reader that adds run after run to a list reads the whole set. -/
theorem foldlM_renderRange {step : List UInt32 → String → Except SysboostError (List UInt32)}
    {bound : Nat} (reads : ∀ listed range, range.1 ≤ range.2 →
      listed.length + (cpusOf range).length ≤ bound →
        step listed (renderRange range) = .ok (listed ++ cpusOf range))
    (fits : cpus.asSlice.length ≤ bound) :
    ((runsOf cpus).map renderRange).foldlM step [] = .ok cpus.asSlice := by
  rw [← flatMap_runsOf cpus] at fits ⊢
  rw [List.foldlM_map]
  apply foldlM_append
  · exact fun listed range member => reads listed range (le_of_mem_runsOf member)
  · rwa [List.length_nil, Nat.zero_add]

theorem parseCpuList_renderCpuSet (bounded : cpus.asSlice.length ≤ cpusetCapacityLimit) :
    parseCpuList (renderCpuSet cpus) = .ok cpus := by
  have filled : (renderCpuSet cpus).isEmpty = false := by
    rw [Bool.eq_false_iff, ne_eq, String.isEmpty_iff]
    intro empty
    have listed : "" ∈ (runsOf cpus).map renderRange := by
      rw [← splitAll_renderCpuSet, empty]
      decide
    obtain ⟨range, -, blank⟩ := List.mem_map.mp listed
    exact absurd (renderRange_isEmpty range) (by simp [blank])
  have listed : ((runsOf cpus).map renderRange).foldlM parseCpuPart [] = .ok cpus.asSlice :=
    foldlM_renderRange (fun _ _ => parseCpuPart_renderRange) bounded
  simp only [parseCpuList, trim_renderCpuSet, filled, trim_parts, listed]
  exact CpuSet.new_asSlice cpus

theorem parseCpuSet_renderCpuSet (bounded : cpus.asSlice.length ≤ 4096) :
    parseCpuSet (renderCpuSet cpus) = some cpus := by
  have listed : ((runsOf cpus).map renderRange).mapM parseCpuRange =
      some ((runsOf cpus).map cpusOf) := by
    rw [List.mapM_map]
    apply mapM_eq_some_map
    intro range member
    have shorter := (length_le_of_mem_runsOf member).trans bounded
    exact parseCpuRange_renderRange (le_of_mem_runsOf member) shorter
  rw [parseCpuSet, splitAll_renderCpuSet, listed]
  simp only [bind, Option.bind_some, ← List.flatMap_def, flatMap_runsOf, CpuSet.new_asSlice]
  rfl

theorem parseCpuset_renderCpuSet (bounded : cpus.asSlice.length ≤ 4096) :
    parseCpuset (renderCpuSet cpus) = .ok cpus := by
  rw [parseCpuset, trim_renderCpuSet, splitAll_renderCpuSet]
  rw [foldlM_renderRange _ bounded]
  · simp only [bind, Except.bind, CpuSet.new_asSlice]
    rfl
  · intro listed range ordered fits
    have within : ¬4096 < (listed ++ cpusOf range).length := by
      rw [List.length_append]
      omega
    rw [parseCpusetPart_renderRange ordered (by omega)]
    exact if_neg within

theorem rangeContains_renderCpuSet {needle : UInt32} :
    rangeContains (renderCpuSet cpus) needle = true ↔ needle ∈ cpus.asSlice := by
  have filled : ∀ text ∈ (runsOf cpus).map renderRange, (!text.isEmpty) = true := by
    simp only [List.forall_mem_map, renderRange_isEmpty, Bool.not_false, implies_true]
  rw [rangeContains, trim_parts, List.filter_eq_self.mpr filled, List.any_map, List.any_eq_true,
    ← flatMap_runsOf cpus, List.mem_flatMap]
  apply exists_congr
  intro range
  exact and_congr_right fun member => contains_renderRange (le_of_mem_runsOf member)

/-! ## What a list denotes -/

/-- A part of a list denotes one CPU, or those between the ends of a range. -/
inductive Denotes : String → UInt32 → Prop
  | single {part : String} {cpu : UInt32} (plain : '-' ∉ part.toList)
      (number : parseNumber (2 ^ 32) part = some cpu.toNat) : Denotes part cpu
  | range {first last : String} {low high : Nat} {cpu : UInt32} (plain : '-' ∉ first.toList)
      (start : parseNumber (2 ^ 32) first = some low)
      (stop : parseNumber (2 ^ 32) last = some high) (above : low ≤ cpu.toNat)
      (below : cpu.toNat ≤ high) : Denotes (first ++ "-" ++ last) cpu

theorem denotes_single_iff {part : String} {cpu : UInt32} (plain : '-' ∉ part.toList) :
    Denotes part cpu ↔ parseNumber (2 ^ 32) part = some cpu.toNat := by
  constructor
  · rintro (⟨-, number⟩ | _)
    · exact number
    · simp at plain
  · exact .single plain

theorem denotes_range_iff {part first last : String} {low high : Nat} {cpu : UInt32}
    (cut : splitFirst '-' part = some (first, last))
    (start : parseNumber (2 ^ 32) first = some low)
    (stop : parseNumber (2 ^ 32) last = some high) :
    Denotes part cpu ↔ low ≤ cpu.toNat ∧ cpu.toNat ≤ high := by
  constructor
  · rintro (⟨plain, -⟩ | ⟨plain, start', stop', above, below⟩)
    · rw [splitFirst_eq_none_iff.mpr plain] at cut
      cases cut
    · rw [splitFirst_dash plain] at cut
      cases cut
      rw [start] at start'
      rw [stop] at stop'
      cases start'
      cases stop'
      exact ⟨above, below⟩
  · rintro ⟨above, below⟩
    obtain ⟨plain, whole⟩ := splitFirst_eq_some_iff.mp cut
    have same : part = first ++ "-" ++ last := by
      rw [← String.toList_inj, whole]
      simp
    rw [same]
    exact .range plain start stop above below

/-- A step of the reader adds what the part denotes. -/
theorem mem_of_parseCpuPart {listed after : List UInt32} {part : String}
    (step : parseCpuPart listed part = .ok after) {cpu : UInt32} :
    cpu ∈ after ↔ cpu ∈ listed ∨ Denotes part cpu := by
  rcases (parseCpuPart_eq_ok step).2 with
    ⟨first, last, low, high, cut, start, stop, ordered, rfl⟩ | ⟨number, whole, read, rfl⟩
  · rw [List.mem_append, denotes_range_iff cut start stop]
    exact or_congr_right (mem_cpusBetween ordered (parseUnsigned_lt stop))
  · have small : number < 2 ^ 32 := parseUnsigned_lt read
    rw [List.mem_append, List.mem_singleton, denotes_single_iff (splitFirst_eq_none_iff.mp whole),
      read, Option.some.injEq]
    apply or_congr_right
    rw [← UInt32.toNat_inj, UInt32.toNat_ofNat_of_lt' small]
    exact eq_comm

theorem mem_of_parseCpuList {text : String} {cpus : CpuSet} (parsed : parseCpuList text = .ok cpus)
    {cpu : UInt32} :
    cpu ∈ cpus.asSlice ↔ ∃ part ∈ (splitAll ',' (trim text)).map trim, Denotes part cpu := by
  simp only [parseCpuList, bind_eq_ok_iff, guard_eq_ok_iff] at parsed
  obtain ⟨-, listed, parsed, made⟩ := parsed
  rw [mem_of_new made]
  apply foldlM_eq_ok (p := fun listed parts => cpu ∈ listed ↔ ∃ part ∈ parts, Denotes part cpu)
    parsed
  · simp
  · intro listed front part rest after _ known step
    rw [mem_of_parseCpuPart step, known]
    simp [or_and_right, exists_or]

/-- A rendered set is read as the set by every reader, and what the topology
accepts is the set of the CPUs that the text denotes. -/
theorem cpu_lists_agree :
    (∀ cpus : CpuSet, cpus.asSlice.length ≤ 4096 →
      parseCpuList (renderCpuSet cpus) = .ok cpus ∧
        parseCpuSet (renderCpuSet cpus) = some cpus ∧
        parseCpuset (renderCpuSet cpus) = .ok cpus ∧
        ∀ needle, rangeContains (renderCpuSet cpus) needle = true ↔ needle ∈ cpus.asSlice) ∧
    ∀ text cpus, parseCpuList text = .ok cpus →
      cpus.asSlice.Pairwise (· < ·) ∧
        ∀ cpu, cpu ∈ cpus.asSlice ↔
          ∃ part ∈ (splitAll ',' (trim text)).map trim, Denotes part cpu := by
  constructor
  · intro cpus bounded
    refine ⟨?_, parseCpuSet_renderCpuSet bounded, parseCpuset_renderCpuSet bounded,
      fun _ => rangeContains_renderCpuSet⟩
    exact parseCpuList_renderCpuSet (bounded.trans (by decide))
  · exact fun text cpus parsed => ⟨cpus.sorted, fun _ => mem_of_parseCpuList parsed⟩

/-- A set that reaches the greatest number, and a list out of order. -/
theorem cpu_lists_agree_last :
    ∃ cpus listed : CpuSet, cpus.asSlice = [0, 1, 4, 0xfffffffe, 0xffffffff] ∧
      parseCpuList (renderCpuSet cpus) = .ok cpus ∧
      parseCpuList " 4, 1-2,2-3" = .ok listed ∧
      (2 ∈ listed.asSlice ↔
        ∃ part ∈ (splitAll ',' (trim " 4, 1-2,2-3")).map trim, Denotes part 2) := by
  obtain ⟨listed, parsed, -⟩ := exists_ok_of_any (by decide +kernel :
    ((parseCpuList " 4, 1-2,2-3").toOption.any fun _ => true) = true)
  let cpus : CpuSet := ⟨[0, 1, 4, 0xfffffffe, 0xffffffff], by decide, by decide⟩
  exact ⟨cpus, listed, rfl, (cpu_lists_agree.1 cpus (by decide)).1, parsed,
    (cpu_lists_agree.2 _ _ parsed).2 2⟩

end Sysboost.Linux.Topology
