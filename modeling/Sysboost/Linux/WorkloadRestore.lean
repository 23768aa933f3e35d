import Sysboost.Interaction.Marks
import Sysboost.Linux.WorkloadSysfs
import Sysboost.Planner.Rendering
import Sysboost.Results.Loops

/-!
# Restoring what a cgroup node showed

A snapshot keeps the value that a node shows, and a restore renders it anew.
The rendered text must fit the bound of a write and be read as the same value.
It always is read so; a list of CPUs need not fit, because the kernel shows
ranges and the rendering names each CPU.
-/

namespace Sysboost.Linux.Workload

open Sysboost.Core Sysboost.Planner ByteCodec Interaction Results
open Storage (IoErrorKind)

/-- The group and the node of a cgroup operation. -/
def nodeOf : MutationKind → Option (CgroupId × WorkloadNode)
  | .cgroupCpuWeight cgroup _ => some (cgroup, .cpuWeight)
  | .cgroupCpuMax cgroup _ _ => some (cgroup, .cpuMax)
  | .cgroupCpuset cgroup _ => some (cgroup, .cpusetCpus)
  | .cgroupIoWeight cgroup _ => some (cgroup, .ioWeight)
  | .cgroupUclampMin cgroup _ => some (cgroup, .uclampMin)
  | .cgroupUclampMax cgroup _ => some (cgroup, .uclampMax)
  | _ => none

/-- The text that `write_mutation` renders for a value of a node. -/
def nodeText : WorkloadNode → TypedValue → Option String
  | .cpuWeight, .cgroupCpuWeight value => some (toString value.get)
  | .cpuMax, .cgroupCpuMax quota period => some (renderQuota quota ++ " " ++ toString period.get)
  | .cpusetCpus, .cgroupCpuset value => some (renderCpus value)
  | .ioWeight, .cgroupIoWeight value => some ("default " ++ toString value.get)
  | .uclampMin, .cgroupUclamp value => some (renderUclamp value)
  | .uclampMax, .cgroupUclamp value => some (renderUclamp value)
  | _, _ => none

section Node

variable {mutation : MutationKind} {cgroup : CgroupId} {node : WorkloadNode}
  (operates : nodeOf mutation = some (cgroup, node))

include operates

theorem readMutation_eq : readMutation mutation = readCgroupNode cgroup node := by
  unfold nodeOf at operates
  split at operates
  all_goals cases operates
  all_goals rfl

/-- A restore writes the rendered text to the node. -/
theorem writeMutation_eq {value : TypedValue} {text : String}
    (rendered : nodeText node value = some text) (sysfs : WorkloadSysfs) :
    sysfs.writeMutation mutation value = writeCgroupNode cgroup node text := by
  unfold nodeOf at operates
  split at operates
  all_goals cases operates
  all_goals cases value
  all_goals cases rendered
  all_goals rfl

end Node

/-! ## What a node can show -/

/-- The values that the parser of a node yields. -/
def Shown : WorkloadNode → TypedValue → Prop
  | .cpuWeight, .cgroupCpuWeight _ => True
  | .cpuMax, .cgroupCpuMax quota _ => quota.checked = true
  | .cpusetCpus, .cgroupCpuset cpus => cpus.asSlice.length ≤ 4096
  | .ioWeight, .cgroupIoWeight _ => True
  | .uclampMin, .cgroupUclamp clamp => clamp.checked = true
  | .uclampMax, .cgroupUclamp clamp => clamp.checked = true
  | _, _ => False

theorem checked_of_parseUclamp {raw : Bytes} {clamp : UclampValue}
    (parsed : parseUclamp raw = .ok clamp) : clamp.checked = true := by
  simp only [parseUclamp, bind_eq_ok_iff] at parsed
  obtain ⟨text, -, parsed⟩ := parsed
  split at parsed
  · cases parsed
    rfl
  · obtain ⟨level, -, parsed⟩ := bind_eq_ok_iff.mp parsed
    exact (UclampValue.eq_of_new parsed).2

theorem checked_of_parseQuota {text : String} {quota : CpuQuota}
    (parsed : parseQuota text = .ok quota) : quota.checked = true := by
  unfold parseQuota at parsed
  split at parsed
  · cases parsed
    rfl
  · obtain ⟨micros, -, parsed⟩ := bind_eq_ok_iff.mp parsed
    exact (CpuQuota.eq_of_newMicros parsed).2

theorem shown_of_parseCpuMax {text : String} {value : TypedValue}
    (parsed : parseCpuMax text = .ok value) : Shown .cpuMax value := by
  unfold parseCpuMax at parsed
  split at parsed
  · cases parsed
  · obtain ⟨quota, checked, parsed⟩ := bind_eq_ok_iff.mp parsed
    dsimp only at parsed
    split at parsed
    · cases parsed
    · simp only [bind_eq_ok_iff, guard_eq_ok_iff] at parsed
      obtain ⟨_, _, _, _, _, same⟩ := parsed
      cases same
      exact checked_of_parseQuota checked

theorem length_le_of_parseCpuset {text : String} {cpus : CpuSet}
    (parsed : parseCpuset text = .ok cpus) : cpus.asSlice.length ≤ 4096 := by
  obtain ⟨listed, parsed, made⟩ := bind_eq_ok_iff.mp parsed
  have bounded : listed.length ≤ 4096 := by
    apply foldlM_eq_ok (p := fun cpus _ => cpus.length ≤ 4096) parsed
    · simp
    · intro cpus front part rest after _ _ step
      simp only [bind_eq_ok_iff, guard_eq_ok_iff] at step
      obtain ⟨more, -, bounded, same⟩ := step
      cases same
      omega
  have shorter : cpus.asSlice.length ≤ listed.length := by
    cases result : CpuSet.new listed with
    | error error =>
        rw [result] at made
        cases made
    | ok set =>
        rw [result] at made
        cases made
        exact CpuSet.length_le_of_new result
  omega

/-- Every line that is read leaves a weight. -/
theorem shown_of_parseIoWeight {text : String} {value : TypedValue}
    (parsed : parseIoWeight text = .ok value) : Shown .ioWeight value := by
  obtain ⟨weight, -, parsed⟩ := bind_eq_ok_iff.mp parsed
  cases weight with
  | none => cases parsed
  | some weight =>
      cases parsed
      trivial

/-- What a node shows has the shape of its values. -/
theorem shown_of_parse {node : WorkloadNode} {raw : Bytes} {value : TypedValue}
    (parsed : parseWorkloadNode node raw = .ok value) : Shown node value := by
  obtain ⟨text, -, typed⟩ := bind_eq_ok_iff.mp parsed
  cases node with
  | cpuWeight =>
      simp only [bind_eq_ok_iff] at typed
      obtain ⟨_, -, _, -, same⟩ := typed
      cases same
      trivial
  | cpuMax => exact shown_of_parseCpuMax typed
  | cpusetCpus =>
      simp only [bind_eq_ok_iff] at typed
      obtain ⟨cpus, listed, same⟩ := typed
      cases same
      exact length_le_of_parseCpuset listed
  | ioWeight => exact shown_of_parseIoWeight typed
  | uclampMin =>
      simp only [bind_eq_ok_iff] at typed
      obtain ⟨clamp, clamped, same⟩ := typed
      cases same
      exact checked_of_parseUclamp clamped
  | uclampMax =>
      simp only [bind_eq_ok_iff] at typed
      obtain ⟨clamp, clamped, same⟩ := typed
      cases same
      exact checked_of_parseUclamp clamped

/-- The value of a cgroup operation that a read returns is one that its node can show. -/
theorem shown_of_readMutation {mutation : MutationKind} {cgroup : CgroupId} {node : WorkloadNode}
    (operates : nodeOf mutation = some (cgroup, node)) {observation : WorkloadObservation}
    {trace : List (Exchange Answer)}
    (run : Traces (readMutation mutation).run trace (.ok observation)) :
    Shown node observation.typed := by
  rw [readMutation_eq operates] at run
  obtain ⟨_, _, _, -, -, run⟩ := run.of_bind_ok
  obtain ⟨_, ⟨typed, raw⟩, _, -, read, run⟩ := run.of_bind_ok
  obtain ⟨-, observed⟩ := traces_check_iff.mp run
  obtain ⟨_, -, same⟩ := bind_eq_ok_iff.mp observed.symm
  cases same
  obtain ⟨_, _, _, -, -, read⟩ := read.of_bind_ok
  obtain ⟨_, bytes, _, -, -, read⟩ := read.of_bind_ok
  obtain ⟨_, value, _, -, parsed, returned⟩ := read.of_bind_ok
  cases returned
  exact shown_of_parse (traces_check_iff.mp parsed).2.symm

/-! ## Reading the rendered text -/

theorem utf8Text_utf8 (message text : String) : utf8Text message (utf8 text) = .ok text := by
  have decoded : fromUtf8 (utf8 text) = some text := fromUtf8_toUtf8 text
  rw [utf8Text, decoded]

theorem number_toString {bound value : Nat} (message : String) (fits : value < bound) :
    number bound message (toString value) = .ok value := by
  rw [number, parseNumber_toString fits]

theorem parseUclamp_render {clamp : UclampValue} (checked : clamp.checked = true) :
    parseUclamp (utf8 (renderUclamp clamp)) = .ok clamp := by
  cases clamp with
  | max =>
      have trimmed : trim "max" = "max" := by decide
      simp only [parseUclamp, utf8Text_utf8, renderUclamp, trimmed, bind, Except.bind, if_true]
      rfl
  | value level =>
      have trimmed : trim (toString level) = toString level := trim_of_solid (solid_toString _)
      have other : toString level ≠ "max" :=
        toString_ne_of_mem (by decide : 'm' ∈ "max".toList) (by decide) level.toNat
      have read : number (2 ^ 16) "uclamp value is malformed" (toString level) = .ok level.toNat :=
        number_toString _ level.toNat_lt
      simp only [parseUclamp, utf8Text_utf8, renderUclamp, trimmed, bind, Except.bind,
        if_neg other, read, UInt16.ofNat_toNat, UclampValue.new_of_checked checked]

theorem parseQuota_render {quota : CpuQuota} (checked : quota.checked = true) :
    parseQuota (renderQuota quota) = .ok quota := by
  cases quota with
  | max => rfl
  | micros value =>
      have other : toString value ≠ "max" :=
        toString_ne_of_mem (by decide : 'm' ∈ "max".toList) (by decide) value.toNat
      have read : number (2 ^ 64) "cpu.max quota is malformed" (toString value) =
          .ok value.toNat := number_toString _ value.toNat_lt
      simp only [parseQuota, renderQuota, if_neg other, bind, Except.bind, read,
        UInt64.ofNat_toNat, CpuQuota.newMicros_of_checked checked]

theorem solid_renderQuota (quota : CpuQuota) : Solid (renderQuota quota) := by
  cases quota with
  | max => exact (by decide : Solid "max")
  | micros value => exact solid_toString _

theorem renderQuota_ne_empty (quota : CpuQuota) : renderQuota quota ≠ "" := by
  cases quota with
  | max => decide
  | micros value => exact toString_ne_empty _

theorem parseCpuMax_render {quota : CpuQuota} (checked : quota.checked = true)
    (period : CpuPeriod) :
    parseCpuMax (renderQuota quota ++ " " ++ toString period.get) =
      .ok (.cgroupCpuMax quota period) := by
  have words : splitWhitespace (renderQuota quota ++ " " ++ toString period.get) =
      [renderQuota quota, toString period.get] :=
    splitWhitespace_pair (solid_renderQuota quota) (solid_toString _)
      (renderQuota_ne_empty quota) (toString_ne_empty _)
  have read : number (2 ^ 64) "cpu.max period is malformed" (toString period.get) =
      .ok period.get.toNat := number_toString _ period.get.toNat_lt
  have made : CpuPeriod.new period.get = .ok period := Bounded.new_get _ _
  simp only [parseCpuMax, words, parseQuota_render checked, bind, Except.bind, read,
    UInt64.ofNat_toNat, made]
  rfl

theorem parseIoWeight_render (weight : IoWeight) :
    parseIoWeight ("default " ++ toString weight.get) = .ok (.cgroupIoWeight weight) := by
  have whole : "default " ++ toString weight.get = "default" ++ " " ++ toString weight.get := rfl
  have words : splitWhitespace ("default " ++ toString weight.get) =
      ["default", toString weight.get] := by
    rw [whole]
    exact splitWhitespace_pair (by decide) (solid_toString _) (by decide) (toString_ne_empty _)
  have single : lines ("default " ++ toString weight.get) =
      ["default " ++ toString weight.get] := by
    apply lines_of_absent
    · intro ends
      rw [String.toList_append, List.mem_append] at ends
      rcases ends with ends | ends
      · exact absurd ends (by decide)
      · exact absurd (isDigit_of_mem_toString ends) (by decide)
    · simp
  have read : number (2 ^ 16) "io.weight is malformed" (toString weight.get) =
      .ok weight.get.toNat := number_toString _ weight.get.toNat_lt
  have made : IoWeight.new weight.get = .ok weight := Bounded.new_get _ _
  simp only [parseIoWeight, single, List.foldlM_cons, List.foldlM_nil, parseIoWeightLine, words,
    bind, Except.bind, read, UInt16.ofNat_toNat, made]
  rfl

theorem parseCpusetPart_toString (cpu : UInt32) :
    parseCpusetPart (toString cpu) = .ok [cpu] := by
  have filled : ¬(toString cpu).isEmpty = true := by
    intro empty
    exact toString_ne_empty cpu.toNat (String.isEmpty_iff.mp empty)
  have single : splitFirst '-' (toString cpu) = none := by
    have absent : '-' ∉ (toString cpu).toList :=
      fun member => absurd (isDigit_of_mem_toString member) (by decide)
    rw [splitFirst, if_neg (by simpa using absent)]
  have read : number (2 ^ 32) "cpuset CPU is malformed" (toString cpu) = .ok cpu.toNat :=
    number_toString _ cpu.toNat_lt
  simp only [parseCpusetPart, if_neg filled, single, read, bind, Except.bind, pure, Except.pure,
    UInt32.ofNat_toNat]

/-- A list of CPUs holds commas and digits. -/
theorem forall_mem_renderCpus {p : Char → Prop} {cpus : CpuSet} (comma : p ',')
    (digits : ∀ symbol, symbol.isDigit = true → p symbol) :
    ∀ symbol ∈ (renderCpus cpus).toList, p symbol := by
  apply forall_mem_intercalate
  · simpa using comma
  · intro text member symbol inside
    obtain ⟨cpu, -, rfl⟩ := List.mem_map.mp member
    have number : symbol ∈ (toString cpu.toNat).toList := inside
    exact digits symbol (isDigit_of_mem_toString number)

/-- Numbers between commas are read back in order. -/
theorem parseCpuset_render {cpus : CpuSet} (bounded : cpus.asSlice.length ≤ 4096) :
    parseCpuset (renderCpus cpus) = .ok cpus := by
  have solid : Solid (renderCpus cpus) := by
    apply forall_mem_renderCpus
    · decide
    · exact fun symbol digit => isWhitespace_of_isDigit digit
  have trimmed : trim (renderCpus cpus) = renderCpus cpus := trim_of_solid solid
  have parts : splitAll ',' (renderCpus cpus) = cpus.asSlice.map toString := by
    rw [splitAll, splitOn_renderCpus, List.map_map]
    simp [Function.comp_def]
  have fits : ([] : List UInt32).length + (cpus.asSlice.flatMap fun cpu => [cpu]).length ≤ 4096 := by
    simpa using bounded
  rw [parseCpuset, trimmed, parts, List.foldlM_map, foldlM_append _ fits]
  · simp only [bind, Except.bind, List.nil_append, List.flatMap_singleton', CpuSet.new_asSlice]
    rfl
  · intro listed cpu _ within
    rw [parseCpusetPart_toString]
    exact if_neg (by rwa [List.length_append, Nat.not_lt])

/-- What is rendered for a value that a node can show is read as the value. -/
theorem parse_nodeText {node : WorkloadNode} {value : TypedValue} (shown : Shown node value) :
    ∃ text, nodeText node value = some text ∧ parseWorkloadNode node (utf8 text) = .ok value := by
  unfold Shown at shown
  split at shown
  · rename_i weight
    have trimmed : trim (toString weight.get) = toString weight.get :=
      trim_of_solid (solid_toString _)
    have read : number (2 ^ 16) "cpu.weight is malformed" (toString weight.get) =
        .ok weight.get.toNat := number_toString _ weight.get.toNat_lt
    have made : CpuWeight.new weight.get = .ok weight := Bounded.new_get _ _
    refine ⟨_, rfl, ?_⟩
    simp only [parseWorkloadNode, utf8Text_utf8, trimmed, bind, Except.bind, read,
      UInt16.ofNat_toNat, made]
    rfl
  · refine ⟨_, rfl, ?_⟩
    simp only [parseWorkloadNode, utf8Text_utf8, bind, Except.bind, parseCpuMax_render shown]
  · refine ⟨_, rfl, ?_⟩
    simp only [parseWorkloadNode, utf8Text_utf8, bind, Except.bind, parseCpuset_render shown]
    rfl
  · refine ⟨_, rfl, ?_⟩
    simp only [parseWorkloadNode, utf8Text_utf8, bind, Except.bind, parseIoWeight_render]
  · refine ⟨_, rfl, ?_⟩
    simp only [parseWorkloadNode, utf8Text_utf8, bind, Except.bind, parseUclamp_render shown]
    rfl
  · refine ⟨_, rfl, ?_⟩
    simp only [parseWorkloadNode, utf8Text_utf8, bind, Except.bind, parseUclamp_render shown]
    rfl
  · exact shown.elim

/-- A node shows exactly the values of its shape. -/
theorem exists_parse_iff {node : WorkloadNode} {value : TypedValue} :
    (∃ raw, parseWorkloadNode node raw = .ok value) ↔ Shown node value := by
  constructor
  · rintro ⟨raw, parsed⟩
    exact shown_of_parse parsed
  · intro shown
    obtain ⟨text, -, parsed⟩ := parse_nodeText shown
    exact ⟨utf8 text, parsed⟩

/-! ## The bound of a write -/

/-- A write of a text can succeed exactly when the text is within its limits. -/
theorem exists_writeClosedFile_iff {path : Kernel.Path} {text message : String} :
    (∃ trace, Traces (writeClosedFile path text message).run trace (.ok ())) ↔
      text ≠ "" ∧ text.utf8ByteSize ≤ 128 ∧ 0 ∉ utf8 text := by
  have bound : (text.isEmpty || text.utf8ByteSize > 128 || (utf8 text).contains 0) = false ↔
      text ≠ "" ∧ text.utf8ByteSize ≤ 128 ∧ 0 ∉ utf8 text := by
    simp [and_assoc]
  rw [← bound]
  constructor
  · rintro ⟨trace, run⟩
    by_contra refused
    rw [Bool.not_eq_false] at refused
    simp only [writeClosedFile, refused, Early.refuseIf, if_true] at run
    cases run
  · intro accepted
    simp only [writeClosedFile, accepted, Early.refuseIf]
    -- The file is regular and writable, and every call on it succeeds.
    let regular : Kernel.Metadata := ⟨.file, 0, 0, false⟩
    have written := @Traces.call _ Answer _ (.kernel (.writeAll path (utf8 text)))
      (fun answer => .ret (answer.mapError (ioError message))) (.ok ()) _ _ (.ret _)
    exact ⟨_, @Traces.call _ Answer _ (.kernel (.symlinkMetadata path)) _ (.ok regular) _ _
      (@Traces.call _ Answer _ (.kernel (.openWrite path)) _ (.ok ()) _ _ written)⟩

/-- A text that can be written to any file. -/
def Writable (text : String) : Prop :=
  ∀ path message, ∃ trace, Traces (writeClosedFile path text message).run trace (.ok ())

theorem writable_iff {text : String} :
    Writable text ↔ text ≠ "" ∧ text.utf8ByteSize ≤ 128 ∧ 0 ∉ utf8 text := by
  constructor
  · exact fun writable => exists_writeClosedFile_iff.mp (writable [] "")
  · exact fun limits _ _ => exists_writeClosedFile_iff.mpr limits

/-- Only writable text is ever written to a node. -/
theorem writable_of_writeCgroupNode {cgroup : CgroupId} {node : WorkloadNode} {text : String}
    {trace : List (Exchange Answer)}
    (run : Traces (writeCgroupNode cgroup node text).run trace (.ok ())) : Writable text := by
  obtain ⟨_, _, _, -, -, run⟩ := run.of_bind_ok
  obtain ⟨_, _, rest, -, -, run⟩ := run.of_bind_ok
  exact writable_iff.mpr (exists_writeClosedFile_iff.mp ⟨rest, run⟩)

/-- Plain text is bounded by its length. -/
theorem writable_iff_of_plain {text : String} (plain : Plain text) (nonempty : text ≠ "") :
    Writable text ↔ text.length ≤ 128 := by
  have size : text.utf8ByteSize = text.length := plain.toUtf8_length
  have clean : 0 ∉ utf8 text := plain.zero_notMem
  rw [writable_iff, size]
  exact ⟨fun limits => limits.2.1, fun bounded => ⟨nonempty, bounded, clean⟩⟩

/-! ## Restoring -/

/-- The number of characters of a list of CPUs: their digits, and a comma between neighbours. -/
def listLength (cpus : CpuSet) : Nat :=
  (cpus.asSlice.map fun cpu => (Nat.toDigits 10 cpu.toNat).length).sum + (cpus.asSlice.length - 1)

theorem length_renderCpus (cpus : CpuSet) : (renderCpus cpus).length = listLength cpus := by
  have digits (cpu : UInt32) : (toString cpu).length = (Nat.toDigits 10 cpu.toNat).length := by
    have symbols : (toString cpu.toNat).toList = Nat.toDigits 10 cpu.toNat := by simp
    rw [← symbols, String.length_toList]
    rfl
  have single : ",".length = 1 := by decide
  rw [renderCpus, length_intercalate, single, Nat.one_mul, List.length_map, List.map_map,
    listLength]
  simp only [Function.comp_def, digits]

theorem length_toString_le {value digits : Nat} (positive : 0 < digits)
    (below : value < 10 ^ digits) : (toString value).length ≤ digits := by
  have symbols : (toString value).toList = Nat.toDigits 10 value := by simp
  rw [← String.length_toList, symbols]
  exact (Nat.length_toDigits_le_iff (by decide) positive).mpr below

theorem length_toString_uInt16 (value : UInt16) : (toString value).length ≤ 5 := by
  have below := value.toNat_lt
  exact length_toString_le (by decide) (by omega : value.toNat < 10 ^ 5)

theorem length_toString_uInt64 (value : UInt64) : (toString value).length ≤ 20 := by
  have below := value.toNat_lt
  exact length_toString_le (by decide) (by omega : value.toNat < 10 ^ 20)

theorem plain_renderQuota (quota : CpuQuota) : Plain (renderQuota quota) := by
  cases quota with
  | max => exact (by decide : Plain "max")
  | micros value => exact plain_toString value.toNat

theorem length_renderQuota (quota : CpuQuota) : (renderQuota quota).length ≤ 20 := by
  cases quota with
  | max => exact (by decide : "max".length ≤ 20)
  | micros value => exact length_toString_uInt64 value

theorem writable_renderUclamp (clamp : UclampValue) : Writable (renderUclamp clamp) := by
  cases clamp with
  | max =>
      apply (writable_iff_of_plain (by decide : Plain "max") (by decide)).mpr
      decide
  | value level =>
      apply (writable_iff_of_plain (plain_toString level.toNat) (toString_ne_empty _)).mpr
      have short := length_toString_uInt16 level
      change (toString level).length ≤ 128
      omega

/-- A list of CPUs can be written when it is short enough. -/
theorem writable_renderCpus_iff {cpus : CpuSet} :
    Writable (renderCpus cpus) ↔ listLength cpus ≤ 128 := by
  have plain : Plain (renderCpus cpus) := by
    apply forall_mem_renderCpus
    · decide
    · intro symbol digit
      have range := (toNat_toUInt8_of_isDigit digit).2
      omega
  have nonempty : renderCpus cpus ≠ "" := by
    intro empty
    have member : [] ∈ cpus.asSlice.map fun cpu => (toString cpu).toList := by
      rw [← splitOn_renderCpus, empty]
      decide
    obtain ⟨cpu, -, digits⟩ := List.mem_map.mp member
    exact toString_ne_empty cpu.toNat (String.toList_eq_nil_iff.mp digits)
  rw [writable_iff_of_plain plain nonempty, length_renderCpus]

/-- Every other value of a node can be written. -/
theorem writable_nodeText_iff {node : WorkloadNode} {value : TypedValue} {text : String}
    (rendered : nodeText node value = some text) :
    Writable text ↔ ∀ cpus, value = .cgroupCpuset cpus → listLength cpus ≤ 128 := by
  unfold nodeText at rendered
  split at rendered
  · cases rendered
    rename_i weight
    apply iff_of_true
    · apply (writable_iff_of_plain (plain_toString weight.get.toNat) (toString_ne_empty _)).mpr
      have short := length_toString_uInt16 weight.get
      change (toString weight.get).length ≤ 128
      omega
    · rintro cpus ⟨⟩
  · cases rendered
    rename_i quota period
    apply iff_of_true
    · have plain : Plain (renderQuota quota ++ " " ++ toString period.get) :=
        ((plain_renderQuota quota).append (by decide : Plain " ")).append (plain_toString _)
      apply (writable_iff_of_plain plain (by simp)).mpr
      have short := length_renderQuota quota
      have short' := length_toString_uInt64 period.get
      have single : " ".length = 1 := by decide
      rw [String.length_append, String.length_append]
      omega
    · rintro cpus ⟨⟩
  · cases rendered
    simp [writable_renderCpus_iff]
  · cases rendered
    rename_i weight
    apply iff_of_true
    · have plain : Plain ("default " ++ toString weight.get) :=
        (by decide : Plain "default ").append (plain_toString _)
      apply (writable_iff_of_plain plain (by simp)).mpr
      have short := length_toString_uInt16 weight.get
      have front : "default ".length = 8 := by decide
      rw [String.length_append]
      omega
    · rintro cpus ⟨⟩
  · cases rendered
    exact iff_of_true (writable_renderUclamp _) (by rintro cpus ⟨⟩)
  · cases rendered
    exact iff_of_true (writable_renderUclamp _) (by rintro cpus ⟨⟩)
  · cases rendered

/-- The value of a node is written back as a text that the write accepts and that is read as
the value. -/
def Restorable (node : WorkloadNode) (value : TypedValue) : Prop :=
  ∃ text, nodeText node value = some text ∧ Writable text ∧
    parseWorkloadNode node (utf8 text) = .ok value

theorem restorable_iff {node : WorkloadNode} {raw : Bytes} {value : TypedValue}
    (parsed : parseWorkloadNode node raw = .ok value) :
    Restorable node value ↔ ∀ cpus, value = .cgroupCpuset cpus → listLength cpus ≤ 128 := by
  obtain ⟨text, rendered, read⟩ := parse_nodeText (shown_of_parse parsed)
  rw [← writable_nodeText_iff rendered]
  constructor
  · rintro ⟨other, same, writable, -⟩
    cases rendered.symm.trans same
    exact writable
  · exact fun writable => ⟨text, rendered, writable, read⟩

/-- A short list is restored. -/
theorem restorable_iff_short :
    ∃ value, parseWorkloadNode .cpusetCpus (utf8 "0-1,3\n") = .ok value ∧
      Restorable .cpusetCpus value := by
  let short : CpuSet := ⟨[0, 1, 3], by decide, by decide⟩
  obtain ⟨value, parsed, same⟩ := exists_ok_of_any (by decide +kernel :
    ((parseWorkloadNode .cpusetCpus (utf8 "0-1,3\n")).toOption.any
      (· = .cgroupCpuset short)) = true)
  have fits : ∀ cpus, value = .cgroupCpuset cpus → listLength cpus ≤ 128 := by
    rintro cpus rfl
    cases of_decide_eq_true same
    decide
  exact ⟨value, parsed, (restorable_iff parsed).mpr fits⟩

/-- The first 64 CPUs are read as a range, and no run writes their list. -/
theorem cpuset_lost :
    ∃ value, parseWorkloadNode .cpusetCpus (utf8 "0-63\n") = .ok value ∧
      ¬Restorable .cpusetCpus value ∧
      ∀ (sysfs : WorkloadSysfs) (mutation : MutationKind) (cgroup : CgroupId) (trace),
        nodeOf mutation = some (cgroup, .cpusetCpus) →
        ¬Traces (sysfs.writeMutation mutation value).run trace (.ok ()) := by
  obtain ⟨value, parsed, long⟩ := exists_ok_of_any (by decide +kernel :
    ((parseWorkloadNode .cpusetCpus (utf8 "0-63\n")).toOption.any fun value =>
      (nodeText .cpusetCpus value).any fun text => 128 < text.utf8ByteSize) = true)
  obtain ⟨text, rendered, exceeds⟩ := (Option.any_eq_true _ _).mp long
  have refused : ¬Writable text := by
    intro writable
    have bounded := (writable_iff.mp writable).2.1
    have exceeds := of_decide_eq_true exceeds
    omega
  refine ⟨value, parsed, ?_, ?_⟩
  · rintro ⟨other, same, writable, -⟩
    cases rendered.symm.trans same
    exact refused writable
  · intro sysfs mutation cgroup trace operates run
    rw [writeMutation_eq operates rendered] at run
    exact refused (writable_of_writeCgroupNode run)

end Sysboost.Linux.Workload
