import Sysboost.Planner.Legible

/-!
# Values are told apart by their texts

A fingerprint is computed from the text of a value.  Values of one kind with one
text are equal, except for two placements into different groups with the same
handle: the text of a placement shows nothing else of its group.
-/

namespace Sysboost.Planner

open Sysboost.Core ByteCodec

/-! ## Texts of parts -/

theorem utf8_injective : Function.Injective utf8 := by
  intro first second same
  apply String.toByteArray_inj.mp
  exact ByteArray.ext (Array.toList_inj.mp same)

theorem renderEnergy_injective : Function.Injective renderEnergy := by
  intro first second same
  cases first <;> cases second <;> first | rfl | exact absurd same (by decide)

theorem renderGpuProfile_injective : Function.Injective renderGpuProfile := by
  intro first second same
  cases first <;> cases second <;> first | rfl | exact absurd same (by decide)

theorem debugIoClass_injective : Function.Injective debugIoClass := by
  intro first second same
  cases first <;> cases second <;> first | rfl | exact absurd same (by decide)

theorem debugGroupKind_injective : Function.Injective debugGroupKind := by
  intro first second same
  cases first <;> cases second <;> first | rfl | exact absurd same (by decide)

theorem toString_bool_injective : Function.Injective (toString : Bool → String) := by
  intro first second same
  cases first <;> cases second <;> first | rfl | exact absurd same (by decide)

/-- A number, or a word that is no number. -/
theorem legible_elim {word : String} (closes : ∀ symbol ∈ word.toList, ¬Closing symbol)
    (letter : word.toList.all Char.isDigit = false) :
    Legible fun number : Option Nat => number.elim word toString := by
  obtain ⟨symbol, inside, other⟩ := List.all_eq_false.mp letter
  have apart (number : Nat) : word ≠ toString number := by
    rintro rfl
    exact other (isDigit_of_mem_repr inside)
  refine .word (fun number symbol member => ?_) fun first second same => ?_
  · cases number with
    | none => exact closes symbol member
    | some number => exact not_closing_of_isDigit (isDigit_of_mem_repr member)
  · cases first with
    | none =>
        cases second with
        | none => rfl
        | some number => exact absurd same (apart number)
    | some number =>
        cases second with
        | none => exact absurd same.symm (apart number)
        | some other => exact congrArg some (repr_injective same)

theorem legible_renderFrequency : Legible renderFrequency := by
  have number : Function.Injective fun value : Option FrequencyKHz =>
      value.map fun value => value.get.toNat :=
    Option.map_injective fun _ _ same => get_injective (UInt64.toNat_inj.mp same)
  have word : ∀ symbol ∈ "preserve".toList, ¬Closing symbol := forall_mem_of_all (by decide)
  refine ((legible_elim word (by decide)).view number).congr ?_
  intro value
  cases value <;> rfl

/-- The finite part of a quota. -/
def quotaNumber : CpuQuota → Option Nat
  | .max => none
  | .micros value => some value.toNat

theorem legible_renderQuota :
    Legible fun quota : CpuQuota => (quotaNumber quota).elim "max" toString := by
  have number : Function.Injective quotaNumber := by
    rintro (_ | _) (_ | _) same
    all_goals simp_all [quotaNumber, UInt64.toNat_inj]
  exact (legible_elim (forall_mem_of_all (by decide)) (by decide)).view number

/-- The value of a clamp that is no sentinel. -/
def clampNumber : UclampValue → Option Nat
  | .value clamp => some clamp.toNat
  | .max => none

theorem renderUclamp_injective : Function.Injective fun clamp =>
    renderValue (.typed (.cgroupUclamp clamp)) := by
  have number : Function.Injective clampNumber := by
    rintro (_ | _) (_ | _) same
    all_goals simp_all [clampNumber, UInt16.toNat_inj]
  have legible : Legible fun clamp => renderValue (.typed (.cgroupUclamp clamp)) := by
    have word : ∀ symbol ∈ "max".toList, ¬Closing symbol := forall_mem_of_all (by decide)
    refine ((legible_elim word (by decide)).view number).congr ?_
    intro clamp
    cases clamp <;> rfl
  exact legible.injective

theorem toList_renderCpus (cpus : CpuSet) : (renderCpus cpus).toList =
    [','].intercalate (cpus.asSlice.map fun cpu => (toString cpu).toList) := by
  simp [renderCpus, String.toList_intercalate, Function.comp_def]

/-- Numbers between commas. -/
theorem splitOn_renderCpus (cpus : CpuSet) : (renderCpus cpus).toList.splitOn ',' =
    cpus.asSlice.map fun cpu => (toString cpu).toList := by
  rw [toList_renderCpus, List.splitOn_intercalate]
  · intro piece member
    obtain ⟨cpu, -, rfl⟩ := List.mem_map.mp member
    exact fun comma => absurd (isDigit_of_mem_repr comma) (by decide)
  · simpa using cpus.nonempty

theorem renderCpus_injective : Function.Injective renderCpus := by
  intro first second same
  have slices := splitOn_renderCpus first
  rw [same, splitOn_renderCpus second] at slices
  have numbers := List.map_injective_iff.mpr (fun _ _ same =>
    legible_u32.injective (String.toList_inj.mp same)) slices.symm
  cases first
  cases second
  cases numbers
  rfl

/-! ## Values -/

/-- The name of a group holds no symbol that has a byte which no name has. -/
theorem not_mem_cgroupName (name : CgroupName) {symbol : Char} {byte : UInt8}
    (inside : byte ∈ String.utf8EncodeChar symbol)
    (refused : (isAsciiAlphanumeric byte || (utf8 "._-").contains byte) = false) :
    symbol ∉ name.get.toList := by
  intro member
  have valid := name.valid
  simp only [CgroupName.accepts, boundedName, Bool.and_eq_true] at valid
  rw [List.all_eq_true.mp valid.1.1.2 byte (mem_utf8 member inside)] at refused
  cases refused

theorem renderLifecycle_injective {kind kind' : CgroupGroupKind} {name name' : CgroupName}
    {present present' : Bool}
    (same : renderValue (.typed (.cgroupLifecycle kind name present)) =
      renderValue (.typed (.cgroupLifecycle kind' name' present'))) :
    kind = kind' ∧ name = name' ∧ present = present' := by
  have pieces (kind : CgroupGroupKind) (name : CgroupName) (present : Bool) :
      (renderValue (.typed (.cgroupLifecycle kind name present))).toList.splitOn ':' =
        [(debugGroupKind kind).toList, name.get.toList, (toString present).toList] := by
    have symbols : (renderValue (.typed (.cgroupLifecycle kind name present))).toList =
        (debugGroupKind kind).toList ++ ':' :: (name.get.toList ++ ':' ::
          (toString present).toList) := by
      simp [renderValue]
    rw [symbols, List.splitOn_append_cons_self_of_not_mem (by cases kind <;> decide),
      List.splitOn_append_cons_self_of_not_mem
        (not_mem_cgroupName name (by decide : 58 ∈ String.utf8EncodeChar ':') (by decide)),
      List.splitOn_eq_singleton (by cases present <;> decide)]
  have parts := pieces kind name present
  rw [same, pieces kind' name' present'] at parts
  simp only [List.cons.injEq, String.toList_inj] at parts
  obtain ⟨kinds, names, presents, -⟩ := parts
  exact ⟨debugGroupKind_injective kinds.symm, get_injective names.symm,
    toString_bool_injective presents.symm⟩

theorem renderPriority_injective {priority other : IoPriority}
    (same : renderValue (.typed (.ioPriority priority)) =
      renderValue (.typed (.ioPriority other))) : priority = other := by
  have pieces (priority : IoPriority) :
      (renderValue (.typed (.ioPriority priority))).toList.splitOn ':' =
        [(debugIoClass priority.class_).toList, (toString priority.level).toList] := by
    have symbols : (renderValue (.typed (.ioPriority priority))).toList =
        (debugIoClass priority.class_).toList ++ ':' :: (toString priority.level).toList := by
      simp [renderValue]
    have digits : ':' ∉ (toString priority.level).toList :=
      fun colon => absurd (isDigit_of_mem_repr colon) (by decide)
    rw [symbols, List.splitOn_append_cons_self_of_not_mem (by cases priority.class_ <;> decide),
      List.splitOn_eq_singleton digits]
  have parts := pieces priority
  rw [same, pieces other] at parts
  simp only [List.cons.injEq, String.toList_inj] at parts
  obtain ⟨classes, levels, -⟩ := parts
  have level := UInt8.toNat_inj.mp (repr_injective levels.symm)
  have class_ := debugIoClass_injective classes.symm
  cases priority
  cases other
  cases level
  cases class_
  rfl

theorem renderMax_injective {quota quota' : CpuQuota} {period period' : CpuPeriod}
    (same : renderValue (.typed (.cgroupCpuMax quota period)) =
      renderValue (.typed (.cgroupCpuMax quota' period'))) : quota = quota' ∧ period = period' := by
  have text (quota : CpuQuota) (period : CpuPeriod) :
      renderValue (.typed (.cgroupCpuMax quota period)) =
        (quotaNumber quota).elim "max" toString ++ " / " ++ toString period.get ++ " us" := by
    cases quota <;> rfl
  have pair : Delimited Closing fun bounds : CpuQuota × CpuPeriod =>
      ((quotaNumber bounds.1).elim "max" toString).toList ++ ' ' :: "/ ".toList ++
        ((toString bounds.2.get).toList ++ " us".toList) :=
    .pair (by decide) legible_renderQuota
      (.closed (by decide) (legible_u64.view get_injective))
  rw [text, text] at same
  have symbols := congrArg String.toList same
  have bounds : (quota, period) = (quota', period') := by
    apply pair.injective
    have blank : " / ".toList = ' ' :: "/ ".toList := by decide
    simpa only [String.toList_append, List.append_assoc, List.cons_append, blank] using symbols
  cases bounds
  exact ⟨rfl, rfl⟩

/-- Two placements into groups with one handle are placements into one group. -/
def Separated : TypedValue → TypedValue → Prop
  | .processPlacement first, .processPlacement second =>
      first.handle = second.handle →
        first.mountId = second.mountId ∧ first.inode = second.inode
  | _, _ => True

/-- Values of one kind with one text are equal, if they are separated. -/
theorem renderValue_injective {first second : TypedValue} (kind : first.ctorIdx = second.ctorIdx)
    (separated : Separated first second)
    (same : renderValue (.typed first) = renderValue (.typed second)) : first = second := by
  cases first <;> cases second <;> first
    | (simp only [TypedValue.ctorIdx] at kind; exact absurd kind (by decide))
    | skip
  case cpuFrequency.cpuFrequency min max min' max' =>
    have pair : Delimited Closing fun ends : Option FrequencyKHz × Option FrequencyKHz =>
        (renderFrequency ends.1).toList ++ ' ' :: "kHz max=".toList ++
          ((renderFrequency ends.2).toList ++ " kHz".toList) :=
      .pair (by decide) legible_renderFrequency (.closed (by decide) legible_renderFrequency)
    have symbols := congrArg String.toList same
    simp only [renderValue, String.toList_append] at symbols
    have ends : (min, max) = (min', max') := by
      apply pair.injective
      have behind := List.append_cancel_left (by simpa using symbols : "min=".toList ++ _ = _)
      simpa using behind
    cases ends
    rfl
  case governor.governor governor governor' =>
    rw [get_injective same]
  case energyPreference.energyPreference value value' =>
    rw [renderEnergy_injective same]
  case cpuBoost.cpuBoost state state' =>
    cases state <;> cases state' <;> first | rfl | exact absurd same (by decide)
  case platformProfile.platformProfile profile profile' =>
    rw [get_injective same]
  case cgroupCpuset.cgroupCpuset cpus cpus' =>
    rw [renderCpus_injective same]
  case cgroupCpuWeight.cgroupCpuWeight weight weight' =>
    rw [get_injective (legible_u16.injective same)]
  case cgroupCpuMax.cgroupCpuMax quota period quota' period' =>
    obtain ⟨rfl, rfl⟩ := renderMax_injective same
    rfl
  case cgroupIoWeight.cgroupIoWeight weight weight' =>
    rw [get_injective (legible_u16.injective same)]
  case cgroupUclamp.cgroupUclamp clamp clamp' =>
    rw [renderUclamp_injective same]
  case cgroupLifecycle.cgroupLifecycle kind name present kind' name' present' =>
    obtain ⟨rfl, rfl, rfl⟩ := renderLifecycle_injective same
    rfl
  case processPlacement.processPlacement cgroup cgroup' =>
    -- The text decides the handle, and the handle the rest.
    have symbols := congrArg String.toList same
    simp only [renderValue, String.toList_append] at symbols
    have handles := TextId.asStr_injective (String.toList_inj.mp (List.append_cancel_left symbols))
    obtain ⟨mounts, inodes⟩ := separated handles
    cases cgroup
    cases cgroup'
    cases handles
    cases mounts
    cases inodes
    rfl
  case nice.nice value value' =>
    have numbers := Int8.toInt_inj.mp (legible_int.injective same)
    rw [get_injective numbers]
  case ioPriority.ioPriority priority priority' =>
    rw [renderPriority_injective same]
  case gpuPerformanceProfile.gpuPerformanceProfile profile profile' =>
    rw [renderGpuProfile_injective same]
  case gpuPowerLimit.gpuPowerLimit limit limit' =>
    have closed : Delimited Closing fun limit : PowerMilliwatts =>
        (toString limit.get).toList ++ " mW".toList :=
      .closed (by decide) (legible_u32.view get_injective)
    have symbols := congrArg String.toList same
    simp only [renderValue, String.toList_append] at symbols
    rw [closed.injective symbols]
  case irqAffinity.irqAffinity cpus cpus' =>
    rw [renderCpus_injective same]
  case runtimeSysctl.runtimeSysctl key value key' value' =>
    cases key
    cases key'
    have symbols := congrArg String.toList same
    simp only [renderValue, String.toList_append] at symbols
    have numbers := legible_int.injective (String.toList_inj.mp (List.append_cancel_left symbols))
    cases value
    cases value'
    cases Int64.toInt_inj.mp numbers
    rfl

/-- The bytes a fingerprint is computed from tell values of one kind apart exactly
where they are separated. -/
theorem utf8_renderValue_eq_iff {first second : TypedValue}
    (kind : first.ctorIdx = second.ctorIdx) :
    (utf8 (renderValue (.typed first)) = utf8 (renderValue (.typed second)) ↔ first = second) ↔
      Separated first second := by
  constructor
  · intro exact_
    cases first <;> cases second <;> try trivial
    case processPlacement.processPlacement cgroup cgroup' =>
      intro handles
      have same : renderValue (.typed (.processPlacement cgroup)) =
          renderValue (.typed (.processPlacement cgroup')) := by
        simp only [renderValue, handles]
      cases exact_.mp (congrArg utf8 same)
      exact ⟨rfl, rfl⟩
  · intro separated
    constructor
    · intro same
      exact renderValue_injective kind separated (utf8_injective same)
    · rintro rfl
      rfl

/-- A placement into the group behind one handle, as it was made again. -/
def regrouped (inode : UInt64) : TypedValue :=
  .processPlacement { mountId := 29, inode, handle := ⟨"workload.app", by decide⟩ }

theorem utf8_renderValue_eq_iff_regrouped :
    (utf8 (renderValue (.typed (regrouped 7))) = utf8 (renderValue (.typed (regrouped 7))) ↔
      regrouped 7 = regrouped 7) ↔ Separated (regrouped 7) (regrouped 7) :=
  utf8_renderValue_eq_iff rfl

/-- Two groups that had one handle in turn have one fingerprint. -/
theorem utf8_renderValue_regrouped :
    (regrouped 7).ctorIdx = (regrouped 8).ctorIdx ∧ regrouped 7 ≠ regrouped 8 ∧
      utf8 (renderValue (.typed (regrouped 7))) = utf8 (renderValue (.typed (regrouped 8))) := by
  constructor
  · rfl
  · constructor
    · decide
    · rfl

end Sysboost.Planner
