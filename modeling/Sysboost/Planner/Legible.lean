import Sysboost.ByteCodec.Delimited
import Sysboost.ByteCodec.Text
import Sysboost.Planner.Digest

/-!
# Operations are told apart by their texts

Names, numbers and quoted texts in a derived text end where a blank, a comma, a
bracket or a quote begins, so a derived text determines the value.
-/

namespace Sysboost.Planner

open Sysboost.Core ByteCodec

universe u

variable {α β γ : Type u}

/-- What ends a name, a number or a quoted text. -/
def Closing (symbol : Char) : Prop :=
  symbol ∈ [' ', ',', ')', ']', '"']

instance (symbol : Char) : Decidable (Closing symbol) :=
  inferInstanceAs (Decidable (symbol ∈ _))

/-- A text that determines the value wherever it is closed. -/
def Legible (text : α → String) : Prop :=
  Delimited Closing fun value => (text value).toList

namespace Legible

variable {text : α → String} {text' : β → String} {text'' : γ → String}

theorem injective (legible : Legible text) : Function.Injective text := by
  intro first second same
  exact Delimited.injective legible (congrArg String.toList same)

theorem word (run : ∀ value, ∀ symbol ∈ (text value).toList, ¬Closing symbol)
    (injective : Function.Injective text) : Legible text :=
  .of_run run fun _ _ same => injective (String.toList_inj.mp same)

theorem view (legible : Legible text) {read : β → α} (injective : Function.Injective read) :
    Legible fun value => text (read value) :=
  Delimited.comap legible injective

theorem tuple (legible : Legible text) (name : String) :
    Legible fun value => debugTuple name (text value) := by
  have closed : Delimited Closing fun value =>
      name.toList ++ ['('] ++ ((text value).toList ++ [')']) :=
    (Delimited.closed (by decide) legible).after _
  refine closed.congr fun value => ?_
  simp [debugTuple]

theorem quoted (run : ∀ value, ∀ symbol ∈ (text value).toList, ¬Closing symbol)
    (injective : Function.Injective text) : Legible fun value => debugText (text value) := by
  have closed : Delimited Closing fun value => ['"'] ++ ((text value).toList ++ ['"']) :=
    (Delimited.closed (by decide) (word run injective)).after _
  refine closed.congr fun value => ?_
  simp [debugText]

/-- One named field. -/
theorem fields₁ (legible : Legible text) (name field : String) :
    Legible fun value => debugFields name [(field, text value)] := by
  have closed : Delimited Closing fun value =>
      name.toList ++ " \x7b ".toList ++ field.toList ++ ": ".toList ++
        ((text value).toList ++ " \x7d".toList) :=
    (Delimited.closed (by decide) legible).after _
  refine closed.congr fun value => ?_
  simp [debugFields]

/-- Two named fields. -/
theorem fields₂ (first : Legible text) (second : Legible text') (name field field' : String) :
    Legible fun values : α × β =>
      debugFields name [(field, text values.1), (field', text' values.2)] := by
  have closed : Delimited Closing fun values : α × β =>
      name.toList ++ " \x7b ".toList ++ field.toList ++ ": ".toList ++
        ((text values.1).toList ++ ',' :: (' ' :: field'.toList ++ ": ".toList) ++
          (text' values.2).toList ++ " \x7d".toList) :=
    (Delimited.closed (by decide) (.pair (by decide) first second)).after _
  refine closed.congr fun value => ?_
  simp [debugFields]

/-- Three named fields. -/
theorem fields₃ (first : Legible text) (second : Legible text') (third : Legible text'')
    (name field field' field'' : String) :
    Legible fun values : α × β × γ => debugFields name
      [(field, text values.1), (field', text' values.2.1), (field'', text'' values.2.2)] := by
  have inner : Delimited Closing fun values : β × γ =>
      (text' values.1).toList ++ ',' :: (' ' :: field''.toList ++ ": ".toList) ++
        (text'' values.2).toList := .pair (by decide) second third
  have closed : Delimited Closing fun values : α × β × γ =>
      name.toList ++ " \x7b ".toList ++ field.toList ++ ": ".toList ++
        ((text values.1).toList ++ ',' :: (' ' :: field'.toList ++ ": ".toList) ++
          ((text' values.2.1).toList ++ ',' :: (' ' :: field''.toList ++ ": ".toList) ++
            (text'' values.2.2).toList) ++ " \x7d".toList) :=
    (Delimited.closed (by decide) (.pair (by decide) first inner)).after _
  refine closed.congr fun value => ?_
  simp [debugFields]

/-- One name for a missing value, and a tuple for one that is there. -/
theorem choice (legible : Legible text) {constant name : String}
    (apart : ∀ rest rest', constant.toList ++ rest ≠ name.toList ++ '(' :: rest') :
    Legible fun value : Option α =>
      value.elim constant fun value => debugTuple name (text value) := by
  intro first second rest rest' stopped stopped' same
  cases first with
  | none =>
      cases second with
      | none => exact ⟨rfl, List.append_cancel_left same⟩
      | some value =>
          refine absurd ?_ (apart rest ((text value).toList ++ ')' :: rest'))
          simpa [debugTuple] using same
  | some value =>
      cases second with
      | none =>
          refine absurd ?_ (apart rest' ((text value).toList ++ ')' :: rest))
          simpa [debugTuple] using same.symm
      | some value' =>
          obtain ⟨rfl, rests⟩ := legible.tuple name value value' rest rest' stopped stopped' same
          exact ⟨rfl, rests⟩

end Legible

/-! ## Numbers -/

theorem not_closing_of_isDigit {symbol : Char} (digit : symbol.isDigit = true) :
    ¬Closing symbol := by
  intro closing
  simp only [Closing, List.mem_cons, List.not_mem_nil, or_false] at closing
  rcases closing with rfl | rfl | rfl | rfl | rfl
  all_goals exact absurd digit (by decide)

theorem repr_injective : Function.Injective Nat.repr := by
  intro first second same
  have digits : Nat.toDigits 10 first = Nat.toDigits 10 second := by
    simpa using congrArg String.toList same
  have read := congrArg (Nat.ofDigitChars 10 · 0) digits
  simpa using read

theorem isDigit_of_mem_repr {value : Nat} {symbol : Char} (member : symbol ∈ value.repr.toList) :
    symbol.isDigit = true := by
  rw [Nat.toList_repr] at member
  exact Nat.isDigit_of_mem_toDigits (by decide) (by decide) member

theorem legible_nat : Legible fun value : Nat => toString value :=
  .word (fun _ _ member => not_closing_of_isDigit (isDigit_of_mem_repr member)) repr_injective

/-- No number begins with a minus sign. -/
theorem repr_ne_minus (first second : Nat) : first.repr ≠ "-" ++ second.repr := by
  intro same
  have minus : '-' ∈ first.repr.toList := by simp [same]
  exact absurd (isDigit_of_mem_repr minus) (by decide)

theorem legible_int : Legible fun value : Int => toString value := by
  refine .word (fun value symbol member => ?_) fun first second same => ?_
  · rw [Int.toString_eq_repr, Int.repr_eq_if] at member
    split at member
    · exact not_closing_of_isDigit (isDigit_of_mem_repr member)
    · rw [String.toList_append] at member
      rcases List.mem_append.mp member with sign | member
      · rw [List.mem_singleton.mp sign]
        decide
      · exact not_closing_of_isDigit (isDigit_of_mem_repr member)
  · simp only [Int.toString_eq_repr, Int.repr_eq_if] at same
    split at same
    · split at same
      · have values := repr_injective same
        omega
      · exact absurd same (repr_ne_minus _ _)
    · split at same
      · exact absurd same.symm (repr_ne_minus _ _)
      · have lists := congrArg String.toList same
        rw [String.toList_append, String.toList_append] at lists
        have values := repr_injective (String.toList_inj.mp (List.append_cancel_left lists))
        omega

/-! ## Names -/

/-- The bytes of a character are among those of its text. -/
theorem mem_utf8 {value : String} {symbol : Char} (member : symbol ∈ value.toList) {byte : UInt8}
    (inside : byte ∈ String.utf8EncodeChar symbol) : byte ∈ utf8 value := by
  have encoded (symbols : List Char) (member : symbol ∈ symbols) :
      byte ∈ symbols.utf8Encode.data.toList := by
    induction symbols with
    | nil => cases member
    | cons head tail ih =>
        rw [List.utf8Encode_cons, ByteArray.data_append, Array.toList_append, List.mem_append]
        rcases List.mem_cons.mp member with rfl | later
        · left
          simpa [List.utf8Encode_singleton, List.data_toByteArray] using inside
        · exact .inr (ih later)
  have bytes := encoded value.toList member
  rwa [String.utf8Encode_toList] at bytes

/-- A name over bytes that close nothing. -/
theorem not_closing_of_all {allowed : UInt8 → Bool}
    (apart : ∀ byte ∈ utf8 " ,)]\"", allowed byte = false) {value : String}
    (all : (utf8 value).all allowed = true) {symbol : Char} (member : symbol ∈ value.toList) :
    ¬Closing symbol := by
  intro closing
  have bytes : ∃ byte ∈ utf8 " ,)]\"", byte ∈ String.utf8EncodeChar symbol := by
    simp only [Closing, List.mem_cons, List.not_mem_nil, or_false] at closing
    rcases closing with rfl | rfl | rfl | rfl | rfl
    all_goals decide
  obtain ⟨byte, closes, inside⟩ := bytes
  have accepted := List.all_eq_true.mp all byte (mem_utf8 member inside)
  rw [apart byte closes] at accepted
  cases accepted

theorem TextId.not_closing {name : String} (id : TextId name) {symbol : Char}
    (member : symbol ∈ id.asStr.toList) : ¬Closing symbol := by
  have valid := id.valid
  unfold validateText at valid
  split at valid
  · cases valid
  · split at valid
    · cases valid
    · split at valid
      · cases valid
      · split at valid
        · cases valid
        · rename_i all
          have accepted : ((utf8 id.asStr).all fun byte =>
              isAsciiAlphanumeric byte || (utf8 "._:-").contains byte) = true := by
            simpa only [Bool.not_eq_true, Bool.not_eq_false'] using all
          exact not_closing_of_all (forall_mem_of_all (by decide)) accepted member

theorem not_closing_of_boundedName {punctuation value : String}
    (apart : ∀ byte ∈ utf8 " ,)]\"", (utf8 punctuation).contains byte = false)
    (ok : boundedName punctuation value = true) {symbol : Char} (member : symbol ∈ value.toList) :
    ¬Closing symbol := by
  simp only [boundedName, Bool.and_eq_true] at ok
  refine not_closing_of_all (fun byte closes => ?_) ok.2 member
  rw [apart byte closes]
  revert byte
  exact forall_mem_of_all (by decide)

/-! ## The values of an operation -/

section Values

theorem get_injective {α : Type} {accepts : α → Bool} :
    Function.Injective (Bounded.get : Bounded accepts → α) := by
  rintro ⟨first, _⟩ ⟨second, _⟩ same
  cases same
  rfl

theorem legible_u16 : Legible fun value : UInt16 => toString value :=
  legible_nat.view fun _ _ same => UInt16.toNat_inj.mp same

theorem legible_u32 : Legible fun value : UInt32 => toString value :=
  legible_nat.view fun _ _ same => UInt32.toNat_inj.mp same

theorem legible_u64 : Legible fun value : UInt64 => toString value :=
  legible_nat.view fun _ _ same => UInt64.toNat_inj.mp same

theorem legible_policy : Legible debugPolicy := by
  have number : Legible fun policy : CpuPolicyId => toString policy.get :=
    legible_u32.view fun ⟨_⟩ ⟨_⟩ same => congrArg _ same
  exact number.tuple "CpuPolicyId"

theorem legible_frequency : Legible debugFrequency := by
  have number : Legible fun value : FrequencyKHz => toString value.get :=
    legible_u64.view get_injective
  have chosen : Legible fun value : Option FrequencyKHz => value.elim "None" fun value =>
      debugTuple "Some" (debugTuple "FrequencyKHz" (toString value.get)) :=
    (number.tuple "FrequencyKHz").choice (by simp)
  refine chosen.congr fun value => ?_
  cases value with
  | none => rfl
  | some value => rfl

theorem legible_cgroup : Legible debugCgroup := by
  have handle : Legible fun handle : TargetId => debugText handle.asStr :=
    .quoted (fun handle _ member => TextId.not_closing handle member) TextId.asStr_injective
  have fields := legible_u64.fields₃ legible_u64 (handle.tuple "TargetId") "CgroupId" "mount_id"
    "inode" "handle"
  have read : Function.Injective fun cgroup : CgroupId =>
      (cgroup.mountId, cgroup.inode, cgroup.handle) := by
    rintro ⟨_, _, _⟩ ⟨_, _, _⟩ same
    cases same
    rfl
  refine (fields.view read).congr fun cgroup => ?_
  rw [debugCgroup]

theorem legible_process : Legible debugProcess := by
  have fields := legible_u32.fields₂ legible_u64 "ProcessId" "pid" "start_time_ticks"
  have read : Function.Injective fun process : ProcessId =>
      (process.pid, process.startTimeTicks) := by
    rintro ⟨_, _, _⟩ ⟨_, _, _⟩ same
    cases same
    rfl
  refine (fields.view read).congr fun process => ?_
  rw [debugProcess]

/-- The further numbers of a list. -/
def furtherCpus (cpus : List UInt32) : List Char :=
  cpus.flatMap fun cpu => ',' :: ' ' :: (toString cpu).toList

theorem intercalate_cpus (cpu : UInt32) (cpus : List UInt32) :
    (", ".intercalate ((cpu :: cpus).map toString)).toList =
      (toString cpu).toList ++ furtherCpus cpus := by
  induction cpus generalizing cpu with
  | nil => simp [furtherCpus]
  | cons next cpus ih =>
      have rest := ih next
      rw [List.map_cons] at rest
      rw [List.map_cons, List.map_cons, String.intercalate_cons_cons, String.toList_append,
        String.toList_append, rest]
      simp [furtherCpus]

theorem stopped_furtherCpus (cpus : List UInt32) (rest : List Char) :
    Stopped Closing (furtherCpus cpus ++ ']' :: rest) := by
  cases cpus with
  | nil => exact stopped_cons.mpr (by decide)
  | cons cpu cpus => exact stopped_cons.mpr (by decide)

theorem furtherCpus_inj {cpus cpus' : List UInt32} {rest rest' : List Char}
    (same : furtherCpus cpus ++ ']' :: rest = furtherCpus cpus' ++ ']' :: rest') :
    cpus = cpus' ∧ rest = rest' := by
  induction cpus generalizing cpus' with
  | nil =>
      cases cpus' with
      | nil => simpa [furtherCpus] using same
      | cons cpu cpus' => simp [furtherCpus] at same
  | cons cpu cpus ih =>
      cases cpus' with
      | nil => simp [furtherCpus] at same
      | cons cpu' cpus' =>
          have behind : (toString cpu).toList ++ (furtherCpus cpus ++ ']' :: rest) =
              (toString cpu').toList ++ (furtherCpus cpus' ++ ']' :: rest') := by
            simpa [furtherCpus] using same
          obtain ⟨rfl, further⟩ := legible_u32 _ _ _ _ (stopped_furtherCpus _ _)
            (stopped_furtherCpus _ _) behind
          obtain ⟨rfl, rests⟩ := ih further
          exact ⟨rfl, rests⟩

/-- A list of numbers between brackets. -/
theorem legible_list : Legible fun cpus : List UInt32 =>
    "[" ++ ", ".intercalate (cpus.map toString) ++ "]" := by
  intro first second rest rest' _ _ same
  -- A number begins where an empty list would close.
  have apart (cpu : UInt32) (cpus : List UInt32) (rest rest' : List Char)
      (same : ']' :: rest = (toString cpu).toList ++ (furtherCpus cpus ++ ']' :: rest')) :
      False := by
    have run : ∀ symbol ∈ (toString cpu).toList, ¬Closing symbol :=
      fun _ member => not_closing_of_isDigit (isDigit_of_mem_repr member)
    obtain ⟨none, -⟩ : [] = (toString cpu).toList ∧
        ']' :: rest = furtherCpus cpus ++ ']' :: rest' :=
      run_append_inj (by simp) run (stopped_cons.mpr (by decide)) (stopped_furtherCpus cpus rest')
        same
    exact Nat.repr_ne_empty (String.toList_inj.mp none.symm)
  simp only [String.toList_append] at same
  cases first with
  | nil =>
      cases second with
      | nil => exact ⟨rfl, by simpa using same⟩
      | cons cpu cpus =>
          rw [intercalate_cpus] at same
          exact (apart cpu cpus rest rest' (by simpa using same)).elim
  | cons cpu cpus =>
      rw [intercalate_cpus] at same
      cases second with
      | nil => exact (apart cpu cpus rest' rest (by simpa using same.symm)).elim
      | cons cpu' cpus' =>
          rw [intercalate_cpus] at same
          exact furtherCpus_inj (by simpa [furtherCpus] using same)

theorem legible_cpus : Legible debugCpus := by
  have slice : Legible fun cpus : CpuSet =>
      "[" ++ ", ".intercalate (cpus.asSlice.map toString) ++ "]" :=
    legible_list.view fun ⟨_, _, _⟩ ⟨_, _, _⟩ same => by cases same; rfl
  exact slice.tuple "CpuSet"

theorem micros_injective : Function.Injective fun quota : CpuQuota => match quota with
    | .max => none
    | .micros quota => some quota := by
  intro first second same
  cases first <;> cases second <;> simp_all

theorem legible_quota : Legible debugQuota := by
  have chosen : Legible fun value : Option UInt64 => value.elim "Max" fun value =>
      debugTuple "Micros" (toString value) := legible_u64.choice (by simp)
  refine (chosen.view micros_injective).congr fun quota => ?_
  cases quota with
  | max => rfl
  | micros quota => rfl

theorem legible_uclamp : Legible debugUclamp := by
  have chosen : Legible fun value : Option UInt16 => value.elim "Max" fun value =>
      debugTuple "Value" (toString value) := legible_u16.choice (by simp)
  have read : Function.Injective fun clamp : UclampValue => match clamp with
      | .max => none
      | .value clamp => some clamp := by
    intro first second same
    cases first <;> cases second <;> simp_all
  refine (chosen.view read).congr fun clamp => ?_
  cases clamp with
  | max => rfl
  | value clamp => rfl

theorem legible_energy : Legible debugEnergy := by
  refine .word (fun value => ?_) fun first second same => ?_
  · cases value <;> exact forall_mem_of_all (by decide)
  · cases first <;> cases second <;> first | rfl | exact absurd same (by decide)

theorem legible_boost : Legible debugBoost := by
  refine .word (fun value => ?_) fun first second same => ?_
  · cases value <;> exact forall_mem_of_all (by decide)
  · cases first <;> cases second <;> first | rfl | exact absurd same (by decide)

theorem legible_ioClass : Legible debugIoClass := by
  refine .word (fun value => ?_) fun first second same => ?_
  · cases value <;> exact forall_mem_of_all (by decide)
  · cases first <;> cases second <;> first | rfl | exact absurd same (by decide)

theorem legible_gpuProfile : Legible debugGpuProfile := by
  refine .word (fun value => ?_) fun first second same => ?_
  · cases value <;> exact forall_mem_of_all (by decide)
  · cases first <;> cases second <;> first | rfl | exact absurd same (by decide)

theorem legible_sysctlKey : Legible debugSysctlKey := by
  refine .word (fun value => ?_) fun first second _ => ?_
  · cases value
    exact forall_mem_of_all (by decide)
  · cases first
    cases second
    rfl

theorem legible_priority : Legible fun priority : IoPriority =>
    debugFields "IoPriority" [("class", debugIoClass priority.class_),
      ("level", toString priority.level)] := by
  have level : Legible fun value : UInt8 => toString value :=
    legible_nat.view fun _ _ same => UInt8.toNat_inj.mp same
  have fields := legible_ioClass.fields₂ level "IoPriority" "class" "level"
  have read : Function.Injective fun priority : IoPriority =>
      (priority.class_, priority.level) := by
    rintro ⟨_, _, _⟩ ⟨_, _, _⟩ same
    cases same
    rfl
  exact (fields.view read).congr fun _ => rfl

theorem legible_governor : Legible fun governor : GovernorId =>
    debugTuple "GovernorId" (debugText governor.get) := by
  have name : Legible fun governor : GovernorId => debugText governor.get :=
    .quoted (fun governor _ => not_closing_of_boundedName
      (forall_mem_of_all (by decide)) governor.valid) get_injective
  exact name.tuple "GovernorId"

theorem legible_profile : Legible fun profile : PlatformProfileId =>
    debugTuple "PlatformProfileId" (debugText profile.get) := by
  have name : Legible fun profile : PlatformProfileId => debugText profile.get :=
    .quoted (fun profile _ => not_closing_of_boundedName
      (forall_mem_of_all (by decide)) profile.valid) get_injective
  exact name.tuple "PlatformProfileId"

theorem legible_cgroupName : Legible fun name : CgroupName =>
    debugTuple "CgroupName" (debugText name.get) := by
  have bounded (name : CgroupName) : boundedName "._-" name.get = true := by
    have valid := name.valid
    simp only [CgroupName.accepts, Bool.and_eq_true] at valid
    exact valid.1.1
  have name : Legible fun name : CgroupName => debugText name.get :=
    .quoted (fun name _ => not_closing_of_boundedName
      (forall_mem_of_all (by decide)) (bounded name)) get_injective
  exact name.tuple "CgroupName"

theorem legible_weight {accepts : UInt16 → Bool} (name : String) :
    Legible fun weight : Bounded accepts => debugTuple name (toString weight.get) :=
  (legible_u16.view get_injective).tuple name

theorem legible_period : Legible fun period : CpuPeriod =>
    debugTuple "CpuPeriod" (toString period.get) :=
  (legible_u64.view get_injective).tuple "CpuPeriod"

theorem legible_nice : Legible fun nice : NiceValue =>
    debugTuple "NiceValue" (toString nice.get) := by
  have number : Legible fun value : Int8 => toString value :=
    legible_int.view fun _ _ same => Int8.toInt_inj.mp same
  exact (number.view get_injective).tuple "NiceValue"

theorem legible_milliwatts : Legible fun limit : PowerMilliwatts =>
    debugTuple "PowerMilliwatts" (toString limit.get) :=
  (legible_u32.view get_injective).tuple "PowerMilliwatts"

theorem legible_gpu : Legible fun device : GpuId => debugTuple "GpuId" (toString device.get) :=
  (legible_u32.view fun ⟨_⟩ ⟨_⟩ same => congrArg _ same).tuple "GpuId"

theorem legible_irq : Legible fun irq : IrqId => debugTuple "IrqId" (toString irq.get) :=
  (legible_u32.view fun ⟨_⟩ ⟨_⟩ same => congrArg _ same).tuple "IrqId"

theorem legible_sysctlValue : Legible fun value : ApprovedSysctlValue =>
    debugTuple "ApprovedSysctlValue" (toString value.get) := by
  have number : Legible fun value : Int64 => toString value :=
    legible_int.view fun _ _ same => Int64.toInt_inj.mp same
  exact (number.view fun ⟨_⟩ ⟨_⟩ same => congrArg _ same).tuple "ApprovedSysctlValue"

end Values

/-! ## Operations -/

/-- Operations of one kind with one text are equal. -/
theorem debugKind_injective {kind other : MutationKind}
    (operation : kind.operationText = other.operationText)
    (same : debugKind kind = debugKind other) : kind = other := by
  cases kind <;> cases other <;> first
    | (simp only [MutationKind.operationText] at operation; exact absurd operation (by decide))
    | skip
  case cpuBoost.cpuBoost state state' =>
    have read := (legible_boost.fields₁ "CpuBoost" "state").injective same
    rw [read]
  case platformProfile.platformProfile profile profile' =>
    have read := (legible_profile.fields₁ "PlatformProfile" "profile").injective same
    rw [read]
  case cpuGovernor.cpuGovernor policy governor policy' governor' =>
    have read : (policy, governor) = (policy', governor') :=
      (legible_policy.fields₂ legible_governor "CpuGovernor" "policy" "governor").injective same
    cases read
    rfl
  case cpuEnergyPreference.cpuEnergyPreference policy value policy' value' =>
    have read : (policy, value) = (policy', value') :=
      (legible_policy.fields₂ legible_energy "CpuEnergyPreference" "policy" "value").injective same
    cases read
    rfl
  case cgroupCpuWeight.cgroupCpuWeight cgroup weight cgroup' weight' =>
    have read : (cgroup, weight) = (cgroup', weight') :=
      (legible_cgroup.fields₂ (legible_weight
        "CpuWeight") "CgroupCpuWeight" "cgroup" "weight").injective same
    cases read
    rfl
  case cgroupCpuset.cgroupCpuset cgroup cpus cgroup' cpus' =>
    have read : (cgroup, cpus) = (cgroup', cpus') :=
      (legible_cgroup.fields₂ legible_cpus "CgroupCpuset" "cgroup" "cpus").injective same
    cases read
    rfl
  case cgroupIoWeight.cgroupIoWeight cgroup weight cgroup' weight' =>
    have read : (cgroup, weight) = (cgroup', weight') :=
      (legible_cgroup.fields₂ (legible_weight
        "IoWeight") "CgroupIoWeight" "cgroup" "weight").injective same
    cases read
    rfl
  case cgroupUclampMin.cgroupUclampMin cgroup value cgroup' value' =>
    have read : (cgroup, value) = (cgroup', value') :=
      (legible_cgroup.fields₂ legible_uclamp "CgroupUclampMin" "cgroup" "value").injective same
    cases read
    rfl
  case cgroupUclampMax.cgroupUclampMax cgroup value cgroup' value' =>
    have read : (cgroup, value) = (cgroup', value') :=
      (legible_cgroup.fields₂ legible_uclamp "CgroupUclampMax" "cgroup" "value").injective same
    cases read
    rfl
  case cgroupWorkload.cgroupWorkload parent name parent' name' =>
    have read : (parent, name) = (parent', name') :=
      (legible_cgroup.fields₂ legible_cgroupName "CgroupWorkload" "parent" "name").injective same
    cases read
    rfl
  case cgroupBackground.cgroupBackground parent name parent' name' =>
    have read : (parent, name) = (parent', name') :=
      (legible_cgroup.fields₂ legible_cgroupName "CgroupBackground" "parent" "name").injective same
    cases read
    rfl
  case processPlacement.processPlacement process cgroup process' cgroup' =>
    have read : (process, cgroup) = (process', cgroup') :=
      (legible_process.fields₂ legible_cgroup "ProcessPlacement" "process" "cgroup").injective same
    cases read
    rfl
  case processNice.processNice process nice process' nice' =>
    have read : (process, nice) = (process', nice') :=
      (legible_process.fields₂ legible_nice "ProcessNice" "process" "nice").injective same
    cases read
    rfl
  case processIoPriority.processIoPriority process priority process' priority' =>
    have read : (process, priority) = (process', priority') :=
      (legible_process.fields₂ legible_priority
        "ProcessIoPriority" "process" "priority").injective same
    cases read
    rfl
  case gpuPerformanceProfile.gpuPerformanceProfile device profile device' profile' =>
    have read : (device, profile) = (device', profile') :=
      (legible_gpu.fields₂ legible_gpuProfile
        "GpuPerformanceProfile" "device" "profile").injective same
    cases read
    rfl
  case gpuPowerLimit.gpuPowerLimit device milliwatts device' milliwatts' =>
    have read : (device, milliwatts) = (device', milliwatts') :=
      (legible_gpu.fields₂ legible_milliwatts "GpuPowerLimit" "device" "milliwatts").injective same
    cases read
    rfl
  case irqAffinity.irqAffinity irq cpus irq' cpus' =>
    have read : (irq, cpus) = (irq', cpus') :=
      (legible_irq.fields₂ legible_cpus "IrqAffinity" "irq" "cpus").injective same
    cases read
    rfl
  case runtimeSysctl.runtimeSysctl key value key' value' =>
    have read : (key, value) = (key', value') :=
      (legible_sysctlKey.fields₂ legible_sysctlValue "RuntimeSysctl" "key" "value").injective same
    cases read
    rfl
  case cpuFrequency.cpuFrequency policy min max policy' min' max' =>
    have read : (policy, min, max) = (policy', min', max') :=
      (legible_policy.fields₃ legible_frequency legible_frequency
        "CpuFrequency" "policy" "min_khz" "max_khz").injective same
    cases read
    rfl
  case cgroupCpuMax.cgroupCpuMax cgroup quota period cgroup' quota' period' =>
    have read : (cgroup, quota, period) = (cgroup', quota', period') :=
      (legible_cgroup.fields₃ legible_quota legible_period
        "CgroupCpuMax" "cgroup" "quota" "period").injective same
    cases read
    rfl

end Sysboost.Planner
