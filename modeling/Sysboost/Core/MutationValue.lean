import Sysboost.Core.Error
import Sysboost.Results.Errors
import Mathlib.Data.List.Destutter
import Mathlib.Data.List.Sort

/-!
# Values of the mutation vocabulary

A value with private fields carries the check of its constructor.  The variants
of `UclampValue` and `CpuQuota` are public in the source, so these two types
admit unchecked values; `checked` singles out those made by their constructors.
-/

namespace Sysboost.Core

open ByteCodec

/-! ## Values with a checked constructor -/

/-- A value that passed the check of its type. -/
structure Bounded {α : Type} (accepts : α → Bool) where
  get : α
  valid : accepts get = true
deriving DecidableEq

namespace Bounded

variable {α : Type} {accepts : α → Bool}

/-- Admit a value that passes the check of its type. -/
def new (error : SysboostError) (value : α) : Except SysboostError (Bounded accepts) :=
  if valid : accepts value = true then .ok ⟨value, valid⟩ else .error error

@[simp]
theorem new_get (error : SysboostError) (value : Bounded accepts) :
    new error value.get = .ok value := by
  simp [new, value.valid]

/-- The only error of a constructor is that of its check. -/
theorem raises_new {error : SysboostError} {p : SysboostError → Prop} (holds : p error)
    (value : α) : Results.Raises p (new error value : Except SysboostError (Bounded accepts)) := by
  unfold new
  split
  · exact Results.raises_ok _
  · exact Results.raises_error holds

theorem get_of_new {error : SysboostError} {value : α} {made : Bounded accepts}
    (ok : new error value = .ok made) : made.get = value := by
  unfold new at ok
  split at ok
  · cases ok
    rfl
  · cases ok

end Bounded

/-- A CPUFreq policy index discovered from the kernel. -/
structure CpuPolicyId where
  get : UInt32
deriving DecidableEq

/-- A GPU index discovered by a reviewed backend. -/
structure GpuId where
  get : UInt32
deriving DecidableEq

/-- An IRQ number discovered by a reviewed backend. -/
structure IrqId where
  get : UInt32
deriving DecidableEq

/-- An opaque existing cgroup identity. -/
structure CgroupId where
  mountId : UInt64
  inode : UInt64
  handle : TargetId
deriving DecidableEq

/-- A process identity; the start time tells recycled PIDs apart. -/
structure ProcessId where
  pid : UInt32
  startTimeTicks : UInt64
  positive : pid ≠ 0 ∧ startTimeTicks ≠ 0
deriving DecidableEq

def ProcessId.new (pid : UInt32) (startTimeTicks : UInt64) : Except SysboostError ProcessId :=
  if positive : pid ≠ 0 ∧ startTimeTicks ≠ 0 then .ok ⟨pid, startTimeTicks, positive⟩
  else .error (.new .invalidInput "process identity requires a positive PID and start time")

@[simp]
theorem ProcessId.new_eta (process : ProcessId) :
    ProcessId.new process.pid process.startTimeTicks = .ok process := by
  simp [ProcessId.new, process.positive]

theorem ProcessId.fields_of_new {pid : UInt32} {startTimeTicks : UInt64} {made : ProcessId}
    (ok : ProcessId.new pid startTimeTicks = .ok made) :
    made.pid = pid ∧ made.startTimeTicks = startTimeTicks := by
  unfold ProcessId.new at ok
  split at ok
  · cases ok
    exact ⟨rfl, rfl⟩
  · cases ok

/-- The textual rules shared by the bounded semantic names. -/
def boundedName (punctuation : String) (value : String) : Bool :=
  !value.isEmpty && value.utf8ByteSize ≤ 64 &&
    (utf8 value).all fun byte => isAsciiAlphanumeric byte || (utf8 punctuation).contains byte

/-- A bounded name is a non-empty text of at most 64 bytes without NUL. -/
theorem FieldText.of_boundedName {punctuation value : String}
    (noNul : (utf8 punctuation).contains 0 = false)
    (ok : boundedName punctuation value = true) : FieldText 64 value := by
  simp only [boundedName, Bool.and_eq_true, Bool.not_eq_true', decide_eq_true_eq] at ok
  rcases ok with ⟨⟨nonempty, bounded⟩, all⟩
  constructor
  · exact nonempty
  · exact bounded
  · apply containsNul_eq_false_of_all
      (fun byte => isAsciiAlphanumeric byte || (utf8 punctuation).contains byte)
    · rw [noNul]
      rfl
    · exact all

def CgroupName.accepts (value : String) : Bool :=
  boundedName "._-" value && value != "." && value != ".."

/-- A bounded Linux cgroup directory name.  It is a name, never a path. -/
abbrev CgroupName := Bounded CgroupName.accepts

def CgroupName.new (value : String) : Except SysboostError CgroupName :=
  Bounded.new (.new .invalidInput "cgroup name is not a bounded single component") value

theorem CgroupName.fieldText (name : CgroupName) : FieldText 64 name.get := by
  have valid := name.valid
  simp only [accepts, Bool.and_eq_true] at valid
  exact .of_boundedName (by decide) valid.1.1

def NiceValue.accepts (value : Int8) : Bool :=
  -20 ≤ value && value ≤ 19

/-- A Linux nice value. -/
abbrev NiceValue := Bounded NiceValue.accepts

def NiceValue.new (value : Int8) : Except SysboostError NiceValue :=
  Bounded.new (.new .invalidInput "nice value is outside the Linux range") value

/-- The I/O-priority classes accepted by workload control. -/
inductive IoPriorityClass where
  | none
  | bestEffort
  | idle
deriving DecidableEq

/-- A bounded Linux I/O priority. -/
structure IoPriority where
  class_ : IoPriorityClass
  level : UInt8
  bounded : level ≤ 7
deriving DecidableEq

def IoPriority.new (class_ : IoPriorityClass) (level : UInt8) : Except SysboostError IoPriority :=
  if bounded : level ≤ 7 then .ok ⟨class_, level, bounded⟩
  else .error (.new .invalidInput "I/O priority level is outside the Linux range")

@[simp]
theorem IoPriority.new_eta (priority : IoPriority) :
    IoPriority.new priority.class_ priority.level = .ok priority := by
  simp [IoPriority.new, priority.bounded]

theorem IoPriority.fields_of_new {class_ : IoPriorityClass} {level : UInt8} {made : IoPriority}
    (ok : IoPriority.new class_ level = .ok made) : made.class_ = class_ ∧ made.level = level := by
  unfold IoPriority.new at ok
  split at ok
  · cases ok
    exact ⟨rfl, rfl⟩
  · cases ok

def IoWeight.accepts (value : UInt16) : Bool :=
  1 ≤ value && value ≤ 10000

/-- A cgroup v2 I/O weight in the Linux-defined range. -/
abbrev IoWeight := Bounded IoWeight.accepts

def IoWeight.new (value : UInt16) : Except SysboostError IoWeight :=
  Bounded.new (.new .invalidInput "I/O weight is outside the accepted range") value

/-- A Linux cgroup utilization-clamp value. -/
inductive UclampValue where
  | value (clamp : UInt16)
  | max
deriving DecidableEq

def UclampValue.new (value : UInt16) : Except SysboostError UclampValue :=
  if value > 1024 then
    .error (.new .invalidInput "utilization clamp is outside the 0..=1024 range")
  else .ok (.value value)

/-- Values the constructor `UclampValue.new` or the `max` sentinel yields. -/
def UclampValue.checked : UclampValue → Bool
  | .value clamp => clamp ≤ 1024
  | .max => true

@[simp]
theorem UclampValue.new_of_checked {clamp : UInt16} (ok : (value clamp).checked = true) :
    UclampValue.new clamp = .ok (.value clamp) := by
  simpa [UclampValue.new, checked] using ok

theorem UclampValue.eq_of_new {clamp : UInt16} {made : UclampValue}
    (ok : UclampValue.new clamp = .ok made) : made = .value clamp ∧ made.checked = true := by
  unfold UclampValue.new at ok
  split at ok
  · cases ok
  · rename_i bounded
    cases ok
    exact ⟨rfl, by simpa [checked] using bounded⟩

/-- Explicit purpose of a managed cgroup. -/
inductive CgroupGroupKind where
  | workload
  | conservativeBackground
deriving DecidableEq

def GovernorId.accepts (value : String) : Bool :=
  boundedName "._:-" value

/-- A governor name validated as a bounded semantic identifier. -/
abbrev GovernorId := Bounded GovernorId.accepts

def GovernorId.new (value : String) : Except SysboostError GovernorId :=
  Bounded.new (.new .invalidInput "governor identifier is not a bounded semantic value") value

theorem GovernorId.fieldText (governor : GovernorId) : FieldText 64 governor.get :=
  .of_boundedName (by decide) governor.valid

/-- CPU energy-performance preference vocabulary. -/
inductive EnergyPreference where
  | performance
  | balancePerformance
  | balancePower
  | power
deriving DecidableEq

/-- Closed CPU boost/turbo state. -/
inductive CpuBoostState where
  | enabled
  | disabled
deriving DecidableEq

def PlatformProfileId.accepts (value : String) : Bool :=
  boundedName "._:-" value

/-- A platform performance-profile identifier returned by the kernel. -/
abbrev PlatformProfileId := Bounded PlatformProfileId.accepts

def PlatformProfileId.new (value : String) : Except SysboostError PlatformProfileId :=
  Bounded.new
    (.new .invalidInput "platform profile identifier is not a bounded semantic value") value

theorem PlatformProfileId.fieldText (profile : PlatformProfileId) : FieldText 64 profile.get :=
  .of_boundedName (by decide) profile.valid

def FrequencyKHz.accepts (value : UInt64) : Bool :=
  value != 0

/-- A strictly positive CPU frequency in kHz. -/
abbrev FrequencyKHz := Bounded FrequencyKHz.accepts

def FrequencyKHz.new (value : UInt64) : Except SysboostError FrequencyKHz :=
  Bounded.new (.new .invalidInput "frequency must be greater than zero") value

def CpuWeight.accepts (value : UInt16) : Bool :=
  1 ≤ value && value ≤ 10000

/-- A bounded cgroup CPU weight in the Linux-defined range. -/
abbrev CpuWeight := Bounded CpuWeight.accepts

def CpuWeight.new (value : UInt16) : Except SysboostError CpuWeight :=
  Bounded.new (.new .invalidInput "CPU weight is outside the accepted range") value

def CpuPeriod.accepts (value : UInt64) : Bool :=
  1000 ≤ value && value ≤ 1000000

/-- A bounded cgroup CPU quota period in microseconds. -/
abbrev CpuPeriod := Bounded CpuPeriod.accepts

def CpuPeriod.new (value : UInt64) : Except SysboostError CpuPeriod :=
  Bounded.new (.new .invalidInput "CPU period is outside the accepted range") value

/-- A cgroup quota or the Linux `max` sentinel. -/
inductive CpuQuota where
  | max
  | micros (quota : UInt64)
deriving DecidableEq

/-- `CpuQuota::micros`, the constructor of finite quotas. -/
def CpuQuota.newMicros (value : UInt64) : Except SysboostError CpuQuota :=
  if value = 0 then .error (.new .invalidInput "finite CPU quota must be greater than zero")
  else .ok (.micros value)

/-- Values the constructor `CpuQuota.newMicros` or the `max` sentinel yields. -/
def CpuQuota.checked : CpuQuota → Bool
  | .max => true
  | .micros quota => quota != 0

@[simp]
theorem CpuQuota.newMicros_of_checked {quota : UInt64} (ok : (micros quota).checked = true) :
    CpuQuota.newMicros quota = .ok (.micros quota) := by
  simpa [CpuQuota.newMicros, checked] using ok

theorem CpuQuota.eq_of_newMicros {quota : UInt64} {made : CpuQuota}
    (ok : CpuQuota.newMicros quota = .ok made) :
    made = .micros quota ∧ made.checked = true := by
  unfold CpuQuota.newMicros at ok
  split at ok
  · cases ok
  · rename_i positive
    cases ok
    exact ⟨rfl, by simpa [checked] using positive⟩

/-- Reviewed GPU performance profile vocabulary. -/
inductive GpuProfile where
  | performance
  | balanced
  | powerSave
deriving DecidableEq

def PowerMilliwatts.accepts (value : UInt32) : Bool :=
  value != 0

/-- A strictly positive GPU power limit in milliwatts. -/
abbrev PowerMilliwatts := Bounded PowerMilliwatts.accepts

def PowerMilliwatts.new (value : UInt32) : Except SysboostError PowerMilliwatts :=
  Bounded.new (.new .invalidInput "power limit must be greater than zero") value

/-- Closed key vocabulary for future runtime sysctl backends. -/
inductive ApprovedSysctlKey where
  | schedulerUtilClamping
deriving DecidableEq

/-- Bounded value for an approved sysctl key. -/
structure ApprovedSysctlValue where
  get : Int64
deriving DecidableEq

/-! ## CPU sets -/

/-- `sort_unstable` followed by `dedup`. -/
def canonicalCpus (cpus : List UInt32) : List UInt32 :=
  (cpus.insertionSort (· ≤ ·)).destutter (· ≠ ·)

/-- A sorted list without equal neighbours is strictly sorted. -/
theorem pairwise_lt_of_le_of_ne {cpus : List UInt32} (sorted : cpus.Pairwise (· ≤ ·))
    (distinct : cpus.IsChain (· ≠ ·)) : cpus.Pairwise (· < ·) := by
  have chain : cpus.IsChain (· < ·) := by
    induction distinct with
    | nil => exact .nil
    | singleton => exact .singleton _
    | cons_cons differ _ ih =>
        rw [List.isChain_cons_cons]
        constructor
        · exact UInt32.lt_of_le_of_ne
            (List.rel_of_pairwise_cons sorted List.mem_cons_self) differ
        · exact ih sorted.of_cons
  exact List.isChain_iff_pairwise.mp chain

theorem canonicalCpus_sorted (cpus : List UInt32) : (canonicalCpus cpus).Pairwise (· < ·) := by
  have total : Std.Total (fun first second : UInt32 => first ≤ second) := ⟨UInt32.le_total⟩
  have transitive : IsTrans UInt32 (· ≤ ·) := ⟨fun _ _ _ => UInt32.le_trans⟩
  have sorted : (cpus.insertionSort (· ≤ ·)).Pairwise (· ≤ ·) :=
    List.pairwise_insertionSort _ cpus
  apply pairwise_lt_of_le_of_ne
  · exact sorted.sublist (List.destutter_sublist _ _)
  · exact List.isChain_destutter _ _

/-- A canonical list is left as it is. -/
theorem canonicalCpus_of_sorted {cpus : List UInt32} (sorted : cpus.Pairwise (· < ·)) :
    canonicalCpus cpus = cpus := by
  rw [canonicalCpus, (sorted.imp UInt32.le_of_lt).insertionSort_eq]
  exact List.destutter_of_isChain _ _ (sorted.imp UInt32.ne_of_lt).isChain

theorem canonicalCpus_length_le (cpus : List UInt32) :
    (canonicalCpus cpus).length ≤ cpus.length := by
  have shorter := (List.destutter_sublist (· ≠ ·) (cpus.insertionSort (· ≤ ·))).length_le
  rwa [List.length_insertionSort] at shorter

/-- A sorted, duplicate-free non-empty CPU set. -/
structure CpuSet where
  asSlice : List UInt32
  sorted : asSlice.Pairwise (· < ·)
  nonempty : asSlice ≠ []
deriving DecidableEq

/-- Construct a canonical CPU set. -/
def CpuSet.new (cpus : List UInt32) : Except SysboostError CpuSet :=
  if empty : canonicalCpus cpus = [] then
    .error (.new .invalidInput "CPU set must not be empty")
  else .ok ⟨canonicalCpus cpus, canonicalCpus_sorted cpus, empty⟩

@[simp]
theorem CpuSet.new_asSlice (cpus : CpuSet) : CpuSet.new cpus.asSlice = .ok cpus := by
  simp [CpuSet.new, canonicalCpus_of_sorted cpus.sorted, cpus.nonempty]

theorem CpuSet.length_le_of_new {cpus : List UInt32} {made : CpuSet}
    (ok : CpuSet.new cpus = .ok made) : made.asSlice.length ≤ cpus.length := by
  unfold CpuSet.new at ok
  split at ok
  · cases ok
  · cases ok
    exact canonicalCpus_length_le cpus

/-! ## Preimages -/

/-- Maximum raw preimage size retained by the initial journal contract. -/
def maxPreimageBytes : Nat := 4096

def BoundedBytes.accepts (value : Bytes) : Bool :=
  value.length ≤ maxPreimageBytes

/-- Bounded raw bytes retained as a mutation preimage. -/
abbrev BoundedBytes := Bounded BoundedBytes.accepts

def BoundedBytes.new (value : Bytes) : Except SysboostError BoundedBytes :=
  Bounded.new
    ((SysboostError.new .snapshotError "preimage exceeds the journal byte bound").withStage
      .snapshot) value

/-- Digest supplied by a backend for precondition and ownership checks. -/
structure StateFingerprint where
  bytes : Block 32
deriving DecidableEq

/-- Stable identity evidence for a target at snapshot time. -/
structure TargetIdentity where
  bytes : Block 16
deriving DecidableEq

end Sysboost.Core
