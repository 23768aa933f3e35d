import Sysboost.Core.Codec.Value

/-!
# Mutations in the journal format

A mutation kind and a typed value are a tag byte followed by the fields of the
variant.  The two laws are proved variant by variant, field by field.
-/

namespace Sysboost.Core

open ByteCodec

/-! ## Mutation kinds -/

def encodeMutationKind : MutationKind → Encoder
  | .cpuFrequency policy minKhz maxKhz =>
      Put.seq [Encoder.u8 0, Encoder.u32 policy.get, encodeFrequency minKhz,
        encodeFrequency maxKhz]
  | .cpuGovernor policy governor =>
      Put.seq [Encoder.u8 1, Encoder.u32 policy.get, Encoder.text governor.get]
  | .cpuEnergyPreference policy value =>
      Put.seq [Encoder.u8 2, Encoder.u32 policy.get, Encoder.u8 (energyTag value)]
  | .cpuBoost state =>
      Put.seq [Encoder.u8 10, Encoder.u8 (cpuBoostTag state)]
  | .platformProfile profile =>
      Put.seq [Encoder.u8 11, Encoder.text profile.get]
  | .cgroupCpuWeight cgroup weight =>
      Put.seq [Encoder.u8 3, encodeCgroup cgroup, Encoder.u16 weight.get]
  | .cgroupCpuMax cgroup quota period =>
      Put.seq [Encoder.u8 4, encodeCgroup cgroup, encodeQuota quota, Encoder.u64 period.get]
  | .cgroupCpuset cgroup cpus =>
      Put.seq [Encoder.u8 5, encodeCgroup cgroup, encodeCpuset cpus]
  | .cgroupIoWeight cgroup weight =>
      Put.seq [Encoder.u8 12, encodeCgroup cgroup, Encoder.u16 weight.get]
  | .cgroupUclampMin cgroup value =>
      Put.seq [Encoder.u8 13, encodeCgroup cgroup, encodeUclamp value]
  | .cgroupUclampMax cgroup value =>
      Put.seq [Encoder.u8 14, encodeCgroup cgroup, encodeUclamp value]
  | .cgroupWorkload parent name =>
      Put.seq [Encoder.u8 15, encodeCgroup parent, Encoder.text name.get]
  | .cgroupBackground parent name =>
      Put.seq [Encoder.u8 16, encodeCgroup parent, Encoder.text name.get]
  | .processPlacement process cgroup =>
      Put.seq [Encoder.u8 17, encodeProcess process, encodeCgroup cgroup]
  | .processNice process nice =>
      Put.seq [Encoder.u8 18, encodeProcess process, Encoder.i64 nice.get.toInt64]
  | .processIoPriority process priority =>
      Put.seq [Encoder.u8 19, encodeProcess process, encodeIoprio priority]
  | .gpuPerformanceProfile device profile =>
      Put.seq [Encoder.u8 6, Encoder.u32 device.get, Encoder.u8 (gpuProfileTag profile)]
  | .gpuPowerLimit device milliwatts =>
      Put.seq [Encoder.u8 7, Encoder.u32 device.get, Encoder.u32 milliwatts.get]
  | .irqAffinity irq cpus =>
      Put.seq [Encoder.u8 8, Encoder.u32 irq.get, encodeCpuset cpus]
  | .runtimeSysctl key value =>
      Put.seq [Encoder.u8 9, Encoder.u8 (sysctlKeyTag key), Encoder.i64 value.get]

def decodeMutationKind : Decoder MutationKind := do
  match ← Decoder.u8 with
  | 0 => do
      let policy ← Decoder.u32
      let minKhz ← decodeFrequency
      let maxKhz ← decodeFrequency
      pure (.cpuFrequency ⟨policy⟩ minKhz maxKhz)
  | 1 => do
      let policy ← Decoder.u32
      let governor ← Decoder.text "state governor is invalid" GovernorId.new
      pure (.cpuGovernor ⟨policy⟩ governor)
  | 2 => do
      let policy ← Decoder.u32
      let value ← Decoder.tag decodeEnergy
      pure (.cpuEnergyPreference ⟨policy⟩ value)
  | 3 => do
      let cgroup ← decodeCgroup
      let weight ← Decoder.validated Decoder.u16 "state CPU weight is invalid" CpuWeight.new
      pure (.cgroupCpuWeight cgroup weight)
  | 4 => do
      let cgroup ← decodeCgroup
      let quota ← decodeQuota
      let period ← Decoder.validated Decoder.u64 "state CPU period is invalid" CpuPeriod.new
      pure (.cgroupCpuMax cgroup quota period)
  | 5 => do
      let cgroup ← decodeCgroup
      let cpus ← decodeCpuset
      pure (.cgroupCpuset cgroup cpus)
  | 12 => do
      let cgroup ← decodeCgroup
      let weight ← Decoder.validated Decoder.u16 "state I/O weight is invalid" IoWeight.new
      pure (.cgroupIoWeight cgroup weight)
  | 13 => do
      let cgroup ← decodeCgroup
      let value ← decodeUclamp
      pure (.cgroupUclampMin cgroup value)
  | 14 => do
      let cgroup ← decodeCgroup
      let value ← decodeUclamp
      pure (.cgroupUclampMax cgroup value)
  | 15 => do
      let parent ← decodeCgroup
      let name ← Decoder.text "state workload cgroup name is invalid" CgroupName.new
      pure (.cgroupWorkload parent name)
  | 16 => do
      let parent ← decodeCgroup
      let name ← Decoder.text "state background cgroup name is invalid" CgroupName.new
      pure (.cgroupBackground parent name)
  | 17 => do
      let process ← decodeProcess
      let cgroup ← decodeCgroup
      pure (.processPlacement process cgroup)
  | 18 => do
      let process ← decodeProcess
      let nice ← Decoder.validated Decoder.i64 "state nice value is invalid" niceFromI64
      pure (.processNice process nice)
  | 19 => do
      let process ← decodeProcess
      let priority ← decodeIoprio
      pure (.processIoPriority process priority)
  | 6 => do
      let device ← Decoder.u32
      let profile ← Decoder.tag decodeGpuProfile
      pure (.gpuPerformanceProfile ⟨device⟩ profile)
  | 7 => do
      let device ← Decoder.u32
      let milliwatts ← Decoder.validated Decoder.u32 "state GPU power limit is invalid" PowerMilliwatts.new
      pure (.gpuPowerLimit ⟨device⟩ milliwatts)
  | 8 => do
      let irq ← Decoder.u32
      let cpus ← decodeCpuset
      pure (.irqAffinity ⟨irq⟩ cpus)
  | 9 => do
      let key ← Decoder.tag decodeSysctlKey
      let value ← Decoder.i64
      pure (.runtimeSysctl key ⟨value⟩)
  | 10 => do
      let state ← Decoder.tag decodeCpuBoost
      pure (.cpuBoost state)
  | 11 => do
      let profile ← Decoder.text "state platform profile is invalid" PlatformProfileId.new
      pure (.platformProfile profile)
  | _ => Get.lift (.error (corrupt "unknown mutation kind tag"))

theorem reads_mutationKind {kind : MutationKind} (ok : kind.checked = true) :
    Reads decodeMutationKind (encodeMutationKind kind) kind := by
  cases kind with
  | cpuFrequency policy minKhz maxKhz =>
      rw [encodeMutationKind]
      apply Reads.bind (reads_u8 0)
      apply Reads.bind (reads_u32 _)
      apply Reads.bind (reads_frequency _)
      apply Reads.bind (reads_frequency _)
      exact Reads.pure _
  | cpuGovernor policy governor =>
      rw [encodeMutationKind]
      apply Reads.bind (reads_u8 1)
      apply Reads.bind (reads_u32 _)
      apply Reads.bind (reads_text (Bounded.new_get _ _))
      exact Reads.pure _
  | cpuEnergyPreference policy value =>
      rw [encodeMutationKind]
      apply Reads.bind (reads_u8 2)
      apply Reads.bind (reads_u32 _)
      apply Reads.bind (reads_tag decodeEnergy_tag _)
      exact Reads.pure _
  | cpuBoost state =>
      rw [encodeMutationKind]
      apply Reads.bind (reads_u8 10)
      apply Reads.bind (reads_tag decodeCpuBoost_tag _)
      exact Reads.pure _
  | platformProfile profile =>
      rw [encodeMutationKind]
      apply Reads.bind (reads_u8 11)
      apply Reads.bind (reads_text (Bounded.new_get _ _))
      exact Reads.pure _
  | cgroupCpuWeight cgroup weight =>
      rw [encodeMutationKind]
      apply Reads.bind (reads_u8 3)
      apply Reads.bind (reads_cgroup _)
      apply Reads.bind (reads_validated (reads_u16 _) (Bounded.new_get _ _))
      exact Reads.pure _
  | cgroupCpuMax cgroup quota period =>
      rw [encodeMutationKind]
      apply Reads.bind (reads_u8 4)
      apply Reads.bind (reads_cgroup _)
      apply Reads.bind (reads_quota ok)
      apply Reads.bind (reads_validated (reads_u64 _) (Bounded.new_get _ _))
      exact Reads.pure _
  | cgroupCpuset cgroup cpus =>
      rw [encodeMutationKind]
      apply Reads.bind (reads_u8 5)
      apply Reads.bind (reads_cgroup _)
      apply Reads.bind (reads_cpuset _)
      exact Reads.pure _
  | cgroupIoWeight cgroup weight =>
      rw [encodeMutationKind]
      apply Reads.bind (reads_u8 12)
      apply Reads.bind (reads_cgroup _)
      apply Reads.bind (reads_validated (reads_u16 _) (Bounded.new_get _ _))
      exact Reads.pure _
  | cgroupUclampMin cgroup value =>
      rw [encodeMutationKind]
      apply Reads.bind (reads_u8 13)
      apply Reads.bind (reads_cgroup _)
      apply Reads.bind (reads_uclamp ok)
      exact Reads.pure _
  | cgroupUclampMax cgroup value =>
      rw [encodeMutationKind]
      apply Reads.bind (reads_u8 14)
      apply Reads.bind (reads_cgroup _)
      apply Reads.bind (reads_uclamp ok)
      exact Reads.pure _
  | cgroupWorkload parent name =>
      rw [encodeMutationKind]
      apply Reads.bind (reads_u8 15)
      apply Reads.bind (reads_cgroup _)
      apply Reads.bind (reads_text (Bounded.new_get _ _))
      exact Reads.pure _
  | cgroupBackground parent name =>
      rw [encodeMutationKind]
      apply Reads.bind (reads_u8 16)
      apply Reads.bind (reads_cgroup _)
      apply Reads.bind (reads_text (Bounded.new_get _ _))
      exact Reads.pure _
  | processPlacement process cgroup =>
      rw [encodeMutationKind]
      apply Reads.bind (reads_u8 17)
      apply Reads.bind (reads_process _)
      apply Reads.bind (reads_cgroup _)
      exact Reads.pure _
  | processNice process nice =>
      rw [encodeMutationKind]
      apply Reads.bind (reads_u8 18)
      apply Reads.bind (reads_process _)
      apply Reads.bind (reads_validated (reads_i64 _) (niceFromI64_get _))
      exact Reads.pure _
  | processIoPriority process priority =>
      rw [encodeMutationKind]
      apply Reads.bind (reads_u8 19)
      apply Reads.bind (reads_process _)
      apply Reads.bind (reads_ioprio _)
      exact Reads.pure _
  | gpuPerformanceProfile device profile =>
      rw [encodeMutationKind]
      apply Reads.bind (reads_u8 6)
      apply Reads.bind (reads_u32 _)
      apply Reads.bind (reads_tag decodeGpuProfile_tag _)
      exact Reads.pure _
  | gpuPowerLimit device milliwatts =>
      rw [encodeMutationKind]
      apply Reads.bind (reads_u8 7)
      apply Reads.bind (reads_u32 _)
      apply Reads.bind (reads_validated (reads_u32 _) (Bounded.new_get _ _))
      exact Reads.pure _
  | irqAffinity irq cpus =>
      rw [encodeMutationKind]
      apply Reads.bind (reads_u8 8)
      apply Reads.bind (reads_u32 _)
      apply Reads.bind (reads_cpuset _)
      exact Reads.pure _
  | runtimeSysctl key value =>
      rw [encodeMutationKind]
      apply Reads.bind (reads_u8 9)
      apply Reads.bind (reads_tag decodeSysctlKey_tag _)
      apply Reads.bind (reads_i64 _)
      exact Reads.pure _

theorem rewrites_bounded {α : Type} {accepts : α → Bool} {reader : Decoder α}
    {write : α → Encoder} {message : String} {error : SysboostError}
    (known : Rewrites reader fun value bytes => write value = .ok bytes) :
    Rewrites (Decoder.validated reader message
        (Bounded.new error : α → Except SysboostError (Bounded accepts)))
      fun value bytes => write value.get = .ok bytes :=
  rewrites_validated Bounded.get known fun _ _ => Bounded.get_of_new

theorem rewrites_boundedText {accepts : String → Bool} {message : String}
    {error : SysboostError} :
    Rewrites (Decoder.text message
        (Bounded.new error : String → Except SysboostError (Bounded accepts)))
      fun value bytes => Encoder.text value.get = .ok bytes :=
  rewrites_text Bounded.get fun _ _ => Bounded.get_of_new

theorem rewrites_nice {message : String} :
    Rewrites (Decoder.validated Decoder.i64 message niceFromI64) fun nice bytes =>
      Encoder.i64 nice.get.toInt64 = .ok bytes :=
  rewrites_validated (fun nice : NiceValue => nice.get.toInt64) rewrites_i64
    fun _ _ => get_of_niceFromI64

theorem rewrites_mutationKind : Rewrites decodeMutationKind fun kind bytes =>
    encodeMutationKind kind = .ok bytes ∧ kind.checked = true := by
  apply Rewrites.bind rewrites_u8
  rintro tag front rfl
  split
  · -- `cpuFrequency`
    apply Rewrites.bind rewrites_u32
    intro policy first firstOk
    apply Rewrites.bind rewrites_frequency
    intro minKhz second secondOk
    apply Rewrites.bind rewrites_frequency
    intro maxKhz third thirdOk
    exact Rewrites.pure ⟨by simp [encodeMutationKind, Put.seq, Encoder.u8, firstOk, secondOk, thirdOk], rfl⟩
  · -- `cpuGovernor`
    apply Rewrites.bind rewrites_u32
    intro policy first firstOk
    apply Rewrites.bind rewrites_boundedText
    intro governor second secondOk
    exact Rewrites.pure ⟨by simp [encodeMutationKind, Put.seq, Encoder.u8, firstOk, secondOk], rfl⟩
  · -- `cpuEnergyPreference`
    apply Rewrites.bind rewrites_u32
    intro policy first firstOk
    apply Rewrites.bind (rewrites_tag energyTag)
    rintro value second rfl
    exact Rewrites.pure ⟨by simp [encodeMutationKind, Put.seq, Encoder.u8, firstOk], rfl⟩
  · -- `cgroupCpuWeight`
    apply Rewrites.bind rewrites_cgroup
    intro cgroup first firstOk
    apply Rewrites.bind (rewrites_bounded rewrites_u16)
    intro weight second secondOk
    exact Rewrites.pure ⟨by simp [encodeMutationKind, Put.seq, Encoder.u8, firstOk, secondOk], rfl⟩
  · -- `cgroupCpuMax`
    apply Rewrites.bind rewrites_cgroup
    intro cgroup first firstOk
    apply Rewrites.bind rewrites_quota
    rintro quota second ⟨secondOk, checked⟩
    apply Rewrites.bind (rewrites_bounded rewrites_u64)
    intro period third thirdOk
    exact Rewrites.pure ⟨by simp [encodeMutationKind, Put.seq, Encoder.u8, firstOk, secondOk, thirdOk], checked⟩
  · -- `cgroupCpuset`
    apply Rewrites.bind rewrites_cgroup
    intro cgroup first firstOk
    apply Rewrites.bind rewrites_cpuset
    intro cpus second secondOk
    exact Rewrites.pure ⟨by simp [encodeMutationKind, Put.seq, Encoder.u8, firstOk, secondOk], rfl⟩
  · -- `cgroupIoWeight`
    apply Rewrites.bind rewrites_cgroup
    intro cgroup first firstOk
    apply Rewrites.bind (rewrites_bounded rewrites_u16)
    intro weight second secondOk
    exact Rewrites.pure ⟨by simp [encodeMutationKind, Put.seq, Encoder.u8, firstOk, secondOk], rfl⟩
  · -- `cgroupUclampMin`
    apply Rewrites.bind rewrites_cgroup
    intro cgroup first firstOk
    apply Rewrites.bind rewrites_uclamp
    rintro value second ⟨secondOk, checked⟩
    exact Rewrites.pure ⟨by simp [encodeMutationKind, Put.seq, Encoder.u8, firstOk, secondOk], checked⟩
  · -- `cgroupUclampMax`
    apply Rewrites.bind rewrites_cgroup
    intro cgroup first firstOk
    apply Rewrites.bind rewrites_uclamp
    rintro value second ⟨secondOk, checked⟩
    exact Rewrites.pure ⟨by simp [encodeMutationKind, Put.seq, Encoder.u8, firstOk, secondOk], checked⟩
  · -- `cgroupWorkload`
    apply Rewrites.bind rewrites_cgroup
    intro parent first firstOk
    apply Rewrites.bind rewrites_boundedText
    intro name second secondOk
    exact Rewrites.pure ⟨by simp [encodeMutationKind, Put.seq, Encoder.u8, firstOk, secondOk], rfl⟩
  · -- `cgroupBackground`
    apply Rewrites.bind rewrites_cgroup
    intro parent first firstOk
    apply Rewrites.bind rewrites_boundedText
    intro name second secondOk
    exact Rewrites.pure ⟨by simp [encodeMutationKind, Put.seq, Encoder.u8, firstOk, secondOk], rfl⟩
  · -- `processPlacement`
    apply Rewrites.bind rewrites_process
    intro process first firstOk
    apply Rewrites.bind rewrites_cgroup
    intro cgroup second secondOk
    exact Rewrites.pure ⟨by simp [encodeMutationKind, Put.seq, Encoder.u8, firstOk, secondOk], rfl⟩
  · -- `processNice`
    apply Rewrites.bind rewrites_process
    intro process first firstOk
    apply Rewrites.bind rewrites_nice
    intro nice second secondOk
    exact Rewrites.pure ⟨by simp [encodeMutationKind, Put.seq, Encoder.u8, firstOk, secondOk], rfl⟩
  · -- `processIoPriority`
    apply Rewrites.bind rewrites_process
    intro process first firstOk
    apply Rewrites.bind rewrites_ioprio
    intro priority second secondOk
    exact Rewrites.pure ⟨by simp [encodeMutationKind, Put.seq, Encoder.u8, firstOk, secondOk], rfl⟩
  · -- `gpuPerformanceProfile`
    apply Rewrites.bind rewrites_u32
    intro device first firstOk
    apply Rewrites.bind (rewrites_tag gpuProfileTag)
    rintro profile second rfl
    exact Rewrites.pure ⟨by simp [encodeMutationKind, Put.seq, Encoder.u8, firstOk], rfl⟩
  · -- `gpuPowerLimit`
    apply Rewrites.bind rewrites_u32
    intro device first firstOk
    apply Rewrites.bind (rewrites_bounded rewrites_u32)
    intro milliwatts second secondOk
    exact Rewrites.pure ⟨by simp [encodeMutationKind, Put.seq, Encoder.u8, firstOk, secondOk], rfl⟩
  · -- `irqAffinity`
    apply Rewrites.bind rewrites_u32
    intro irq first firstOk
    apply Rewrites.bind rewrites_cpuset
    intro cpus second secondOk
    exact Rewrites.pure ⟨by simp [encodeMutationKind, Put.seq, Encoder.u8, firstOk, secondOk], rfl⟩
  · -- `runtimeSysctl`
    apply Rewrites.bind (rewrites_tag sysctlKeyTag)
    rintro key first rfl
    apply Rewrites.bind rewrites_i64
    intro value second secondOk
    exact Rewrites.pure ⟨by simp [encodeMutationKind, Put.seq, Encoder.u8, secondOk], rfl⟩
  · -- `cpuBoost`
    apply Rewrites.bind (rewrites_tag cpuBoostTag)
    rintro state first rfl
    exact Rewrites.pure ⟨by simp [encodeMutationKind, Put.seq, Encoder.u8], rfl⟩
  · -- `platformProfile`
    apply Rewrites.bind rewrites_boundedText
    intro profile first firstOk
    exact Rewrites.pure ⟨by simp [encodeMutationKind, Put.seq, Encoder.u8, firstOk], rfl⟩
  · exact rewrites_fail

/-! ## Typed values -/

def encodeTypedValue : TypedValue → Encoder
  | .cpuFrequency minKhz maxKhz =>
      Put.seq [Encoder.u8 0, encodeFrequency minKhz, encodeFrequency maxKhz]
  | .governor governor =>
      Put.seq [Encoder.u8 1, Encoder.text governor.get]
  | .energyPreference value =>
      Put.seq [Encoder.u8 2, Encoder.u8 (energyTag value)]
  | .cpuBoost state =>
      Put.seq [Encoder.u8 10, Encoder.u8 (cpuBoostTag state)]
  | .platformProfile profile =>
      Put.seq [Encoder.u8 11, Encoder.text profile.get]
  | .cgroupCpuWeight weight =>
      Put.seq [Encoder.u8 3, Encoder.u16 weight.get]
  | .cgroupCpuMax quota period =>
      Put.seq [Encoder.u8 4, encodeQuota quota, Encoder.u64 period.get]
  | .cgroupCpuset cpus =>
      Put.seq [Encoder.u8 5, encodeCpuset cpus]
  | .cgroupIoWeight weight =>
      Put.seq [Encoder.u8 12, Encoder.u16 weight.get]
  | .cgroupUclamp value =>
      Put.seq [Encoder.u8 13, encodeUclamp value]
  | .cgroupLifecycle kind name present =>
      Put.seq [Encoder.u8 14, Encoder.u8 (cgroupKindTag kind), Encoder.text name.get,
        Encoder.bool present]
  | .processPlacement cgroup =>
      Put.seq [Encoder.u8 15, encodeCgroup cgroup]
  | .nice value =>
      Put.seq [Encoder.u8 16, Encoder.i64 value.get.toInt64]
  | .ioPriority value =>
      Put.seq [Encoder.u8 17, encodeIoprio value]
  | .gpuPerformanceProfile profile =>
      Put.seq [Encoder.u8 6, Encoder.u8 (gpuProfileTag profile)]
  | .gpuPowerLimit limit =>
      Put.seq [Encoder.u8 7, Encoder.u32 limit.get]
  | .irqAffinity cpus =>
      Put.seq [Encoder.u8 8, encodeCpuset cpus]
  | .runtimeSysctl key value =>
      Put.seq [Encoder.u8 9, Encoder.u8 (sysctlKeyTag key), Encoder.i64 value.get]

def decodeTypedValue : Decoder TypedValue := do
  match ← Decoder.u8 with
  | 0 => do
      let minKhz ← decodeFrequency
      let maxKhz ← decodeFrequency
      pure (.cpuFrequency minKhz maxKhz)
  | 1 => do
      let governor ← Decoder.text "state typed governor is invalid" GovernorId.new
      pure (.governor governor)
  | 2 => do
      let value ← Decoder.tag decodeEnergy
      pure (.energyPreference value)
  | 3 => do
      let weight ← Decoder.validated Decoder.u16 "state typed CPU weight is invalid" CpuWeight.new
      pure (.cgroupCpuWeight weight)
  | 4 => do
      let quota ← decodeQuota
      let period ← Decoder.validated Decoder.u64 "state typed CPU period is invalid" CpuPeriod.new
      pure (.cgroupCpuMax quota period)
  | 5 => do
      let cpus ← decodeCpuset
      pure (.cgroupCpuset cpus)
  | 12 => do
      let weight ← Decoder.validated Decoder.u16 "state typed I/O weight is invalid" IoWeight.new
      pure (.cgroupIoWeight weight)
  | 13 => do
      let value ← decodeUclamp
      pure (.cgroupUclamp value)
  | 14 => do
      let kind ← Decoder.tag decodeCgroupKind
      let name ← Decoder.text "state typed cgroup name is invalid" CgroupName.new
      let present ← Decoder.bool
      pure (.cgroupLifecycle kind name present)
  | 15 => do
      let cgroup ← decodeCgroup
      pure (.processPlacement cgroup)
  | 16 => do
      let value ← Decoder.validated Decoder.i64 "state typed nice value is invalid" niceFromI64
      pure (.nice value)
  | 17 => do
      let value ← decodeIoprio
      pure (.ioPriority value)
  | 6 => do
      let profile ← Decoder.tag decodeGpuProfile
      pure (.gpuPerformanceProfile profile)
  | 7 => do
      let limit ← Decoder.validated Decoder.u32 "state typed GPU power limit is invalid" PowerMilliwatts.new
      pure (.gpuPowerLimit limit)
  | 8 => do
      let cpus ← decodeCpuset
      pure (.irqAffinity cpus)
  | 9 => do
      let key ← Decoder.tag decodeSysctlKey
      let value ← Decoder.i64
      pure (.runtimeSysctl key ⟨value⟩)
  | 10 => do
      let state ← Decoder.tag decodeCpuBoost
      pure (.cpuBoost state)
  | 11 => do
      let profile ← Decoder.text "state typed platform profile is invalid" PlatformProfileId.new
      pure (.platformProfile profile)
  | _ => Get.lift (.error (corrupt "unknown typed-value tag"))

theorem reads_typedValue {value : TypedValue} (ok : value.checked = true) :
    Reads decodeTypedValue (encodeTypedValue value) value := by
  cases value with
  | cpuFrequency minKhz maxKhz =>
      rw [encodeTypedValue]
      apply Reads.bind (reads_u8 0)
      apply Reads.bind (reads_frequency _)
      apply Reads.bind (reads_frequency _)
      exact Reads.pure _
  | governor governor =>
      rw [encodeTypedValue]
      apply Reads.bind (reads_u8 1)
      apply Reads.bind (reads_text (Bounded.new_get _ _))
      exact Reads.pure _
  | energyPreference value =>
      rw [encodeTypedValue]
      apply Reads.bind (reads_u8 2)
      apply Reads.bind (reads_tag decodeEnergy_tag _)
      exact Reads.pure _
  | cpuBoost state =>
      rw [encodeTypedValue]
      apply Reads.bind (reads_u8 10)
      apply Reads.bind (reads_tag decodeCpuBoost_tag _)
      exact Reads.pure _
  | platformProfile profile =>
      rw [encodeTypedValue]
      apply Reads.bind (reads_u8 11)
      apply Reads.bind (reads_text (Bounded.new_get _ _))
      exact Reads.pure _
  | cgroupCpuWeight weight =>
      rw [encodeTypedValue]
      apply Reads.bind (reads_u8 3)
      apply Reads.bind (reads_validated (reads_u16 _) (Bounded.new_get _ _))
      exact Reads.pure _
  | cgroupCpuMax quota period =>
      rw [encodeTypedValue]
      apply Reads.bind (reads_u8 4)
      apply Reads.bind (reads_quota ok)
      apply Reads.bind (reads_validated (reads_u64 _) (Bounded.new_get _ _))
      exact Reads.pure _
  | cgroupCpuset cpus =>
      rw [encodeTypedValue]
      apply Reads.bind (reads_u8 5)
      apply Reads.bind (reads_cpuset _)
      exact Reads.pure _
  | cgroupIoWeight weight =>
      rw [encodeTypedValue]
      apply Reads.bind (reads_u8 12)
      apply Reads.bind (reads_validated (reads_u16 _) (Bounded.new_get _ _))
      exact Reads.pure _
  | cgroupUclamp value =>
      rw [encodeTypedValue]
      apply Reads.bind (reads_u8 13)
      apply Reads.bind (reads_uclamp ok)
      exact Reads.pure _
  | cgroupLifecycle kind name present =>
      rw [encodeTypedValue]
      apply Reads.bind (reads_u8 14)
      apply Reads.bind (reads_tag decodeCgroupKind_tag _)
      apply Reads.bind (reads_text (Bounded.new_get _ _))
      apply Reads.bind (reads_bool _)
      exact Reads.pure _
  | processPlacement cgroup =>
      rw [encodeTypedValue]
      apply Reads.bind (reads_u8 15)
      apply Reads.bind (reads_cgroup _)
      exact Reads.pure _
  | nice value =>
      rw [encodeTypedValue]
      apply Reads.bind (reads_u8 16)
      apply Reads.bind (reads_validated (reads_i64 _) (niceFromI64_get _))
      exact Reads.pure _
  | ioPriority value =>
      rw [encodeTypedValue]
      apply Reads.bind (reads_u8 17)
      apply Reads.bind (reads_ioprio _)
      exact Reads.pure _
  | gpuPerformanceProfile profile =>
      rw [encodeTypedValue]
      apply Reads.bind (reads_u8 6)
      apply Reads.bind (reads_tag decodeGpuProfile_tag _)
      exact Reads.pure _
  | gpuPowerLimit limit =>
      rw [encodeTypedValue]
      apply Reads.bind (reads_u8 7)
      apply Reads.bind (reads_validated (reads_u32 _) (Bounded.new_get _ _))
      exact Reads.pure _
  | irqAffinity cpus =>
      rw [encodeTypedValue]
      apply Reads.bind (reads_u8 8)
      apply Reads.bind (reads_cpuset _)
      exact Reads.pure _
  | runtimeSysctl key value =>
      rw [encodeTypedValue]
      apply Reads.bind (reads_u8 9)
      apply Reads.bind (reads_tag decodeSysctlKey_tag _)
      apply Reads.bind (reads_i64 _)
      exact Reads.pure _

theorem rewrites_typedValue : Rewrites decodeTypedValue fun value bytes =>
    encodeTypedValue value = .ok bytes ∧ value.checked = true := by
  apply Rewrites.bind rewrites_u8
  rintro tag front rfl
  split
  · -- `cpuFrequency`
    apply Rewrites.bind rewrites_frequency
    intro minKhz first firstOk
    apply Rewrites.bind rewrites_frequency
    intro maxKhz second secondOk
    exact Rewrites.pure ⟨by simp [encodeTypedValue, Put.seq, Encoder.u8, firstOk, secondOk], rfl⟩
  · -- `governor`
    apply Rewrites.bind rewrites_boundedText
    intro governor first firstOk
    exact Rewrites.pure ⟨by simp [encodeTypedValue, Put.seq, Encoder.u8, firstOk], rfl⟩
  · -- `energyPreference`
    apply Rewrites.bind (rewrites_tag energyTag)
    rintro value first rfl
    exact Rewrites.pure ⟨by simp [encodeTypedValue, Put.seq, Encoder.u8], rfl⟩
  · -- `cgroupCpuWeight`
    apply Rewrites.bind (rewrites_bounded rewrites_u16)
    intro weight first firstOk
    exact Rewrites.pure ⟨by simp [encodeTypedValue, Put.seq, Encoder.u8, firstOk], rfl⟩
  · -- `cgroupCpuMax`
    apply Rewrites.bind rewrites_quota
    rintro quota first ⟨firstOk, checked⟩
    apply Rewrites.bind (rewrites_bounded rewrites_u64)
    intro period second secondOk
    exact Rewrites.pure ⟨by simp [encodeTypedValue, Put.seq, Encoder.u8, firstOk, secondOk], checked⟩
  · -- `cgroupCpuset`
    apply Rewrites.bind rewrites_cpuset
    intro cpus first firstOk
    exact Rewrites.pure ⟨by simp [encodeTypedValue, Put.seq, Encoder.u8, firstOk], rfl⟩
  · -- `cgroupIoWeight`
    apply Rewrites.bind (rewrites_bounded rewrites_u16)
    intro weight first firstOk
    exact Rewrites.pure ⟨by simp [encodeTypedValue, Put.seq, Encoder.u8, firstOk], rfl⟩
  · -- `cgroupUclamp`
    apply Rewrites.bind rewrites_uclamp
    rintro value first ⟨firstOk, checked⟩
    exact Rewrites.pure ⟨by simp [encodeTypedValue, Put.seq, Encoder.u8, firstOk], checked⟩
  · -- `cgroupLifecycle`
    apply Rewrites.bind (rewrites_tag cgroupKindTag)
    rintro kind first rfl
    apply Rewrites.bind rewrites_boundedText
    intro name second secondOk
    apply Rewrites.bind rewrites_bool
    intro present third thirdOk
    exact Rewrites.pure ⟨by simp [encodeTypedValue, Put.seq, Encoder.u8, secondOk, thirdOk], rfl⟩
  · -- `processPlacement`
    apply Rewrites.bind rewrites_cgroup
    intro cgroup first firstOk
    exact Rewrites.pure ⟨by simp [encodeTypedValue, Put.seq, Encoder.u8, firstOk], rfl⟩
  · -- `nice`
    apply Rewrites.bind rewrites_nice
    intro value first firstOk
    exact Rewrites.pure ⟨by simp [encodeTypedValue, Put.seq, Encoder.u8, firstOk], rfl⟩
  · -- `ioPriority`
    apply Rewrites.bind rewrites_ioprio
    intro value first firstOk
    exact Rewrites.pure ⟨by simp [encodeTypedValue, Put.seq, Encoder.u8, firstOk], rfl⟩
  · -- `gpuPerformanceProfile`
    apply Rewrites.bind (rewrites_tag gpuProfileTag)
    rintro profile first rfl
    exact Rewrites.pure ⟨by simp [encodeTypedValue, Put.seq, Encoder.u8], rfl⟩
  · -- `gpuPowerLimit`
    apply Rewrites.bind (rewrites_bounded rewrites_u32)
    intro limit first firstOk
    exact Rewrites.pure ⟨by simp [encodeTypedValue, Put.seq, Encoder.u8, firstOk], rfl⟩
  · -- `irqAffinity`
    apply Rewrites.bind rewrites_cpuset
    intro cpus first firstOk
    exact Rewrites.pure ⟨by simp [encodeTypedValue, Put.seq, Encoder.u8, firstOk], rfl⟩
  · -- `runtimeSysctl`
    apply Rewrites.bind (rewrites_tag sysctlKeyTag)
    rintro key first rfl
    apply Rewrites.bind rewrites_i64
    intro value second secondOk
    exact Rewrites.pure ⟨by simp [encodeTypedValue, Put.seq, Encoder.u8, secondOk], rfl⟩
  · -- `cpuBoost`
    apply Rewrites.bind (rewrites_tag cpuBoostTag)
    rintro state first rfl
    exact Rewrites.pure ⟨by simp [encodeTypedValue, Put.seq, Encoder.u8], rfl⟩
  · -- `platformProfile`
    apply Rewrites.bind rewrites_boundedText
    intro profile first firstOk
    exact Rewrites.pure ⟨by simp [encodeTypedValue, Put.seq, Encoder.u8, firstOk], rfl⟩
  · exact rewrites_fail

end Sysboost.Core
