import Sysboost.Core.Codec.Primitive

/-!
# Tags and values of the journal format

Every enumeration has a tag function and a decoder of tags; every value of the
mutation vocabulary has an encoder and a decoder that calls the value's
constructor.
-/

namespace Sysboost.Core

open ByteCodec

/-! ## Enumerations -/

def sessionStateTag : SessionState → UInt8
  | .new => 0
  | .detected => 1
  | .planned => 2
  | .snapshotted => 3
  | .intentDurable => 4
  | .applying => 5
  | .active => 6
  | .restoring => 7
  | .restored => 8
  | .rollingBack => 9
  | .degraded => 10
  | .recoveryPending => 11

def decodeSessionState : UInt8 → Except SysboostError SessionState
  | 0 => .ok .new
  | 1 => .ok .detected
  | 2 => .ok .planned
  | 3 => .ok .snapshotted
  | 4 => .ok .intentDurable
  | 5 => .ok .applying
  | 6 => .ok .active
  | 7 => .ok .restoring
  | 8 => .ok .restored
  | 9 => .ok .rollingBack
  | 10 => .ok .degraded
  | 11 => .ok .recoveryPending
  | _ => .error (corrupt "unknown session state tag")

theorem decodeSessionState_tag (state : SessionState) :
    decodeSessionState (sessionStateTag state) = .ok state := by
  cases state <;> rfl

def operationStateTag : OperationState → UInt8
  | .planned => 0
  | .snapshotted => 1
  | .intentRecorded => 2
  | .applying => 3
  | .applied => 4
  | .verified => 5
  | .restoring => 6
  | .restored => 7
  | .failed => 8
  | .restoreFailed => 9

def decodeOperationState : UInt8 → Except SysboostError OperationState
  | 0 => .ok .planned
  | 1 => .ok .snapshotted
  | 2 => .ok .intentRecorded
  | 3 => .ok .applying
  | 4 => .ok .applied
  | 5 => .ok .verified
  | 6 => .ok .restoring
  | 7 => .ok .restored
  | 8 => .ok .failed
  | 9 => .ok .restoreFailed
  | _ => .error (corrupt "unknown operation state tag")

theorem decodeOperationState_tag (state : OperationState) :
    decodeOperationState (operationStateTag state) = .ok state := by
  cases state <;> rfl

def equalityTag : EqualityKind → UInt8
  | .byteExact => 0
  | .scalarExact => 1
  | .setExact => 2

def decodeEquality : UInt8 → Except SysboostError EqualityKind
  | 0 => .ok .byteExact
  | 1 => .ok .scalarExact
  | 2 => .ok .setExact
  | _ => .error (corrupt "unknown equality tag")

theorem decodeEquality_tag (equality : EqualityKind) :
    decodeEquality (equalityTag equality) = .ok equality := by
  cases equality <;> rfl

def stageTag : Stage → UInt8
  | .detect => 0
  | .plan => 1
  | .snapshot => 2
  | .durableIntent => 3
  | .apply => 4
  | .verify => 5
  | .restore => 6
  | .recovery => 7
  | .transport => 8
  | .config => 9

def decodeStage : UInt8 → Except SysboostError Stage
  | 0 => .ok .detect
  | 1 => .ok .plan
  | 2 => .ok .snapshot
  | 3 => .ok .durableIntent
  | 4 => .ok .apply
  | 5 => .ok .verify
  | 6 => .ok .restore
  | 7 => .ok .recovery
  | 8 => .ok .transport
  | 9 => .ok .config
  | _ => .error (corrupt "unknown stage tag")

theorem decodeStage_tag (stage : Stage) : decodeStage (stageTag stage) = .ok stage := by
  cases stage <;> rfl

def errorCodeTag : ErrorCode → UInt16
  | .configError => 1
  | .capabilityError => 2
  | .unsupported => 3
  | .authorizationError => 4
  | .targetError => 5
  | .planningError => 6
  | .snapshotError => 7
  | .durabilityError => 8
  | .transportError => 9
  | .applyError => 10
  | .verificationError => 11
  | .restoreConflict => 12
  | .restoreError => 13
  | .journalCorrupt => 14
  | .invariantViolation => 15
  | .invalidInput => 16

def decodeErrorCode : UInt16 → Except SysboostError ErrorCode
  | 1 => .ok .configError
  | 2 => .ok .capabilityError
  | 3 => .ok .unsupported
  | 4 => .ok .authorizationError
  | 5 => .ok .targetError
  | 6 => .ok .planningError
  | 7 => .ok .snapshotError
  | 8 => .ok .durabilityError
  | 9 => .ok .transportError
  | 10 => .ok .applyError
  | 11 => .ok .verificationError
  | 12 => .ok .restoreConflict
  | 13 => .ok .restoreError
  | 14 => .ok .journalCorrupt
  | 15 => .ok .invariantViolation
  | 16 => .ok .invalidInput
  | _ => .error (corrupt "unknown error-code tag")

theorem decodeErrorCode_tag (code : ErrorCode) :
    decodeErrorCode (errorCodeTag code) = .ok code := by
  cases code <;> rfl

def energyTag : EnergyPreference → UInt8
  | .performance => 0
  | .balancePerformance => 1
  | .balancePower => 2
  | .power => 3

def decodeEnergy : UInt8 → Except SysboostError EnergyPreference
  | 0 => .ok .performance
  | 1 => .ok .balancePerformance
  | 2 => .ok .balancePower
  | 3 => .ok .power
  | _ => .error (corrupt "unknown energy preference tag")

theorem decodeEnergy_tag (value : EnergyPreference) :
    decodeEnergy (energyTag value) = .ok value := by
  cases value <;> rfl

def cpuBoostTag : CpuBoostState → UInt8
  | .enabled => 0
  | .disabled => 1

def decodeCpuBoost : UInt8 → Except SysboostError CpuBoostState
  | 0 => .ok .enabled
  | 1 => .ok .disabled
  | _ => .error (corrupt "unknown CPU boost state tag")

theorem decodeCpuBoost_tag (state : CpuBoostState) :
    decodeCpuBoost (cpuBoostTag state) = .ok state := by
  cases state <;> rfl

def gpuProfileTag : GpuProfile → UInt8
  | .performance => 0
  | .balanced => 1
  | .powerSave => 2

def decodeGpuProfile : UInt8 → Except SysboostError GpuProfile
  | 0 => .ok .performance
  | 1 => .ok .balanced
  | 2 => .ok .powerSave
  | _ => .error (corrupt "unknown GPU profile tag")

theorem decodeGpuProfile_tag (profile : GpuProfile) :
    decodeGpuProfile (gpuProfileTag profile) = .ok profile := by
  cases profile <;> rfl

def sysctlKeyTag : ApprovedSysctlKey → UInt8
  | .schedulerUtilClamping => 0

def decodeSysctlKey : UInt8 → Except SysboostError ApprovedSysctlKey
  | 0 => .ok .schedulerUtilClamping
  | _ => .error (corrupt "unknown approved sysctl key tag")

theorem decodeSysctlKey_tag (key : ApprovedSysctlKey) :
    decodeSysctlKey (sysctlKeyTag key) = .ok key := by
  cases key
  rfl

def cgroupKindTag : CgroupGroupKind → UInt8
  | .workload => 0
  | .conservativeBackground => 1

def decodeCgroupKind : UInt8 → Except SysboostError CgroupGroupKind
  | 0 => .ok .workload
  | 1 => .ok .conservativeBackground
  | _ => .error (corrupt "unknown managed cgroup kind tag")

theorem decodeCgroupKind_tag (kind : CgroupGroupKind) :
    decodeCgroupKind (cgroupKindTag kind) = .ok kind := by
  cases kind <;> rfl

def ioprioClassTag : IoPriorityClass → UInt8
  | .none => 0
  | .bestEffort => 1
  | .idle => 2

def decodeIoprioClass : UInt8 → Except SysboostError IoPriorityClass
  | 0 => .ok .none
  | 1 => .ok .bestEffort
  | 2 => .ok .idle
  | _ => .error (corrupt "unknown I/O priority class tag")

theorem decodeIoprioClass_tag (class_ : IoPriorityClass) :
    decodeIoprioClass (ioprioClassTag class_) = .ok class_ := by
  cases class_ <;> rfl

/-! ## Checked fields -/

/-- A field whose value goes through a constructor. -/
def Decoder.validated {α β γ : Type} (reader : Decoder α) (message : String)
    (make : α → Except β γ) : Decoder γ := do
  let value ← reader
  Decoder.checked message make value

theorem reads_validated {α β γ : Type} {reader : Decoder α} {writer : Encoder} {value : α}
    {message : String} {make : α → Except β γ} {result : γ} (known : Reads reader writer value)
    (ok : make value = .ok result) :
    Reads (Decoder.validated reader message make) writer result :=
  Reads.bind_last known (reads_checked ok)

theorem rewrites_validated {α β γ : Type} {reader : Decoder α} {write : α → Encoder}
    {message : String} {make : α → Except β γ} (get : γ → α)
    (known : Rewrites reader fun value bytes => write value = .ok bytes)
    (same : ∀ value result, make value = .ok result → get result = value) :
    Rewrites (Decoder.validated reader message make) fun result bytes =>
      write (get result) = .ok bytes := by
  apply Rewrites.bind known
  intro value front written
  apply rewrites_checked
  intro result made
  rw [same value result made, List.append_nil]
  exact written

/-- Text of at most `MAX_STRING_BYTES` that goes through a constructor. -/
def Decoder.text {β γ : Type} (message : String) (make : String → Except β γ) : Decoder γ :=
  Decoder.validated (Decoder.string maxStringBytes) message make

def Encoder.text (value : String) : Encoder :=
  Encoder.string value maxStringBytes

theorem reads_text {β γ : Type} {message : String} {make : String → Except β γ} {value : String}
    {result : γ} (ok : make value = .ok result) :
    Reads (Decoder.text message make) (Encoder.text value) result :=
  reads_validated (reads_string (by decide)) ok

theorem rewrites_text {β γ : Type} {message : String} {make : String → Except β γ}
    (get : γ → String) (same : ∀ value result, make value = .ok result → get result = value) :
    Rewrites (Decoder.text message make) fun result bytes =>
      Encoder.text (get result) = .ok bytes :=
  rewrites_validated get ((rewrites_string (by decide)).mono fun _ _ known => known.1) same

/-! ## Values -/

def encodeFrequency (frequency : Option FrequencyKHz) : Encoder :=
  Put.optional (fun frequency => Encoder.u64 frequency.get) frequency

def decodeFrequency : Decoder (Option FrequencyKHz) :=
  Get.optional Decoder.u8
    (Decoder.validated Decoder.u64 "state frequency is invalid" FrequencyKHz.new)

theorem reads_frequency (frequency : Option FrequencyKHz) :
    Reads decodeFrequency (encodeFrequency frequency) frequency := by
  apply Reads.optional reads_u8
  intro inner _
  exact reads_validated (reads_u64 _) (Bounded.new_get _ inner)

/-- Flags as `Get.optional` reads them. -/
theorem rewrites_option {α : Type} {reader : Decoder α} {write : α → Encoder}
    (known : Rewrites reader fun value bytes => write value = .ok bytes) :
    Rewrites (Get.optional Decoder.u8 reader) fun value bytes =>
      Put.optional write value = .ok bytes := by
  have unconditional : Rewrites reader fun value bytes => write value = .ok bytes ∧ True :=
    known.mono fun _ _ written => ⟨written, trivial⟩
  exact (Rewrites.optional rewrites_u8 unconditional).mono fun _ _ both => both.1

theorem rewrites_frequency : Rewrites decodeFrequency fun frequency bytes =>
    encodeFrequency frequency = .ok bytes :=
  rewrites_option (rewrites_validated Bounded.get rewrites_u64 fun _ _ => Bounded.get_of_new)

def encodeCgroup (cgroup : CgroupId) : Encoder :=
  Put.seq [
    Encoder.u64 cgroup.mountId,
    Encoder.u64 cgroup.inode,
    Encoder.text cgroup.handle.asStr]

def decodeCgroup : Decoder CgroupId := do
  let mountId ← Decoder.u64
  let inode ← Decoder.u64
  let handle ← Decoder.text "state cgroup handle is invalid" TextId.new
  pure ⟨mountId, inode, handle⟩

theorem reads_cgroup (cgroup : CgroupId) :
    Reads decodeCgroup (encodeCgroup cgroup) cgroup := by
  apply Reads.bind (reads_u64 _)
  apply Reads.bind (reads_u64 _)
  apply Reads.bind (reads_text (TextId.new_asStr cgroup.handle))
  exact Reads.pure _

theorem rewrites_textId {name message : String} :
    Rewrites (Decoder.text message (TextId.new : String → Except IdentifierError (TextId name)))
      fun id bytes => Encoder.text id.asStr = .ok bytes :=
  rewrites_text TextId.asStr fun _ _ => TextId.asStr_of_new

theorem rewrites_cgroup :
    Rewrites decodeCgroup fun cgroup bytes => encodeCgroup cgroup = .ok bytes := by
  apply Rewrites.bind rewrites_u64
  intro mountId first firstOk
  apply Rewrites.bind rewrites_u64
  intro inode second secondOk
  apply Rewrites.bind rewrites_textId
  intro handle third thirdOk
  apply Rewrites.pure
  simp [encodeCgroup, Put.seq, firstOk, secondOk, thirdOk]

def encodeProcess (process : ProcessId) : Encoder :=
  Put.seq [Encoder.u32 process.pid, Encoder.u64 process.startTimeTicks]

def decodeProcess : Decoder ProcessId := do
  let pid ← Decoder.u32
  let startTimeTicks ← Decoder.u64
  Decoder.checked "state process identity is invalid" (ProcessId.new pid) startTimeTicks

theorem reads_process (process : ProcessId) :
    Reads decodeProcess (encodeProcess process) process := by
  apply Reads.bind (reads_u32 _)
  apply Reads.bind (reads_u64 _)
  exact reads_checked (ProcessId.new_eta process)

theorem rewrites_process :
    Rewrites decodeProcess fun process bytes => encodeProcess process = .ok bytes := by
  apply Rewrites.bind rewrites_u32
  intro pid first firstOk
  apply Rewrites.bind rewrites_u64
  intro ticks second secondOk
  apply rewrites_checked
  intro process made
  rcases ProcessId.fields_of_new made with ⟨rfl, rfl⟩
  simp [encodeProcess, Put.seq, firstOk, secondOk]

def encodeUclamp : UclampValue → Encoder
  | .value clamp => Put.seq [Encoder.u8 0, Encoder.u16 clamp]
  | .max => Encoder.u8 1

def decodeUclamp : Decoder UclampValue := do
  match ← Decoder.u8 with
  | 0 => Decoder.validated Decoder.u16 "state utilization clamp is invalid" UclampValue.new
  | 1 => pure .max
  | _ => Get.lift (.error (corrupt "unknown utilization clamp tag"))

theorem reads_uclamp {value : UclampValue} (ok : value.checked = true) :
    Reads decodeUclamp (encodeUclamp value) value := by
  cases value with
  | value clamp =>
      rw [encodeUclamp]
      apply Reads.bind (reads_u8 0)
      exact Reads.last (reads_validated (reads_u16 clamp) (UclampValue.new_of_checked ok))
  | max => exact Reads.bind_last (reads_u8 1) (Reads.pure _)

/-- A reader that only fails accepts nothing. -/
theorem rewrites_fail {α : Type} {error : SysboostError} {written : α → Bytes → Prop} :
    Rewrites (Get.lift (.error error) : Decoder α) written :=
  Rewrites.lift fun _ impossible => by cases impossible

theorem rewrites_uclamp : Rewrites decodeUclamp fun value bytes =>
    encodeUclamp value = .ok bytes ∧ value.checked = true := by
  apply Rewrites.bind rewrites_u8
  rintro tag front rfl
  split
  · apply Rewrites.bind rewrites_u16
    intro clamp back backOk
    apply rewrites_checked
    intro value made
    rcases UclampValue.eq_of_new made with ⟨rfl, checked⟩
    exact ⟨by simp [encodeUclamp, Put.seq, Encoder.u8, backOk], checked⟩
  · exact Rewrites.pure ⟨rfl, rfl⟩
  · exact rewrites_fail

def encodeIoprio (priority : IoPriority) : Encoder :=
  Put.seq [Encoder.u8 (ioprioClassTag priority.class_), Encoder.u8 priority.level]

def decodeIoprio : Decoder IoPriority := do
  let class_ ← Decoder.tag decodeIoprioClass
  let level ← Decoder.u8
  Decoder.checked "state I/O priority is invalid" (IoPriority.new class_) level

theorem reads_ioprio (priority : IoPriority) :
    Reads decodeIoprio (encodeIoprio priority) priority := by
  apply Reads.bind (reads_tag decodeIoprioClass_tag _)
  apply Reads.bind (reads_u8 _)
  exact reads_checked (IoPriority.new_eta priority)

theorem rewrites_ioprio :
    Rewrites decodeIoprio fun priority bytes => encodeIoprio priority = .ok bytes := by
  apply Rewrites.bind (rewrites_tag ioprioClassTag)
  rintro class_ first rfl
  apply Rewrites.bind rewrites_u8
  rintro level second rfl
  apply rewrites_checked
  intro priority made
  rcases IoPriority.fields_of_new made with ⟨rfl, rfl⟩
  rfl

def encodeCpuset (cpus : CpuSet) : Encoder :=
  Encoder.list maxDependencies Encoder.u32 cpus.asSlice

def decodeCpuset : Decoder CpuSet :=
  Decoder.validated (Decoder.list maxDependencies Decoder.u32) "state CPU set is invalid"
    CpuSet.new

theorem reads_cpuset (cpus : CpuSet) : Reads decodeCpuset (encodeCpuset cpus) cpus :=
  reads_validated (reads_list (by decide) fun cpu _ => reads_u32 cpu) (CpuSet.new_asSlice cpus)

/-- Fixed-width elements are written in a fixed number of bytes. -/
theorem each_u32_ok (values : List UInt32) :
    ∃ bytes, Put.each Encoder.u32 values = .ok bytes ∧ bytes.length = 4 * values.length := by
  induction values with
  | nil => exact ⟨[], rfl, rfl⟩
  | cons value values ih =>
      rcases ih with ⟨back, backOk, back_length⟩
      refine ⟨toBigEndian 4 value.toNat ++ back, ?_, ?_⟩
      · exact Put.seq_cons_eq_ok_iff.mpr ⟨_, back, rfl, backOk, rfl⟩
      · rw [List.length_append, toBigEndian_length, back_length, List.length_cons]
        omega

theorem encodeCpuset_ok {cpus : CpuSet} (bounded : cpus.asSlice.length ≤ maxDependencies) :
    ∃ bytes, encodeCpuset cpus = .ok bytes ∧ bytes.length = 4 + 4 * cpus.asSlice.length := by
  rcases each_u32_ok cpus.asSlice with ⟨back, backOk, back_length⟩
  refine ⟨toBigEndian 4 cpus.asSlice.length ++ back, ?_, ?_⟩
  · apply Put.seq_cons_eq_ok_iff.mpr
    refine ⟨_, back, (putCount_eq_ok_iff (by decide)).mpr ⟨bounded, rfl⟩, ?_, rfl⟩
    exact Put.seq_cons_eq_ok_iff.mpr ⟨back, [], backOk, rfl, (List.append_nil _).symm⟩
  · rw [List.length_append, toBigEndian_length, back_length]

/-- The set that is kept may be shorter than the list that was read. -/
theorem rewrites_cpuset :
    Rewrites decodeCpuset fun cpus bytes => encodeCpuset cpus = .ok bytes := by
  intro bytes cpus rest ok
  rcases Get.run_bind_eq_ok_iff.mp ok with ⟨values, middle, valuesOk, madeOk⟩
  rcases Get.run_bind_eq_ok_iff.mp valuesOk with ⟨count, tail, countOk, timesOk⟩
  rcases rewrites_count (by decide) countOk with ⟨front, ⟨bounded, frontOk⟩, frontFits⟩
  have unconditional : Rewrites Decoder.u32 fun value bytes =>
      Encoder.u32 value = .ok bytes ∧ True :=
    rewrites_u32.mono fun _ _ written => ⟨written, trivial⟩
  rcases Rewrites.times count unconditional timesOk with
    ⟨back, ⟨length_eq, backOk, -⟩, backFits⟩
  have made : CpuSet.new values = .ok cpus ∧ middle = rest := by
    cases result : CpuSet.new values with
    | error error =>
        simp [Decoder.checked, Get.lift, result, Except.mapError, Except.map] at madeOk
    | ok inner =>
        simpa [Decoder.checked, Get.lift, result, Except.mapError, Except.map] using madeOk
  rcases made with ⟨made, rfl⟩
  have shorter := CpuSet.length_le_of_new made
  have bounded : cpus.asSlice.length ≤ maxDependencies := by omega
  rcases encodeCpuset_ok bounded with ⟨again, againOk, again_length⟩
  rcases each_u32_ok values with ⟨back', backOk', back_length⟩
  rw [backOk] at backOk'
  cases backOk'
  rcases (putCount_eq_ok_iff (by decide)).mp frontOk with ⟨-, rfl⟩
  rw [toBigEndian_length] at frontFits
  exact ⟨again, againOk, by omega⟩

def encodeQuota : CpuQuota → Encoder
  | .max => Encoder.u8 0
  | .micros quota => Put.seq [Encoder.u8 1, Encoder.u64 quota]

def decodeQuota : Decoder CpuQuota := do
  match ← Decoder.u8 with
  | 0 => pure .max
  | 1 => Decoder.validated Decoder.u64 "state CPU quota is invalid" CpuQuota.newMicros
  | _ => Get.lift (.error (corrupt "unknown CPU quota tag"))

theorem reads_quota {quota : CpuQuota} (ok : quota.checked = true) :
    Reads decodeQuota (encodeQuota quota) quota := by
  cases quota with
  | max => exact Reads.bind_last (reads_u8 0) (Reads.pure _)
  | micros quota =>
      rw [encodeQuota]
      apply Reads.bind (reads_u8 1)
      exact Reads.last (reads_validated (reads_u64 quota) (CpuQuota.newMicros_of_checked ok))

theorem rewrites_quota : Rewrites decodeQuota fun quota bytes =>
    encodeQuota quota = .ok bytes ∧ quota.checked = true := by
  apply Rewrites.bind rewrites_u8
  rintro tag front rfl
  split
  · exact Rewrites.pure ⟨rfl, rfl⟩
  · apply Rewrites.bind rewrites_u64
    intro quota back backOk
    apply rewrites_checked
    intro value made
    rcases CpuQuota.eq_of_newMicros made with ⟨rfl, checked⟩
    exact ⟨by simp [encodeQuota, Put.seq, Encoder.u8, backOk], checked⟩
  · exact rewrites_fail

/-- `i8::try_from` followed by `NiceValue::new`; both errors are replaced by
the caller. -/
def niceFromI64 (value : Int64) : Except SysboostError NiceValue :=
  if -128 ≤ value ∧ value ≤ 127 then NiceValue.new value.toInt8
  else .error (.new .invalidInput "out of range integral type conversion attempted")

theorem toInt64_toInt8_of_le {value : Int64} (low : -128 ≤ value) (high : value ≤ 127) :
    value.toInt8.toInt64 = value := by
  have least : (-128 : Int64).toInt = -128 := by decide
  have greatest : (127 : Int64).toInt = 127 := by decide
  rw [Int64.le_iff_toInt_le, least] at low
  rw [Int64.le_iff_toInt_le, greatest] at high
  apply Int64.toInt_inj.mp
  rw [Int8.toInt_toInt64, Int64.toInt_toInt8]
  rw [Int.bmod_eq_of_le] <;> omega

theorem niceFromI64_get (nice : NiceValue) : niceFromI64 nice.get.toInt64 = .ok nice := by
  have low : -128 ≤ nice.get.toInt64 := by
    rw [Int64.le_iff_toInt_le, Int8.toInt_toInt64]
    exact Int8.le_toInt nice.get
  have high : nice.get.toInt64 ≤ 127 := by
    rw [Int64.le_iff_toInt_le, Int8.toInt_toInt64]
    exact Int8.toInt_le nice.get
  rw [niceFromI64, if_pos ⟨low, high⟩, Int8.toInt8_toInt64]
  exact Bounded.new_get _ nice

theorem get_of_niceFromI64 {value : Int64} {nice : NiceValue}
    (ok : niceFromI64 value = .ok nice) : nice.get.toInt64 = value := by
  unfold niceFromI64 at ok
  split at ok
  · rename_i range
    rw [Bounded.get_of_new ok]
    exact toInt64_toInt8_of_le range.1 range.2
  · cases ok

end Sysboost.Core
