import Sysboost.Linux.Discovery.CurrentState

/-!
# Paths that are always valid

Fixed paths and the paths of numbered nodes always pass their check, and so do
the identifiers of numbered targets, so the detectors that use no other paths
return.
-/

namespace Sysboost.Linux.Discovery

open Sysboost.Core Sysboost.Platform Sysboost.Planner ByteCodec Results

/-! ## Numbered nodes and targets -/

theorem utf8_toString (number : UInt32) : utf8 (toString number) = decimal number.toNat :=
  toUtf8_toString number.toNat

theorem utf8ByteSize_toString_le (number : UInt32) : (toString number).utf8ByteSize ≤ 10 := by
  have size : (utf8 (toString number)).length ≤ 10 := by
    rw [utf8_toString]
    exact decimal_length (by decide) (number.toNat_lt.trans (by decide))
  rwa [utf8_length] at size

/-- A prefix of letters with a number is a name. -/
theorem pathChars_numbered {front : String}
    (letters : ∀ symbol ∈ front.toList, symbol.isAlphanum = true) (number : UInt32) :
    PathChars (front ++ toString number).toList := by
  have digits : (toString number).toList = Nat.toDigits 10 number.toNat := by simp [toString]
  apply pathChars_of_word
  · rw [String.toList_append, digits]
    simp [Nat.toDigits_ne_nil]
  · intro symbol member
    rw [String.toList_append] at member
    rcases List.mem_append.mp member with member | member
    · exact letters symbol member
    · have digit : symbol.isDigit = true := isDigit_of_mem_toString member
      simp [Char.isAlphanum, digit]

/-- Numbered targets have valid identifiers. -/
theorem validateText_numbered {name front : String} (nonempty : front.isEmpty = false)
    (bounded : front.utf8ByteSize ≤ 118)
    (all : ∀ byte ∈ utf8 front, isAsciiAlphanumeric byte = true ∨ byte ∈ utf8 "._:-")
    (number : UInt32) : validateText name (front ++ toString number) = .ok () := by
  have size := utf8ByteSize_toString_le number
  apply validateText_of_all
  · simpa [String.isEmpty_iff] using fun blank _ => by simp [blank] at nonempty
  · rw [String.utf8ByteSize_append]
    omega
  · intro byte member
    rw [show utf8 (front ++ toString number) = utf8 front ++ utf8 (toString number) from
      toUtf8_append front _] at member
    rcases List.mem_append.mp member with member | member
    · exact all byte member
    · rw [utf8_toString] at member
      have digit := isAsciiDigit_of_mem_decimal member
      simp only [isAsciiDigit, Bool.and_eq_true, decide_eq_true_eq] at digit
      exact .inl (by simp [isAsciiAlphanumeric, digit])

/-! ## Probes -/

/-- What a probe says of the bytes of a file. -/
def textProbe (filesystem : ReadOnlyFileSystem) (path : RelativePath) : Probe String :=
  ((Probe.ofResult (filesystem.read path)).bind fun bytes =>
    if bytes.length ≤ maxDiscoveryReadBytes then .present bytes else .malformed).bind fun bytes =>
      match fromUtf8 bytes with
      | some text => .present (trim text)
      | none => .malformed

theorem readText_eq (filesystem : ReadOnlyFileSystem) (value : String) :
    readText filesystem value = (path value).map (textProbe filesystem) := by
  unfold readText readBytes path
  cases RelativePath.new value with
  | error error => rfl
  | ok path => rfl

/-- A text that a file holds, as discovery reads it. -/
def Reads (filesystem : ReadOnlyFileSystem) (value text : String) : Prop :=
  ∃ path bytes raw, RelativePath.new value = .ok path ∧ filesystem.read path = .ok bytes ∧
    bytes.length ≤ maxDiscoveryReadBytes ∧ fromUtf8 bytes = some raw ∧ trim raw = text

theorem value_ofResult {α : Type} {result : Except SysboostError α} {value : α} :
    (Probe.ofResult result).value = some value ↔ result = .ok value := by
  cases result with
  | ok found => simp [Probe.ofResult, Probe.value]
  | error error => cases code : error.code <;> simp [Probe.ofResult, Probe.value, code]

theorem value_bind {α β : Type} {probe : Probe α} {next : α → Probe β} {value : β} :
    (probe.bind next).value = some value ↔
      ∃ found, probe.value = some found ∧ (next found).value = some value := by
  cases probe <;> simp [Probe.bind, Probe.value]

theorem value_textProbe {filesystem : ReadOnlyFileSystem} {path : RelativePath} {text : String} :
    (textProbe filesystem path).value = some text ↔ ∃ bytes raw, filesystem.read path = .ok bytes ∧
      bytes.length ≤ maxDiscoveryReadBytes ∧ fromUtf8 bytes = some raw ∧ trim raw = text := by
  simp only [textProbe, value_bind, value_ofResult]
  constructor
  · rintro ⟨bytes, ⟨found, read, sized⟩, decodes⟩
    split at sized
    next small =>
      cases sized
      split at decodes
      next raw known =>
        cases decodes
        exact ⟨bytes, raw, read, small, known, rfl⟩
      · cases decodes
    · cases sized
  · rintro ⟨bytes, raw, read, small, known, rfl⟩
    refine ⟨bytes, ⟨bytes, read, ?_⟩, ?_⟩
    · simp [small, Probe.value]
    · simp [known, Probe.value]

theorem reads_of_readText {filesystem : ReadOnlyFileSystem} {value : String}
    {probe : Probe String} (ok : readText filesystem value = .ok probe) {text : String} :
    probe.value = some text ↔ Reads filesystem value text := by
  rw [readText_eq] at ok
  cases found : path value with
  | error panic =>
      rw [found] at ok
      cases ok
  | ok node => ?_
  rw [found] at ok
  cases ok
  have made : RelativePath.new value = .ok node := expect_eq_ok_iff.mp found
  rw [value_textProbe]
  constructor
  · rintro ⟨bytes, raw, read⟩
    exact ⟨node, bytes, raw, made, read⟩
  · rintro ⟨path', bytes, raw, made', read⟩
    rw [made] at made'
    cases made'
    exact ⟨bytes, raw, read⟩

/-! ## Paths that are always valid -/

theorem returns_path_iff {value : String} :
    Returns (path value) ↔ validatePath value = .ok () := by
  rw [path, returns_expect_iff]
  constructor
  · rintro ⟨found, made⟩
    exact RelativePath.valid_of_new made
  · intro valid
    exact ⟨_, RelativePath.new_of_valid valid⟩

theorem returns_readText_iff {filesystem : ReadOnlyFileSystem} {value : String} :
    Returns (readText filesystem value) ↔ validatePath value = .ok () := by
  rw [← returns_path_iff, readText_eq]
  cases path value with
  | error panic => simp [Returns, Except.map]
  | ok found => simp [Returns, Except.map]

theorem returns_readText {filesystem : ReadOnlyFileSystem} {value : String}
    (valid : validatePath value = .ok ()) : Returns (readText filesystem value) :=
  returns_readText_iff.mpr valid

theorem returns_list {filesystem : ReadOnlyFileSystem} {value : String}
    (valid : validatePath value = .ok ()) : Returns (list filesystem (some value)) := by
  obtain ⟨found, made⟩ := returns_path_iff.mpr valid
  exact ⟨.ofResult (filesystem.list (some found)), by rw [list, Option.mapM_some, made]; rfl⟩

theorem returns_probeIdentity {filesystem : ReadOnlyFileSystem} {value : String}
    (valid : validatePath value = .ok ()) : Returns (probeIdentity filesystem value) := by
  obtain ⟨found, made⟩ := returns_path_iff.mpr valid
  exact ⟨_, by rw [probeIdentity, made]; rfl⟩

/-- The path of a file of a numbered directory. -/
theorem validatePath_numbered (directory letters rest : String) {front file : String}
    (front_eq : front = directory ++ "/" ++ letters) (file_eq : file = "/" ++ rest)
    (directoryValid : validatePath directory = .ok ()) (restValid : validatePath rest = .ok ())
    (alphanumeric : ∀ symbol ∈ letters.toList, symbol.isAlphanum = true)
    (bounded : front.utf8ByteSize + file.utf8ByteSize ≤ 246) (number : UInt32) :
    validatePath (front ++ toString number ++ file) = .ok () := by
  subst front_eq file_eq
  have digits := utf8ByteSize_toString_le number
  have chars : (directory ++ "/" ++ letters ++ toString number ++ ("/" ++ rest)).toList =
      directory.toList ++ '/' :: ((letters ++ toString number).toList ++ '/' :: rest.toList) := by
    simp
  rw [validatePath_eq_ok_iff, chars, pathChars_append, pathChars_append]
  refine ⟨?_, (validatePath_eq_ok_iff.mp directoryValid).2,
    pathChars_numbered alphanumeric number, (validatePath_eq_ok_iff.mp restValid).2⟩
  simp only [String.utf8ByteSize_append] at bounded ⊢
  omega

theorem validatePath_policy (policyId : UInt32) : validatePath (policyPath policyId) = .ok () := by
  have digits := utf8ByteSize_toString_le policyId
  have chars : (policyPath policyId).toList =
      cpufreqPath.toList ++ '/' :: ("policy" ++ toString policyId).toList := by
    simp [policyPath]
  rw [validatePath_eq_ok_iff, chars, pathChars_append]
  refine ⟨?_, (validatePath_eq_ok_iff.mp rfl).2, pathChars_numbered (forall_mem_of_all (by decide)) policyId⟩
  rw [policyPath, String.utf8ByteSize_append]
  have front : (cpufreqPath ++ "/policy").utf8ByteSize = 33 := rfl
  omega

theorem returns_readPolicyFile {sysfs : ReadOnlyFileSystem} {policyId : UInt32} {file : String}
    (rest : String) (file_eq : file = "/" ++ rest) (restValid : validatePath rest = .ok ())
    (bounded : file.utf8ByteSize ≤ 200) :
    Returns (readText sysfs (policyPath policyId ++ file)) := by
  have front_eq : cpufreqPath ++ "/policy" = cpufreqPath ++ "/" ++ "policy" := rfl
  have size : (cpufreqPath ++ "/policy").utf8ByteSize = 33 := rfl
  exact returns_readText (validatePath_numbered cpufreqPath "policy" rest front_eq file_eq rfl
    restValid (forall_mem_of_all (by decide)) (by omega) policyId)

/-! ## Detectors that always return -/

variable {sysfs procfs : ReadOnlyFileSystem}

theorem returns_detectEnvironment : Returns (detectEnvironment procfs) := by
  unfold detectEnvironment
  iterate 5 apply Returns.bind (returns_readText rfl) fun _ _ => ?_
  exact returns_ok _

theorem returns_detectCpu {online : String} (cpu : UInt32) :
    Returns (detectCpu sysfs online cpu) := by
  have file (file : String) (rest : String) (file_eq : file = "/" ++ rest)
      (restValid : validatePath rest = .ok ()) (bounded : file.utf8ByteSize ≤ 200) :
      Returns (readText sysfs ("devices/system/cpu/cpu" ++ toString cpu ++ file)) := by
    have front_eq : "devices/system/cpu/cpu" = "devices/system/cpu" ++ "/" ++ "cpu" := rfl
    have size : "devices/system/cpu/cpu".utf8ByteSize = 22 := rfl
    exact returns_readText (validatePath_numbered "devices/system/cpu" "cpu" rest front_eq file_eq
      rfl restValid (forall_mem_of_all (by decide)) (by omega) cpu)
  unfold detectCpu
  apply Returns.bind (file _ "topology/physical_package_id" rfl rfl (by decide)) fun _ _ => ?_
  apply Returns.bind (file _ "topology/core_id" rfl rfl (by decide)) fun _ _ => ?_
  apply Returns.bind (file _ "topology/thread_siblings_list" rfl rfl (by decide)) fun _ _ => ?_
  apply Returns.bind (file _ "cpu_capacity" rfl rfl (by decide)) fun _ _ => ?_
  exact returns_ok _

theorem returns_detectTopology : Returns (detectTopology sysfs) := by
  unfold detectTopology
  apply Returns.bind (returns_list rfl) fun _ _ => ?_
  iterate 2 apply Returns.bind (returns_readText rfl) fun _ _ => ?_
  apply Returns.bind (returns_mapM_iff.mpr fun cpu _ => returns_detectCpu cpu) fun _ _ => ?_
  exact returns_ok _

theorem returns_detectNuma : Returns (detectNuma sysfs) := by
  unfold detectNuma
  apply Returns.bind (returns_list rfl) fun _ _ => ?_
  apply Returns.bind (returns_mapM_iff.mpr fun node _ => ?_) fun _ _ => returns_ok _
  apply Returns.bind (returns_readText (validatePath_numbered "devices/system/node" "node"
    "cpulist" rfl rfl rfl rfl (forall_mem_of_all (by decide)) (by decide) node)) fun _ _ => ?_
  apply Returns.bind (returns_readText (validatePath_numbered "devices/system/node" "node"
    "meminfo" rfl rfl rfl rfl (forall_mem_of_all (by decide)) (by decide) node)) fun _ _ => ?_
  exact returns_ok _

theorem returns_detectCgroup {cgroup : Option ReadOnlyFileSystem} :
    Returns (detectCgroup cgroup procfs) := by
  unfold detectCgroup
  apply Returns.bind (returns_readText rfl) fun _ _ => ?_
  cases cgroup with
  | none => exact returns_ok _
  | some cgroup =>
      unfold detectCgroupRoot
      iterate 10 apply Returns.bind (returns_readText rfl) fun _ _ => ?_
      exact returns_ok _

theorem returns_detectIrqs : Returns (detectIrqs procfs) := by
  unfold detectIrqs
  apply Returns.bind (returns_list rfl) fun _ _ => ?_
  apply Returns.bind (returns_readText rfl) fun _ _ => ?_
  apply Returns.bind (returns_mapM_iff.mpr fun irq _ => ?_) fun _ _ => returns_ok _
  unfold detectIrq
  apply Returns.bind (returns_readText (validatePath_numbered "irq" "" "smp_affinity_list" rfl rfl
    rfl rfl (forall_mem_of_all (by decide)) (by decide) irq)) fun _ _ => ?_
  apply Returns.bind (returns_readText (validatePath_numbered "irq" "" "effective_affinity_list"
    rfl rfl rfl rfl (forall_mem_of_all (by decide)) (by decide) irq)) fun _ _ => ?_
  exact returns_ok _

theorem returns_detectMemory : Returns (detectMemory sysfs procfs) := by
  unfold detectMemory
  iterate 4 apply Returns.bind (returns_readText rfl) fun _ _ => ?_
  apply Returns.bind (returns_list rfl) fun _ _ => ?_
  iterate 3 apply Returns.bind (returns_readText rfl) fun _ _ => ?_
  exact returns_ok _

theorem returns_detectScheduler : Returns (detectScheduler procfs) := by
  unfold detectScheduler
  iterate 5 apply Returns.bind (returns_readText rfl) fun _ _ => ?_
  exact returns_ok _

theorem returns_detectSystemd {run : Option ReadOnlyFileSystem} :
    Returns (detectSystemd procfs run) := by
  unfold detectSystemd
  apply Returns.bind (returns_readText rfl) fun _ _ => ?_
  cases run with
  | none => exact returns_ok _
  | some run =>
      apply Returns.bind (returns_list rfl) fun _ _ => ?_
      exact returns_ok _

theorem returns_readPolicy (policyId : UInt32) : Returns (readPolicy sysfs (policyPath policyId)) := by
  unfold readPolicy
  apply Returns.bind (returns_readPolicyFile "related_cpus" rfl rfl (by decide)) fun _ _ => ?_
  apply Returns.bind (returns_readPolicyFile "scaling_driver" rfl rfl (by decide)) fun _ _ => ?_
  apply Returns.bind (returns_readPolicyFile "scaling_available_governors" rfl rfl
    (by decide)) fun _ _ => ?_
  apply Returns.bind (returns_readPolicyFile "scaling_governor" rfl rfl (by decide)) fun _ _ => ?_
  apply Returns.bind (returns_readPolicyFile "energy_performance_preference" rfl rfl
    (by decide)) fun _ _ => ?_
  apply Returns.bind (returns_readPolicyFile "energy_performance_available_preferences" rfl rfl
    (by decide)) fun _ _ => ?_
  apply Returns.bind (returns_readPolicyFile "scaling_min_freq" rfl rfl (by decide)) fun _ _ => ?_
  apply Returns.bind (returns_readPolicyFile "scaling_max_freq" rfl rfl (by decide)) fun _ _ => ?_
  apply Returns.bind (returns_readPolicyFile "scaling_cur_freq" rfl rfl (by decide)) fun _ _ => ?_
  exact returns_ok _

theorem returns_detectPolicy (policyId : UInt32) : Returns (detectPolicy sysfs policyId) := by
  unfold detectPolicy
  apply Returns.bind (returns_probeIdentity (validatePath_policy policyId)) fun _ _ => ?_
  apply Returns.bind (returns_readPolicy policyId) fun _ _ => ?_
  exact returns_ok _

theorem returns_probeBoostIdentity {interface : Option Cpu.CpuBoostInterface} :
    Returns (probeBoostIdentity sysfs interface) := by
  cases interface with
  | none => exact returns_ok _
  | some interface =>
      cases interface with
      | boost => exact returns_probeIdentity rfl
      | noTurbo => exact returns_probeIdentity rfl

theorem returns_detectCpufreq : Returns (detectCpufreq sysfs) := by
  unfold detectCpufreq
  apply Returns.bind (returns_list rfl) fun _ _ => ?_
  iterate 2 apply Returns.bind (returns_readText rfl) fun _ _ => ?_
  apply Returns.bind returns_probeBoostIdentity fun _ _ => ?_
  iterate 2 apply Returns.bind (returns_readText rfl) fun _ _ => ?_
  apply Returns.bind (returns_probeIdentity rfl) fun _ _ => ?_
  apply Returns.bind (returns_mapM_iff.mpr fun policyId _ =>
    returns_detectPolicy policyId) fun _ _ => ?_
  exact returns_ok _

end Sysboost.Linux.Discovery
