import Sysboost.Linux.CpuFrequency

/-!
# Admission of a frequency range

A frequency range is checked when it is admitted, when it is written, and by the
fixture that stands for the adapter in tests.  Admission lets a request through
that names one end and crosses the other; the write and the fixture refuse it.
-/

namespace Sysboost.Linux.Cpu

open Sysboost.Core Sysboost.Planner ByteCodec Interaction Kernel Results
open Storage (FileType IoErrorKind)

/-! ## The fixture -/

structure CpuFixturePolicy where
  governorChoices : List GovernorId
  eppChoices : List EnergyPreference
  minKhz : FrequencyKHz
  maxKhz : FrequencyKHz
  hardwareMin : FrequencyKHz
  hardwareMax : FrequencyKHz

structure CpuFixtureProfile where
  choices : List PlatformProfileId

/-- The state of a fixture, so far as its checks read it. -/
structure CpuFixture where
  policies : CpuPolicyId → Option CpuFixturePolicy
  platformProfile : Option CpuFixtureProfile

namespace CpuFixture

def fixtureMissing : SysboostError :=
  .new .unsupported "CPU fixture node is unavailable"

/-- A part of the fixture, which may be missing. -/
def present {α : Type} (part : Option α) : Except SysboostError α :=
  match part with
  | some part => .ok part
  | none => .error fixtureMissing

def choices (fixture : CpuFixture) : CpuNode → Except SysboostError (List TypedValue)
  | .governor policy => do
      return (← present (fixture.policies policy)).governorChoices.map .governor
  | .energyPreference policy => do
      return (← present (fixture.policies policy)).eppChoices.map .energyPreference
  | .frequency _ => return []
  | .boost _ => return [.cpuBoost .enabled, .cpuBoost .disabled]
  | .platformProfile => do
      return (← present fixture.platformProfile).choices.map .platformProfile

/-- `CpuControlIo::validate_desired` of the fixture. -/
def validateDesired (fixture : CpuFixture) (node : CpuNode) (desired : TypedValue) :
    Except SysboostError Unit := do
  match node with
  | .frequency policy =>
      match desired with
      | .cpuFrequency minKhz maxKhz =>
          let current ← present (fixture.policies policy)
          if CpuSysfs.crossed minKhz maxKhz then
            throw (targetError "CPU fixture minimum exceeds maximum")
          let desiredMin := minKhz.getD current.minKhz
          let desiredMax := maxKhz.getD current.maxKhz
          if desiredMax.get < desiredMin.get then
            throw (targetError "CPU fixture frequency range is invalid")
          if desiredMin.get < current.hardwareMin.get ∨ current.hardwareMax.get < desiredMin.get ∨
              desiredMax.get < current.hardwareMin.get ∨
              current.hardwareMax.get < desiredMax.get then
            throw (targetError "CPU fixture frequency is outside hardware bounds")
      | _ => throw (targetError "CPU fixture frequency value is not typed")
  | node =>
      let choices ← fixture.choices node
      if !choices.contains desired then
        throw (unsupported "CPU fixture desired value is not advertised")

end CpuFixture

/-! ## Runs of the adapter -/

namespace PolicyFiles

variable (sysfs : CpuSysfs) (policy : CpuPolicyId) (files : PolicyFiles)

/-- A program returns a value and changes the files to others. -/
abbrev Returns {α : Type} (program : Io α) (result : Except SysboostError α)
    (after : PolicyFiles) : Prop :=
  program.run.exec (kernel sysfs policy) files = (result, after)

/-- A path that is too short for a file of the policy is a directory. -/
theorem kernel_directory {path : Path} (short : path.length ≤ sysfs.root.length + 5) :
    kernel sysfs policy files (.symlinkMetadata path) = (.ok (metadata .directory), files) := by
  have other (file : String) : path ≠ sysfs.policyPath policy ++ [file] := by
    rintro rfl
    simp [CpuSysfs.policyPath] at short
  have min : path ≠ sysfs.minFile policy := other _
  have max : path ≠ sysfs.maxFile policy := other _
  have hardwareMin : path ≠ sysfs.hardwareMinFile policy := other _
  have hardwareMax : path ≠ sysfs.hardwareMaxFile policy := other _
  simp [kernel, held, min, max, hardwareMin, hardwareMax]

variable {files}

theorem returns_symlinkMetadata {path : Path} {message : String} {shown : Metadata}
    (found : kernel sysfs policy files (.symlinkMetadata path) = (.ok shown, files)) :
    Returns sysfs policy files (symlinkMetadata path message) (.ok shown) files :=
  Early.exec_attempt_ok found

theorem returns_directory {path : Path} {message : String}
    (short : path.length ≤ sysfs.root.length + 5) :
    Returns sysfs policy files (symlinkMetadata path message) (.ok (metadata .directory)) files :=
  returns_symlinkMetadata sysfs policy (kernel_directory sysfs policy files short)

/-- The adapter walks down to a directory. -/
theorem returns_descend {current : Path} {components : List String}
    (plain : ∀ component ∈ components, component ≠ "" ∧ component ≠ "." ∧ component ≠ "..")
    (short : current.length + components.length ≤ sysfs.root.length + 5) :
    Returns sysfs policy files (CpuSysfs.descend true current components)
      (.ok (current ++ components)) files := by
  induction components generalizing current with
  | nil => simp [CpuSysfs.descend, Returns, ExceptT.run_pure]
  | cons component rest ih =>
      obtain ⟨named, plain⟩ := List.forall_mem_cons.mp plain
      rw [List.length_cons] at short
      have below : (current ++ [component]).length ≤ sysfs.root.length + 5 := by
        rw [List.length_append, List.length_singleton]
        omega
      have allowed : Returns sysfs policy files
          (Early.refuseIf (component = "" || component = "." || component = "..")
            (targetError "CPU backend component is not allowlisted")) (.ok ⟨⟩) files := by
        simp [named, Early.refuseIf, Early.check, Returns]
      have regular : Returns sysfs policy files
          (Early.refuseIf ((metadata .directory).fileType = .symlink ||
            ((!rest.isEmpty || true) && (metadata .directory).fileType ≠ .directory))
            (targetError "CPU sysfs target has an unexpected type")) (.ok ⟨⟩) files := by
        simp [metadata, Early.refuseIf, Early.check, Returns]
      have walked : Returns sysfs policy files (CpuSysfs.descend true (current ++ [component]) rest)
          (.ok (current ++ [component] ++ rest)) files := by
        apply ih plain
        rw [List.length_append, List.length_singleton]
        omega
      rw [List.append_assoc, List.singleton_append] at walked
      rw [Returns, CpuSysfs.descend, Prog.exec_run_seq allowed,
        Prog.exec_run_seq (returns_directory sysfs policy below), Prog.exec_run_seq regular]
      exact walked

theorem returns_pass {condition : Bool} {error : SysboostError} (passes : condition = false) :
    Returns sysfs policy files (Early.refuseIf condition error) (.ok ⟨⟩) files := by
  simp [passes, Early.refuseIf, Early.check, Returns]

theorem policyName_plain : CpuSysfs.policyName policy ≠ "" ∧ CpuSysfs.policyName policy ≠ "." ∧
    CpuSysfs.policyName policy ≠ ".." := by
  have first : (CpuSysfs.policyName policy).toList.head? = some 'p' := by
    simp [CpuSysfs.policyName]
  constructor
  · intro same
    rw [same] at first
    cases first
  · constructor
    · intro same
      rw [same] at first
      cases first
    · intro same
      rw [same] at first
      cases first

theorem returns_policyDir :
    Returns sysfs policy files (sysfs.policyDir policy) (.ok (sysfs.policyPath policy)) files := by
  have root : sysfs.root.length ≤ sysfs.root.length + 5 := by omega
  rw [Returns, CpuSysfs.policyDir, CpuSysfs.checkedComponentPath,
    Prog.exec_run_seq (returns_directory sysfs policy root),
    Prog.exec_run_seq (returns_pass sysfs policy (by simp [metadata]))]
  apply returns_descend
  · intro component member
    simp only [List.mem_cons, List.not_mem_nil, or_false] at member
    rcases member with rfl | rfl | rfl | rfl | rfl
    · decide
    · decide
    · decide
    · decide
    · exact policyName_plain policy
  · simp

/-- A file of the policy that holds a frequency. -/
theorem returns_regular {path : Path} {value : FrequencyKHz}
    (held : files.held sysfs policy path = some value) {message : String} :
    Returns sysfs policy files (symlinkMetadata path message) (.ok (metadata .file)) files := by
  apply returns_symlinkMetadata
  simp [kernel, held]

theorem returns_validateFinalFile {path : Path} {value : FrequencyKHz}
    (held : files.held sysfs policy path = some value) :
    Returns sysfs policy files (validateFinalFile path) (.ok ⟨⟩) files := by
  rw [Returns, validateFinalFile, Prog.exec_run_seq (returns_regular sysfs policy held)]
  exact returns_pass sysfs policy (by simp [metadata])

theorem returns_policyFile {file : String} {value : FrequencyKHz}
    (listed : CpuSysfs.allowlistedFiles.contains file = true)
    (held : files.held sysfs policy (sysfs.policyPath policy ++ [file]) = some value) :
    Returns sysfs policy files (sysfs.policyFile policy file)
      (.ok (sysfs.policyPath policy ++ [file])) files := by
  rw [Returns, CpuSysfs.policyFile, Prog.exec_run_seq (returns_pass sysfs policy (by rw [listed]; rfl)),
    Prog.exec_run_seq (returns_policyDir sysfs policy),
    Prog.exec_run_seq (returns_validateFinalFile sysfs policy held)]
  rfl

/-- The line that shows a frequency. -/
def line (value : FrequencyKHz) : Bytes :=
  utf8 (toString value.get ++ "\n")

theorem line_eq (value : FrequencyKHz) : line value = decimal value.get.toNat ++ [10] := by
  have text : line value = toUtf8 (toString value.get.toNat) ++ toUtf8 "\n" := toUtf8_append _ _
  have newline : toUtf8 "\n" = [10] := by decide
  rw [text, toUtf8_toString, newline]

theorem line_length (value : FrequencyKHz) : (line value).length ≤ 21 := by
  have digits : (decimal value.get.toNat).length ≤ 20 := by
    apply decimal_length (by decide)
    have bound := value.get.toNat_lt
    omega
  rw [line_eq, List.length_append, List.length_singleton]
  omega

theorem not_mem_line (value : FrequencyKHz) : 0 ∉ line value := by
  intro member
  rw [line_eq, List.mem_append, List.mem_singleton] at member
  rcases member with member | same
  · exact absurd (isAsciiDigit_of_mem_decimal member) (by decide)
  · exact absurd same (by decide)

theorem returns_readFile {path : Path} {value : FrequencyKHz}
    (held : files.held sysfs policy path = some value) :
    Returns sysfs policy files (CpuSysfs.readFile path) (.ok (line value)) files := by
  have opens : Returns sysfs policy files
      (Early.attempt (fun _ => targetError "CPU kernel interface cannot be opened")
        (Prog.perform (Call.openRead path))) (.ok ()) files := Early.exec_attempt_ok rfl
  have inspects : Returns sysfs policy files
      (Early.attempt (fun _ => targetError "CPU kernel interface cannot be inspected")
        (Prog.perform (Call.fileMetadata path))) (.ok (metadata .file)) files :=
    Early.exec_attempt_ok rfl
  have reads : Returns sysfs policy files
      (Early.attempt (fun _ => targetError "CPU kernel interface cannot be read")
        (Prog.perform (Call.readToEnd path (some (maxCpuReadBytes + 1))))) (.ok (line value))
        files := by
    apply Early.exec_attempt_ok
    simp [Prog.perform, kernel, held, line]
  have short : decide ((line value).length > maxCpuReadBytes) = false := by
    have bound := line_length value
    rw [decide_eq_false_iff_not, maxCpuReadBytes]
    omega
  rw [Returns, CpuSysfs.readFile, Prog.exec_run_seq opens, Prog.exec_run_seq inspects,
    Prog.exec_run_seq (returns_pass sysfs policy (by simp [metadata])), Prog.exec_run_seq reads,
    Prog.exec_run_seq (returns_pass sysfs policy short)]
  rfl

theorem returns_rawNode :
    Returns sysfs policy files (sysfs.rawNode (.frequency policy))
      (.ok (line files.range.min ++ [0] ++ line files.range.max, identityOf (metadata .directory),
        none)) files := by
  have path : Returns sysfs policy files (sysfs.nodePath (.frequency policy))
      (.ok (sysfs.policyPath policy, none)) files := by
    rw [Returns, CpuSysfs.nodePath, Prog.exec_run_seq (returns_policyDir sysfs policy)]
    rfl
  have identity : Returns sysfs policy files (directoryIdentity (sysfs.policyPath policy))
      (.ok (identityOf (metadata .directory))) files := by
    have short : (sysfs.policyPath policy).length ≤ sysfs.root.length + 5 := by
      simp [CpuSysfs.policyPath]
    rw [Returns, directoryIdentity, Prog.exec_run_seq (returns_directory sysfs policy short),
      Prog.exec_run_seq (returns_pass sysfs policy (by simp [metadata]))]
    rfl
  have minHeld : files.held sysfs policy (sysfs.policyPath policy ++ ["scaling_min_freq"]) =
      some files.range.min := held_minFile files sysfs policy
  have maxHeld : files.held sysfs policy (sysfs.policyPath policy ++ ["scaling_max_freq"]) =
      some files.range.max := held_maxFile files sysfs policy
  rw [Returns, CpuSysfs.rawNode, Prog.exec_run_seq path,
    Prog.exec_run_seq (returns_policyFile sysfs policy (by decide) minHeld),
    Prog.exec_run_seq (returns_readFile sysfs policy minHeld),
    Prog.exec_run_seq (returns_policyFile sysfs policy (by decide) maxHeld),
    Prog.exec_run_seq (returns_readFile sysfs policy maxHeld),
    Prog.exec_run_seq (returns_policyDir sysfs policy), Prog.exec_run_seq identity]
  rfl

theorem returns_check {α : Type} {result : Except SysboostError α} {value : α}
    (ok : result = .ok value) :
    Returns sysfs policy files (Early.check result) (.ok value) files := by
  rw [ok]
  rfl

theorem parseRaw_lines (range : Range) (interface : Option CpuBoostInterface) :
    CpuSysfs.parseRaw (.frequency policy) (line range.min ++ [0] ++ line range.max) interface =
      .ok range.typed := by
  have pieces : (line range.min ++ [0] ++ line range.max).splitOn 0 =
      [line range.min, line range.max] := by
    rw [List.append_assoc, List.singleton_append,
      List.splitOn_append_cons_self_of_not_mem (not_mem_line _),
      List.splitOn_eq_singleton (not_mem_line _)]
  have min : parseFrequency (line range.min) = .ok range.min := parseFrequency_line _
  have max : parseFrequency (line range.max) = .ok range.max := parseFrequency_line _
  simp only [CpuSysfs.parseRaw, pieces, min, max]
  rfl

theorem returns_currentRange :
    Returns sysfs policy files (sysfs.currentRange policy)
      (.ok (files.range.min, files.range.max)) files := by
  have fits : BoundedBytes.accepts (line files.range.min ++ [0] ++ line files.range.max) = true := by
    have minLength := line_length files.range.min
    have maxLength := line_length files.range.max
    simp only [BoundedBytes.accepts, maxPreimageBytes, List.length_append, List.length_singleton,
      decide_eq_true_eq]
    omega
  have state : Returns sysfs policy files (sysfs.read (.frequency policy))
      (.ok ⟨⟨_, fits⟩, files.range.typed, fingerprintForValue (.typed files.range.typed),
        identityOf (metadata .directory), none⟩) files := by
    rw [Returns, CpuSysfs.read, Prog.exec_run_seq (returns_rawNode sysfs policy),
      Prog.exec_run_seq (returns_check sysfs policy (parseRaw_lines policy files.range none)),
      Prog.exec_run_seq (returns_check sysfs policy (dif_pos fits))]
    rfl
  rw [Returns, CpuSysfs.currentRange, Prog.exec_run_seq state]
  rfl

/-- A bound of the hardware is read when its file is there. -/
theorem returns_readOptionalFrequency {file : String} {bound : Option FrequencyKHz}
    (path : sysfs.policyPath policy ++ [file] = sysfs.hardwareMinFile policy ∨
      sysfs.policyPath policy ++ [file] = sysfs.hardwareMaxFile policy)
    (held : files.held sysfs policy (sysfs.policyPath policy ++ [file]) = bound) :
    Returns sysfs policy files (sysfs.readOptionalFrequency policy file) (.ok bound) files := by
  rw [Returns, CpuSysfs.readOptionalFrequency, Prog.exec_run_seq (returns_policyDir sysfs policy)]
  cases bound with
  | none =>
      have absent : (Prog.perform (Call.symlinkMetadata (sysfs.policyPath policy ++ [file]))).exec
          (kernel sysfs policy) files = (.error .notFound, files) := by
        simp [Prog.perform, kernel, held, path]
      rw [Prog.exec_run_seq (Prog.exec_lift absent)]
      rfl
  | some value =>
      have there : (Prog.perform (Call.symlinkMetadata (sysfs.policyPath policy ++ [file]))).exec
          (kernel sysfs policy) files = (.ok (metadata .file), files) := by
        simp [Prog.perform, kernel, held]
      rw [Prog.exec_run_seq (Prog.exec_lift there)]
      have parsed : parseFrequency (line value) = .ok value := parseFrequency_line value
      show (CpuSysfs.readFile (sysfs.policyPath policy ++ [file]) >>= fun raw =>
        Early.check (parseFrequency raw) >>= fun value =>
          (pure (some value) : Io (Option FrequencyKHz))).run.exec _ _ = _
      rw [Prog.exec_run_seq (returns_readFile sysfs policy held),
        Prog.exec_run_seq (returns_check sysfs policy parsed)]
      rfl

/-! ## What is admitted -/

variable (files) in
/-- A program returns without an error. -/
def Accepts (program : Io Unit) : Prop :=
  (program.run.exec (kernel sysfs policy) files).1 = .ok ()

theorem accepts_of_returns {program : Io Unit} {after : PolicyFiles}
    (returns : Returns sysfs policy files program (.ok ()) after) :
    Accepts sysfs policy files program :=
  congrArg Prod.fst returns

theorem accepts_seq_iff {α : Type} {program : Io α} {next : α → Io Unit} {value : α}
    (returns : Returns sysfs policy files program (.ok value) files) :
    Accepts sysfs policy files (program >>= next) ↔ Accepts sysfs policy files (next value) := by
  rw [Accepts, Prog.exec_run_seq returns, Accepts]

theorem accepts_refuseIf_iff {condition : Bool} {error : SysboostError} {next : PUnit → Io Unit} :
    Accepts sysfs policy files (Early.refuseIf condition error >>= next) ↔
      condition = false ∧ Accepts sysfs policy files (next ⟨⟩) := by
  cases condition with
  | false =>
      rw [accepts_seq_iff sysfs policy (returns_pass sysfs policy rfl)]
      simp
  | true =>
      apply iff_of_false
      · exact nofun
      · simp

theorem accepts_check_iff {condition : Bool} {error : SysboostError} :
    Accepts sysfs policy files (Early.refuseIf condition error) ↔ condition = false := by
  cases condition with
  | false => exact iff_of_true rfl rfl
  | true => exact iff_of_false nofun nofun

/-- Admission looks at the ends that are named and at the bounds. -/
theorem accepts_validateDesired_iff (minKhz maxKhz : Option FrequencyKHz) :
    Accepts sysfs policy files
        (sysfs.validateDesired (.frequency policy) (.cpuFrequency minKhz maxKhz)) ↔
      CpuSysfs.crossed minKhz maxKhz = false ∧
      CpuSysfs.outside files.hardwareMin files.hardwareMax (minKhz.getD files.range.min) = false ∧
      CpuSysfs.outside files.hardwareMin files.hardwareMax (maxKhz.getD files.range.max) = false := by
  have lower : Returns sysfs policy files (sysfs.readOptionalFrequency policy "cpuinfo_min_freq")
      (.ok files.hardwareMin) files :=
    returns_readOptionalFrequency sysfs policy (.inl rfl) (held_hardwareMinFile ..)
  have upper : Returns sysfs policy files (sysfs.readOptionalFrequency policy "cpuinfo_max_freq")
      (.ok files.hardwareMax) files :=
    returns_readOptionalFrequency sysfs policy (.inr rfl) (held_hardwareMaxFile ..)
  simp only [CpuSysfs.validateDesired]
  rw [accepts_refuseIf_iff, accepts_seq_iff sysfs policy (returns_currentRange sysfs policy),
    accepts_seq_iff sysfs policy lower, accepts_seq_iff sysfs policy upper, accepts_check_iff,
    Bool.or_eq_false_iff]

/-- The digits of a frequency may be written. -/
theorem returns_writeFile {path : Path} {value current : FrequencyKHz}
    (held : files.held sysfs policy path = some current) :
    Returns sysfs policy files (CpuSysfs.writeFile path (toString value.get)) (.ok ())
      (files.store sysfs policy path value) := by
  have bytes : utf8 (toString value.get) = decimal value.get.toNat := toUtf8_toString _
  have digits : (decimal value.get.toNat).length ≤ 20 := by
    apply decimal_length (by decide)
    have bound := value.get.toNat_lt
    omega
  have clean (byte : UInt8) (strange : isAsciiDigit byte = false) :
      (utf8 (toString value.get)).contains byte = false := by
    rw [bytes, List.contains_eq_mem, decide_eq_false_iff_not]
    intro member
    rw [isAsciiDigit_of_mem_decimal member] at strange
    cases strange
  have size : (toString value.get).utf8ByteSize = (decimal value.get.toNat).length :=
    congrArg List.length bytes
  have nonempty : (toString value.get).isEmpty = false := by
    have some : (decimal value.get.toNat).length ≠ 0 :=
      fun none => decimal_ne_nil (List.length_eq_zero_iff.mp none)
    rw [String.isEmpty, size]
    exact beq_eq_false_iff_ne.mpr some
  have allowed : ((toString value.get).isEmpty || (toString value.get).utf8ByteSize > 128 ||
      (utf8 (toString value.get)).contains 0 || (utf8 (toString value.get)).contains 10) =
        false := by
    rw [nonempty, clean 0 rfl, clean 10 rfl]
    simp only [Bool.false_or, Bool.or_false, decide_eq_false_iff_not]
    omega
  have opens : Returns sysfs policy files
      (Early.attempt (fun _ => targetError "CPU kernel interface cannot be opened for writing")
        (Prog.perform (Call.openWrite path))) (.ok ()) files := Early.exec_attempt_ok rfl
  have written : (Prog.perform (Call.writeAll path (utf8 (toString value.get)))).exec
      (kernel sysfs policy) files = (.ok (), files.store sysfs policy path value) := by
    simp [Prog.perform, kernel, parseFrequency_toString]
  rw [Returns, CpuSysfs.writeFile, Prog.exec_run_seq (returns_pass sysfs policy allowed),
    Prog.exec_run_seq (returns_validateFinalFile sysfs policy held), Prog.exec_run_seq opens]
  exact Early.exec_attempt_ok written

/-- One end of a range can be written in every state of the files. -/
theorem returns_writeEnd {file : String} {desired : Option FrequencyKHz} {current : FrequencyKHz}
    (listed : CpuSysfs.allowlistedFiles.contains file = true)
    (held : (files.held sysfs policy (sysfs.policyPath policy ++ [file])).isSome = true) :
    ∃ after, Returns sysfs policy files (sysfs.writeEnd policy file desired current) (.ok ())
      after := by
  obtain ⟨value, held⟩ := Option.isSome_iff_exists.mp held
  cases desired with
  | none => exact ⟨files, rfl⟩
  | some wanted =>
      simp only [CpuSysfs.writeEnd]
      by_cases same : wanted = current
      · rw [if_neg (not_not.mpr same)]
        exact ⟨files, rfl⟩
      · refine ⟨files.store sysfs policy (sysfs.policyPath policy ++ [file]) wanted, ?_⟩
        rw [if_pos same, Returns, Prog.exec_run_seq (returns_policyFile sysfs policy listed held)]
        exact returns_writeFile sysfs policy held

/-- A write also looks at the range that it would leave. -/
theorem accepts_writeFrequency_iff (minKhz maxKhz : Option FrequencyKHz) :
    Accepts sysfs policy files (sysfs.writeFrequency policy (.cpuFrequency minKhz maxKhz)) ↔
      CpuSysfs.crossed minKhz maxKhz = false ∧
      (minKhz.getD files.range.min).get ≤ (maxKhz.getD files.range.max).get := by
  have minHeld (files : PolicyFiles) :
      (files.held sysfs policy (sysfs.policyPath policy ++ ["scaling_min_freq"])).isSome = true :=
    congrArg Option.isSome (held_minFile files sysfs policy)
  have maxHeld (files : PolicyFiles) :
      (files.held sysfs policy (sysfs.policyPath policy ++ ["scaling_max_freq"])).isSome = true :=
    congrArg Option.isSome (held_maxFile files sysfs policy)
  simp only [CpuSysfs.writeFrequency]
  rw [accepts_seq_iff sysfs policy (returns_currentRange sysfs policy), accepts_refuseIf_iff,
    accepts_refuseIf_iff]
  simp only [CpuSysfs.crossed, decide_eq_false_iff_not, UInt64.not_lt]
  apply and_congr_right
  intro _
  apply and_iff_left
  split
  · obtain ⟨middle, first⟩ := returns_writeEnd sysfs policy (by decide) (minHeld files)
    obtain ⟨after, second⟩ := returns_writeEnd sysfs policy (by decide) (maxHeld middle)
    rw [Accepts, Prog.exec_run_seq first]
    exact accepts_of_returns sysfs policy second
  · obtain ⟨middle, first⟩ := returns_writeEnd sysfs policy (by decide) (maxHeld files)
    obtain ⟨after, second⟩ := returns_writeEnd sysfs policy (by decide) (minHeld middle)
    rw [Accepts, Prog.exec_run_seq first]
    exact accepts_of_returns sysfs policy second

/-- The fixture has the range and the bounds of the files. -/
structure Mirrors (fixture : CpuFixture) (policy : CpuPolicyId) (files : PolicyFiles)
    (current : CpuFixturePolicy) : Prop where
  found : fixture.policies policy = some current
  range : files.range = ⟨current.minKhz, current.maxKhz⟩
  hardwareMin : files.hardwareMin = some current.hardwareMin
  hardwareMax : files.hardwareMax = some current.hardwareMax

theorem outside_eq_false_iff {min max value : FrequencyKHz} :
    CpuSysfs.outside (some min) (some max) value = false ↔
      ¬value.get < min.get ∧ ¬max.get < value.get := by
  simp [CpuSysfs.outside]

/-- The fixture looks at the resulting range and at the bounds. -/
theorem Mirrors.validateDesired_iff {fixture : CpuFixture} {policy : CpuPolicyId}
    {files : PolicyFiles} {current : CpuFixturePolicy} (mirrors : Mirrors fixture policy files current)
    (minKhz maxKhz : Option FrequencyKHz) :
    fixture.validateDesired (.frequency policy) (.cpuFrequency minKhz maxKhz) = .ok () ↔
      CpuSysfs.crossed minKhz maxKhz = false ∧
      (minKhz.getD files.range.min).get ≤ (maxKhz.getD files.range.max).get ∧
      CpuSysfs.outside files.hardwareMin files.hardwareMax (minKhz.getD files.range.min) = false ∧
      CpuSysfs.outside files.hardwareMin files.hardwareMax (maxKhz.getD files.range.max) = false := by
  have present : CpuFixture.present (fixture.policies policy) = .ok current := by
    rw [mirrors.found]
    rfl
  rw [mirrors.range, mirrors.hardwareMin, mirrors.hardwareMax, outside_eq_false_iff,
    outside_eq_false_iff]
  simp only [CpuFixture.validateDesired, present]
  show (if CpuSysfs.crossed minKhz maxKhz = true then _ else _) = Except.ok () ↔ _
  rw [guard_eq_ok_iff, guard_eq_ok_iff, ite_throw_eq_ok_iff]
  simp only [Bool.not_eq_true, UInt64.not_lt, not_or, pure, Except.pure, and_true, and_assoc]

end PolicyFiles

/-- The ends that are named cross only where the resulting range does. -/
theorem crossed_eq_false_iff (range : Range) (minKhz maxKhz : Option FrequencyKHz) :
    CpuSysfs.crossed minKhz maxKhz = false ↔
      (minKhz.isSome = true ∧ maxKhz.isSome = true →
        (minKhz.getD range.min).get ≤ (maxKhz.getD range.max).get) := by
  cases minKhz with
  | none => simp [CpuSysfs.crossed]
  | some min =>
      cases maxKhz with
      | none => simp [CpuSysfs.crossed]
      | some max => simp [CpuSysfs.crossed]

open PolicyFiles in
/-- Admission is as strict as the write and as the fixture exactly when the
request names both ends, leaves a range in order, or leaves the bounds. -/
theorem admission_agrees_iff (sysfs : CpuSysfs) (policy : CpuPolicyId) (files : PolicyFiles)
    (minKhz maxKhz : Option FrequencyKHz) :
    ((Accepts sysfs policy files
          (sysfs.validateDesired (.frequency policy) (.cpuFrequency minKhz maxKhz)) →
        Accepts sysfs policy files (sysfs.writeFrequency policy (.cpuFrequency minKhz maxKhz))) ∧
      ∀ fixture current, Mirrors fixture policy files current →
        (Accepts sysfs policy files
            (sysfs.validateDesired (.frequency policy) (.cpuFrequency minKhz maxKhz)) ↔
          fixture.validateDesired (.frequency policy) (.cpuFrequency minKhz maxKhz) = .ok ())) ↔
    (minKhz.isSome = true ∧ maxKhz.isSome = true) ∨
      (minKhz.getD files.range.min).get ≤ (maxKhz.getD files.range.max).get ∨
      CpuSysfs.outside files.hardwareMin files.hardwareMax (minKhz.getD files.range.min) = true ∨
      CpuSysfs.outside files.hardwareMin files.hardwareMax (maxKhz.getD files.range.max) = true := by
  rw [accepts_validateDesired_iff, accepts_writeFrequency_iff]
  have uncrossed := crossed_eq_false_iff files.range minKhz maxKhz
  constructor
  · rintro ⟨written, -⟩
    by_cases named : minKhz.isSome = true ∧ maxKhz.isSome = true
    · exact .inl named
    · have crossed := uncrossed.mpr fun both => absurd both named
      by_cases ordered : (minKhz.getD files.range.min).get ≤ (maxKhz.getD files.range.max).get
      · exact .inr (.inl ordered)
      · apply Or.inr
        apply Or.inr
        by_contra inside
        rw [not_or, Bool.not_eq_true, Bool.not_eq_true] at inside
        exact ordered (written ⟨crossed, inside⟩).2
  · intro judged
    have ordered (crossed : CpuSysfs.crossed minKhz maxKhz = false)
        (inside : CpuSysfs.outside files.hardwareMin files.hardwareMax
          (minKhz.getD files.range.min) = false)
        (inside' : CpuSysfs.outside files.hardwareMin files.hardwareMax
          (maxKhz.getD files.range.max) = false) :
        (minKhz.getD files.range.min).get ≤ (maxKhz.getD files.range.max).get := by
      rcases judged with named | ordered | outside | outside
      · exact uncrossed.mp crossed named
      · exact ordered
      · exact absurd (inside.symm.trans outside) (by decide)
      · exact absurd (inside'.symm.trans outside) (by decide)
    constructor
    · rintro ⟨crossed, inside, inside'⟩
      exact ⟨crossed, ordered crossed inside inside'⟩
    · intro fixture current mirrors
      rw [mirrors.validateDesired_iff]
      constructor
      · rintro ⟨crossed, inside, inside'⟩
        exact ⟨crossed, ordered crossed inside inside', inside, inside'⟩
      · rintro ⟨crossed, -, inside, inside'⟩
        exact ⟨crossed, inside, inside'⟩

namespace Fixture

/-- A range inside the bounds of its hardware. -/
def files : PolicyFiles :=
  ⟨⟨⟨1000000, rfl⟩, ⟨2000000, rfl⟩⟩, some Fixtures.lowest, some Fixtures.highest⟩

def policyOfFiles : CpuFixturePolicy :=
  ⟨[], [], ⟨1000000, rfl⟩, ⟨2000000, rfl⟩, Fixtures.lowest, Fixtures.highest⟩

def cpuFixture : CpuFixture :=
  ⟨fun _ => some policyOfFiles, none⟩

end Fixture

open PolicyFiles in
/-- A minimum above the current maximum is admitted, and refused by the write
and by the fixture. -/
theorem admission_raisedMinimum :
    let sysfs : CpuSysfs := ⟨["sys"]⟩
    let raised : TypedValue := .cpuFrequency (some ⟨3000000, rfl⟩) none
    Mirrors Fixture.cpuFixture ⟨0⟩ Fixture.files Fixture.policyOfFiles ∧
      Fixture.files.range.Ordered ∧
      Accepts sysfs ⟨0⟩ Fixture.files (sysfs.validateDesired (.frequency ⟨0⟩) raised) ∧
      ¬Accepts sysfs ⟨0⟩ Fixture.files (sysfs.writeFrequency ⟨0⟩ raised) ∧
      Fixture.cpuFixture.validateDesired (.frequency ⟨0⟩) raised ≠ .ok () := by
  intro sysfs raised
  have mirrors : Mirrors Fixture.cpuFixture ⟨0⟩ Fixture.files Fixture.policyOfFiles :=
    ⟨rfl, rfl, rfl, rfl⟩
  have crossing : ¬(3000000 : UInt64) ≤ 2000000 := by decide
  constructor
  · exact mirrors
  constructor
  · show (1000000 : UInt64) ≤ 2000000
    decide
  constructor
  · rw [accepts_validateDesired_iff]
    decide
  constructor
  · rw [accepts_writeFrequency_iff]
    exact fun both => crossing both.2
  · rw [Ne, mirrors.validateDesired_iff]
    exact fun all => crossing all.2.1

end Sysboost.Linux.Cpu
