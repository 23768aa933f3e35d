import Sysboost.Kernel.Contents
import Sysboost.Linux.CpuFrequency
import Sysboost.Planner.Legible

/-!
# What the controls of a CPU hold

Each control of the CPU backend has its own files.  A read of a control returns what
they hold, a write of one changes no other, and the stages of the backend keep to this
whatever fails.
-/

namespace Sysboost.Linux.Cpu

open Sysboost.Core Sysboost.Planner ByteCodec Interaction Kernel Results

/-! ## Controls and their files -/

/-- What a mutation acts on. -/
inductive CpuControl where
  | governor (policy : CpuPolicyId)
  | energyPreference (policy : CpuPolicyId)
  | frequency (policy : CpuPolicyId)
  | boost
  | platformProfile
  /-- Nothing of this backend. -/
  | foreign
deriving DecidableEq

def CpuNode.control : CpuNode → CpuControl
  | .governor policy => .governor policy
  | .energyPreference policy => .energyPreference policy
  | .frequency policy => .frequency policy
  | .boost _ => .boost
  | .platformProfile => .platformProfile

/-- The control that a mutation acts on. -/
def controlOf (mutation : PlannedMutation) : CpuControl :=
  match CpuBackend.nodeForMutation mutation with
  | .ok node => node.control
  | .error _ => .foreign

theorem controlOf_eq {mutation : PlannedMutation} {node : CpuNode}
    (selected : CpuBackend.nodeForMutation mutation = .ok node) :
    controlOf mutation = node.control := by
  rw [controlOf, selected]

namespace CpuSysfs

variable (sysfs : CpuSysfs) (interface : CpuBoostInterface)

/-- The directory of all policies. -/
def cpufreqPath : Path :=
  sysfs.root ++ ["devices", "system", "cpu", "cpufreq"]

def boostName : CpuBoostInterface → String
  | .boost => "boost"
  | .noTurbo => "no_turbo"

def boostFile (interface : CpuBoostInterface) : Path :=
  sysfs.cpufreqPath ++ [boostName interface]

def profileFile : Path :=
  sysfs.root ++ ["firmware", "acpi", "platform_profile"]

/-- The files of a control, where this boost interface exists. -/
def files : CpuControl → List Path
  | .governor policy => [sysfs.policyPath policy ++ ["scaling_governor"]]
  | .energyPreference policy => [sysfs.policyPath policy ++ ["energy_performance_preference"]]
  | .frequency policy => [sysfs.minFile policy, sysfs.maxFile policy]
  | .boost => [sysfs.boostFile interface]
  | .platformProfile => [sysfs.profileFile]
  | .foreign => []

/-- Where a node is found: a file, or the directory of a range. -/
def located : CpuNode → Path × Option CpuBoostInterface
  | .governor policy => (sysfs.policyPath policy ++ ["scaling_governor"], none)
  | .energyPreference policy => (sysfs.policyPath policy ++ ["energy_performance_preference"], none)
  | .frequency policy => (sysfs.policyPath policy, none)
  | .boost _ => (sysfs.boostFile interface, some interface)
  | .platformProfile => (sysfs.profileFile, none)

/-- The other boost interface does not exist. -/
def Missing (path : Path) : Prop :=
  ∃ other, other ≠ interface ∧ path = sysfs.boostFile other

/-- The kernel keeps the files, of whose boost interfaces at most this one exists. -/
abbrev FilesLaw : Environment Kernel.Answer Contents :=
  ContentLaw (sysfs.Missing interface)

/-- The typed value of what the files of a control hold. -/
def typed (contents : Contents) : CpuControl → Except SysboostError TypedValue
  | .governor policy =>
      parseRaw (.governor policy) (contents (sysfs.policyPath policy ++ ["scaling_governor"])) none
  | .energyPreference policy =>
      parseRaw (.energyPreference policy)
        (contents (sysfs.policyPath policy ++ ["energy_performance_preference"])) none
  | .frequency policy =>
      parseRaw (.frequency policy)
        (contents (sysfs.minFile policy) ++ [0] ++ contents (sysfs.maxFile policy)) none
  | .boost => parseRaw (.boost none) (contents (sysfs.boostFile interface)) (some interface)
  | .platformProfile => parseRaw .platformProfile (contents sysfs.profileFile) none
  | .foreign => .error (unsupported "CPU backend does not own this typed operation")

/-- The fingerprint of what a control holds; there is one of nothing as well. -/
def holding (contents : Contents) (control : CpuControl) : StateFingerprint :=
  match sysfs.typed interface contents control with
  | .ok typed => fingerprintForValue (.typed typed)
  | .error _ => ⟨.fill 32 0⟩

/-- What a reading of a control tells. -/
structure Shows (contents : Contents) (control : CpuControl) (state : CpuNodeState) : Prop where
  fingerprint : state.fingerprint = sysfs.holding interface contents control
  boost : control = .boost → state.boostInterface = some interface
  checked : state.typed.checked = true

/-! ### Every file belongs to one control -/

theorem policyName_inj {policy other : CpuPolicyId} :
    policyName policy = policyName other ↔ policy = other := by
  constructor
  · intro same
    have digits : toString policy.get = toString other.get := by
      simpa [policyName] using same
    have numbers : policy.get = other.get := UInt32.toNat_inj.mp (repr_injective digits)
    cases policy
    cases other
    cases numbers
    rfl
  · rintro rfl
    rfl

theorem files_apart (control other : CpuControl) :
    ∀ path ∈ sysfs.files interface control, ∀ path' ∈ sysfs.files interface other,
      path = path' → control = other := by
  cases control <;> cases other <;>
    simp [files, policyPath, minFile, maxFile, boostFile, cpufreqPath, profileFile, policyName_inj]

variable {sysfs interface} in
/-- What changes in the files of a control is seen at this control only. -/
theorem holding_other {before after : Contents} {control other : CpuControl}
    (same : SameBut (sysfs.files interface control) before after) (apart : other ≠ control) :
    sysfs.holding interface after other = sysfs.holding interface before other := by
  have kept {path : Path} (its : path ∈ sysfs.files interface other) :
      after path = before path :=
    same path fun mine => apart (sysfs.files_apart interface other control path its path mine rfl)
  have typed : sysfs.typed interface after other = sysfs.typed interface before other := by
    cases other with
    | frequency policy =>
        have min : after (sysfs.minFile policy) = before (sysfs.minFile policy) :=
          kept List.mem_cons_self
        have max : after (sysfs.maxFile policy) = before (sysfs.maxFile policy) :=
          kept (List.mem_cons_of_mem _ List.mem_cons_self)
        simp only [CpuSysfs.typed, min, max]
    | foreign => rfl
    | _ => simp only [CpuSysfs.typed, kept (by rw [files, List.mem_singleton])]
  rw [holding, typed, holding]

/-! ## Reading -/

/-- What is read was made by a checked constructor. -/
theorem checked_of_parseRaw {node : CpuNode} {raw : Bytes} {chosen : Option CpuBoostInterface}
    {typed : TypedValue} (parsed : parseRaw node raw chosen = .ok typed) :
    typed.checked = true := by
  cases node with
  | governor policy =>
      rcases bind_eq_ok_iff.mp parsed with ⟨value, -, parsed⟩
      cases parsed
      rfl
  | energyPreference policy =>
      rcases bind_eq_ok_iff.mp parsed with ⟨value, -, parsed⟩
      cases parsed
      rfl
  | frequency policy =>
      simp only [parseRaw] at parsed
      split at parsed
      · rcases bind_eq_ok_iff.mp parsed with ⟨min, -, parsed⟩
        rcases bind_eq_ok_iff.mp parsed with ⟨max, -, parsed⟩
        cases parsed
        rfl
      · cases parsed
  | boost other =>
      cases chosen with
      | none => cases parsed
      | some chosen =>
          rcases bind_eq_ok_iff.mp parsed with ⟨value, -, parsed⟩
          cases parsed
          rfl
  | platformProfile =>
      rcases bind_eq_ok_iff.mp parsed with ⟨value, -, parsed⟩
      cases parsed
      rfl

theorem descendCpufreq_finds (current : Path) (components : List String) :
    Finds (· = current ++ components) (descendCpufreq current components) := by
  induction components generalizing current with
  | nil =>
      apply Finds.pure
      simp
  | cons component rest ih =>
      refine Finds.after_reads (Reads.attempt (onlyReads_perform rfl)) fun _ => ?_
      apply Finds.after_reads (.refuseIf _ _)
      intro _
      simpa using ih (current ++ [component])

theorem cpufreqDir_finds : Finds (· = sysfs.cpufreqPath) sysfs.cpufreqDir :=
  descendCpufreq_finds _ _

theorem boostCandidates_named (chosen : Option CpuBoostInterface) :
    ∀ candidate ∈ boostCandidates chosen, candidate.1 = boostName candidate.2 := by
  rcases chosen with _ | _ | _ <;> simp [boostCandidates, boostName]

theorem selectBoost_finds (directory : Path) (candidates : List (String × CpuBoostInterface)) :
    Finds (fun found => ∃ candidate ∈ candidates,
      found = (directory ++ [candidate.1], candidate.2)) (selectBoost directory candidates) := by
  induction candidates with
  | nil => exact Within.ret_iff.mpr nofun
  | cons candidate rest ih =>
      refine Within.lift_seq (onlyReads_perform rfl) fun answer _ => ?_
      split
      · split
        · exact Within.ret_iff.mpr nofun
        · split
          · exact Finds.pure ⟨candidate, List.mem_cons_self, rfl⟩
          · exact Within.ret_iff.mpr nofun
      · refine Within.mono ih fun result known found ok => ?_
        rcases known found ok with ⟨other, member, same⟩
        exact ⟨other, List.mem_cons_of_mem _ member, same⟩
      · exact Within.ret_iff.mpr nofun

theorem boostPath_finds :
    Finds (· = (sysfs.boostFile interface, some interface))
      (sysfs.nodePath (.boost interface)) := by
  apply Finds.bind sysfs.cpufreqDir_finds
  rintro _ rfl
  apply Finds.bind (selectBoost_finds _ _)
  rintro _ ⟨candidate, member, rfl⟩
  have chosen : candidate = (boostName interface, interface) := by
    cases interface <;> exact List.mem_singleton.mp member
  rw [chosen]
  exact .pure rfl

/-- Where the nodes are found that are no boost interface. -/
theorem nodePath_finds {node : CpuNode} (other : ∀ chosen, node ≠ .boost chosen) :
    Finds (· = sysfs.located interface node) (sysfs.nodePath node) := by
  cases node with
  | governor policy =>
      apply Finds.bind (sysfs.policyFile_finds policy _)
      rintro _ rfl
      exact .pure rfl
  | energyPreference policy =>
      apply Finds.bind (sysfs.policyFile_finds policy _)
      rintro _ rfl
      exact .pure rfl
  | frequency policy =>
      apply Finds.bind (sysfs.policyDir_finds policy)
      rintro _ rfl
      exact .pure rfl
  | boost chosen => exact absurd rfl (other chosen)
  | platformProfile =>
      apply Finds.bind (sysfs.checkedComponentPath_finds _ _)
      rintro _ rfl
      apply Finds.pure
      simp [located, profileFile]

section Reading

variable {guard : Contents → Kernel.Call → Prop} {held world : Contents}
  (guarded : ∀ call, guard held call) (same : id world = held)

include guarded same

/-- A file is read in full. -/
theorem readFile_holds (path : Path) :
    Alone (sysfs.FilesLaw interface) guard (Holds id held (· = held path))
      (readFile path).run world := by
  have keeping : Keeping (sysfs.FilesLaw interface) guard id held _ := keeping_contents guarded
  apply keeping.seq (Reads.attempt (onlyReads_perform rfl)) same fun _ _ => Holds.error
  intro _ opened same
  apply keeping.seq (Reads.attempt (onlyReads_perform rfl)) same fun _ _ => Holds.error
  intro _ inspected same
  apply keeping.seq (Reads.refuseIf _ _) same fun _ _ => Holds.error
  rintro _ regular rfl
  apply Alone.perform_bind_iff.mpr
  constructor
  · exact guarded _
  intro answer after law
  cases answer with
  | error kind => exact Alone.ret_iff.mpr (Holds.error law)
  | ok bytes =>
      refine Alone.refuseIf_seq (Holds.error law.1) fun small => ?_
      have short : bytes.length < maxCpuReadBytes + 1 := by
        rw [decide_eq_false_iff_not] at small
        omega
      exact Alone.ret_iff.mpr (Holds.ok (law.read_all short) law.1)

/-- The interface that is selected is the one that exists. -/
theorem selectBoost_holds {candidates : List (String × CpuBoostInterface)}
    (named : ∀ candidate ∈ candidates, candidate.1 = boostName candidate.2) :
    Alone (sysfs.FilesLaw interface) guard
      (Holds id held fun found => found = (sysfs.boostFile interface, interface))
      (selectBoost sysfs.cpufreqPath candidates).run world := by
  induction candidates generalizing world with
  | nil => exact Alone.ret_iff.mpr (Holds.error same)
  | cons candidate rest ih =>
      rcases candidate with ⟨name, selected⟩
      rw [List.forall_mem_cons] at named
      rcases named with ⟨first, named⟩
      obtain rfl : name = boostName selected := first
      subst same
      apply Alone.perform_bind_iff.mpr
      constructor
      · exact guarded _
      intro answer after law
      cases answer with
      | error kind =>
          have same : id after = id world := law
          cases kind with
          | notFound => exact ih same named
          | _ => exact Alone.ret_iff.mpr (Holds.error same)
      | ok metadata =>
          rcases law with ⟨same, exists_⟩
          have present : selected = interface := by
            by_contra other
            exact exists_ ⟨selected, other, rfl⟩
          subst present
          change Alone _ _ _ (ite (metadata.fileType = .symlink) _ _ : Io _).run after
          split
          · exact Alone.ret_iff.mpr (Holds.error same)
          · split
            · exact Alone.ret_iff.mpr (Holds.ok rfl same)
            · exact Alone.ret_iff.mpr (Holds.error same)

/-- A node is found where it is located. -/
theorem nodePath_holds (node : CpuNode) :
    Alone (sysfs.FilesLaw interface) guard (Holds id held (· = sysfs.located interface node))
      (sysfs.nodePath node).run world := by
  have keeping : Keeping (sysfs.FilesLaw interface) guard id held _ := keeping_contents guarded
  cases node with
  | boost chosen =>
      apply Holds.seq (keeping.holds sysfs.cpufreqDir_finds same) fun _ _ => Holds.error
      rintro _ after rfl same
      apply Holds.seq (sysfs.selectBoost_holds interface guarded same (boostCandidates_named chosen))
        fun _ _ => Holds.error
      rintro _ after rfl same
      exact Alone.ret_iff.mpr (Holds.ok rfl same)
  | _ => exact keeping.holds (sysfs.nodePath_finds interface (by simp)) same

/-- What is read of a node that is one file. -/
theorem rawNode_holds {node : CpuNode} (single : ∀ policy, node ≠ .frequency policy) :
    Alone (sysfs.FilesLaw interface) guard
      (Holds id held fun read => read.1 = held (sysfs.located interface node).1 ∧
        read.2.2 = (sysfs.located interface node).2)
      (sysfs.rawNode node).run world := by
  have keeping : Keeping (sysfs.FilesLaw interface) guard id held _ := keeping_contents guarded
  apply Holds.seq (sysfs.nodePath_holds interface guarded same node) fun _ _ => Holds.error
  rintro _ after rfl same
  have read : Alone (sysfs.FilesLaw interface) guard
      (Holds id held fun read => read.1 = held (sysfs.located interface node).1 ∧
        read.2.2 = (sysfs.located interface node).2) (do
        let raw ← readFile (sysfs.located interface node).1
        let identity ← nodeIdentity (sysfs.located interface node).1
        return (raw, identity, (sysfs.located interface node).2) : Io _).run after := by
    apply Holds.seq (sysfs.readFile_holds interface guarded same _) fun _ _ => Holds.error
    rintro _ read rfl same
    apply keeping.seq (nodeIdentity_quiet _).reads same fun _ _ => Holds.error
    exact fun _ _ same => Alone.ret_iff.mpr (Holds.ok ⟨rfl, rfl⟩ same)
  cases node with
  | frequency policy => exact absurd rfl (single policy)
  | _ => exact read

/-- Both files of a range are read. -/
theorem rawNode_holds_frequency (policy : CpuPolicyId) :
    Alone (sysfs.FilesLaw interface) guard
      (Holds id held fun read =>
        read.1 = held (sysfs.minFile policy) ++ [0] ++ held (sysfs.maxFile policy))
      (sysfs.rawNode (.frequency policy)).run world := by
  have keeping : Keeping (sysfs.FilesLaw interface) guard id held _ := keeping_contents guarded
  have file (name : String) {world : Contents} (same : id world = held) :
      Alone (sysfs.FilesLaw interface) guard
        (Holds id held (· = sysfs.policyPath policy ++ [name])) (sysfs.policyFile policy name).run
        world :=
    keeping.holds (sysfs.policyFile_finds policy name) same
  apply keeping.seq (sysfs.nodePath_quiet _).reads same fun _ _ => Holds.error
  rintro ⟨directory, selected⟩ found same
  apply Holds.seq (file "scaling_min_freq" same) fun _ _ => Holds.error
  rintro _ named rfl same
  apply Holds.seq (sysfs.readFile_holds interface guarded same _) fun _ _ => Holds.error
  rintro _ between rfl same
  apply Holds.seq (file "scaling_max_freq" same) fun _ _ => Holds.error
  rintro _ named rfl same
  apply Holds.seq (sysfs.readFile_holds interface guarded same _) fun _ _ => Holds.error
  rintro _ read rfl same
  apply keeping.seq (sysfs.policyDir_finds policy).reads same fun _ _ => Holds.error
  intro _ walked same
  apply keeping.seq (directoryIdentity_quiet _).reads same fun _ _ => Holds.error
  exact fun _ _ same => Alone.ret_iff.mpr (Holds.ok rfl same)

/-- What is read of a node is what its control holds. -/
theorem rawNode_typed (node : CpuNode) :
    Alone (sysfs.FilesLaw interface) guard
      (Holds id held fun read =>
        parseRaw node read.1 read.2.2 = sysfs.typed interface held node.control ∧
          (node.control = .boost → read.2.2 = some interface))
      (sysfs.rawNode node).run world := by
  have shown {read : Bytes × TargetIdentity × Option CpuBoostInterface}
      (single : ∀ policy, node ≠ .frequency policy)
      (known : read.1 = held (sysfs.located interface node).1 ∧
        read.2.2 = (sysfs.located interface node).2) :
      parseRaw node read.1 read.2.2 = sysfs.typed interface held node.control ∧
        (node.control = .boost → read.2.2 = some interface) := by
    rw [known.1, known.2]
    cases node with
    | frequency policy => exact absurd rfl (single policy)
    | boost chosen => exact ⟨rfl, fun _ => rfl⟩
    | _ => exact ⟨rfl, nofun⟩
  by_cases range : ∃ policy, node = .frequency policy
  · rcases range with ⟨policy, rfl⟩
    apply Safe.mono (sysfs.rawNode_holds_frequency interface guarded same policy)
    rintro result after ⟨known, same⟩
    refine ⟨fun read ok => ⟨?_, nofun⟩, same⟩
    rw [known read ok]
    rfl
  · rw [not_exists] at range
    apply Safe.mono (sysfs.rawNode_holds interface guarded same range)
    rintro result after ⟨known, same⟩
    exact ⟨fun read ok => shown range (known read ok), same⟩

/-- A reading tells what the control holds, and which boost interface there is. -/
theorem read_holds (node : CpuNode) :
    Alone (sysfs.FilesLaw interface) guard
      (Holds id held (sysfs.Shows interface held node.control)) (sysfs.read node).run world := by
  apply Holds.seq (sysfs.rawNode_typed interface guarded same node) fun _ _ => Holds.error
  rintro ⟨raw, identity, chosen⟩ after ⟨parsed, boost⟩ same
  apply Alone.check_seq fun _ => Holds.error same
  intro typed known
  apply Alone.check_seq fun _ => Holds.error same
  intro bounded _
  have checked := checked_of_parseRaw known
  rw [parsed] at known
  refine Alone.ret_iff.mpr (Holds.ok ⟨?_, boost, checked⟩ same)
  rw [holding, known]

end Reading

/-! ## Writing -/

section WritingFiles

variable {files : List Path}

theorem writeFile_only {path : Path} (member : path ∈ files) (value : String) :
    WritesOnly files (writeFile path value) := by
  apply WritesOnly.after_reads (.refuseIf _ _)
  intro _
  apply WritesOnly.after_reads (validateFinalFile_quiet _).reads
  intro _
  refine WritesOnly.bind (.attempt (within_perform trivial)) fun _ => ?_
  exact .attempt (within_perform member)

theorem writeEnd_only {policy : CpuPolicyId} {file : String}
    (member : sysfs.policyPath policy ++ [file] ∈ files) (desired : Option FrequencyKHz)
    (current : FrequencyKHz) : WritesOnly files (sysfs.writeEnd policy file desired current) := by
  cases desired with
  | none => exact WritesOnly.of_reads (.pure _)
  | some value =>
      simp only [writeEnd]
      split
      · apply WritesOnly.after_finds (sysfs.policyFile_finds policy file)
        rintro _ rfl
        exact writeFile_only member _
      · exact WritesOnly.of_reads (.pure _)

theorem writeFrequency_only (policy : CpuPolicyId) (desired : TypedValue) :
    WritesOnly [sysfs.minFile policy, sysfs.maxFile policy]
      (sysfs.writeFrequency policy desired) := by
  have min (wanted : Option FrequencyKHz) (current : FrequencyKHz) :
      WritesOnly [sysfs.minFile policy, sysfs.maxFile policy]
        (sysfs.writeEnd policy "scaling_min_freq" wanted current) :=
    sysfs.writeEnd_only List.mem_cons_self wanted current
  have max (wanted : Option FrequencyKHz) (current : FrequencyKHz) :
      WritesOnly [sysfs.minFile policy, sysfs.maxFile policy]
        (sysfs.writeEnd policy "scaling_max_freq" wanted current) :=
    sysfs.writeEnd_only (List.mem_cons_of_mem _ List.mem_cons_self) wanted current
  cases desired with
  | cpuFrequency minKhz maxKhz =>
      apply WritesOnly.after_reads (sysfs.currentRange_quiet _).reads
      rintro ⟨currentMin, currentMax⟩
      apply WritesOnly.after_reads (.refuseIf _ _)
      intro _
      apply WritesOnly.after_reads (.refuseIf _ _)
      intro _
      split
      · exact (min _ _).bind fun _ => max _ _
      · exact (max _ _).bind fun _ => min _ _
  | _ => exact WritesOnly.of_reads (.throw _)

/-- A write to a node goes to the files of its control, when the node names the boost
interface that exists. -/
theorem write_only {node : CpuNode} (resolved : node.control = .boost → node = .boost interface)
    (desired : TypedValue) :
    WritesOnly (sysfs.files interface node.control) (sysfs.write node desired) := by
  cases node with
  | governor policy =>
      cases desired with
      | governor value =>
          apply WritesOnly.after_finds (sysfs.policyFile_finds policy _)
          rintro _ rfl
          exact writeFile_only List.mem_cons_self _
      | _ => exact WritesOnly.of_reads (.throw _)
  | energyPreference policy =>
      cases desired with
      | energyPreference value =>
          apply WritesOnly.after_finds (sysfs.policyFile_finds policy _)
          rintro _ rfl
          exact writeFile_only List.mem_cons_self _
      | _ => exact WritesOnly.of_reads (.throw _)
  | frequency policy => exact sysfs.writeFrequency_only policy desired
  | boost chosen =>
      obtain rfl : chosen = some interface := CpuNode.boost.inj (resolved rfl)
      cases desired with
      | cpuBoost state =>
          apply WritesOnly.after_finds (sysfs.boostPath_finds interface)
          rintro _ rfl
          exact writeFile_only List.mem_cons_self _
      | _ => exact WritesOnly.of_reads (.throw _)
  | platformProfile =>
      cases desired with
      | platformProfile value =>
          apply WritesOnly.after_finds (sysfs.nodePath_finds interface (by simp))
          rintro _ rfl
          exact writeFile_only List.mem_cons_self _
      | _ => exact WritesOnly.of_reads (.throw _)

end WritingFiles

end CpuSysfs

end Sysboost.Linux.Cpu
