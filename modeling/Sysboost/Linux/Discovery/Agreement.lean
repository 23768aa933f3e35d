import Sysboost.Linux.CpuReading
import Sysboost.Linux.Discovery.Safety
import Sysboost.Linux.RootedFilesystem
import Sysboost.Planner.Outcome
import Mathlib.Data.List.ReduceOption

/-!
# Discovery and the CPU backend on one tree

Discovery reads the CPU controls of a tree through the rooted adapter, and the
backend reads them through its own.  They find the same values, but discovery
identifies the governor and the energy preference of a policy by the directory
of the policy, and the backend by their files.
-/

namespace Sysboost.Linux.Discovery

open Sysboost.Core Sysboost.Platform Sysboost.Planner ByteCodec Kernel Results
open Cpu (CpuBackend CpuBoostInterface CpuNode CpuNodeState CpuSysfs Gives Holds Identifies)

/-! ## Paths -/

theorem splitAll_policyPath (policyId : UInt32) :
    splitAll '/' (policyPath policyId) = CpuSysfs.policyComponents ⟨policyId⟩ := by
  have joined : policyPath policyId = cpufreqPath ++ "/" ++ CpuSysfs.policyName ⟨policyId⟩ := by
    have front : cpufreqPath ++ "/policy" = cpufreqPath ++ "/" ++ "policy" := rfl
    rw [policyPath, front, String.append_assoc]
    rfl
  have name : '/' ∉ (CpuSysfs.policyName ⟨policyId⟩).toList := by
    rw [CpuSysfs.policyName, String.toList_append, List.mem_append, not_or]
    constructor
    · decide
    · exact fun member => absurd (isDigit_of_mem_toString member) (by decide)
  have front : splitAll '/' cpufreqPath = CpuSysfs.cpufreqComponents := by decide
  rw [joined, splitAll_append, front, splitAll_of_absent name]
  rfl

theorem splitAll_policyFile (policyId : UInt32) {path file : String} (path_eq : path = "/" ++ file)
    (name : '/' ∉ file.toList) :
    splitAll '/' (policyPath policyId ++ path) =
      CpuSysfs.policyComponents ⟨policyId⟩ ++ [file] := by
  rw [path_eq, ← String.append_assoc, splitAll_append, splitAll_policyPath,
    splitAll_of_absent name]

/-! ## One file, two readers -/

variable {filesystem : RootedFilesystem} {value text : String}

/-- The text that discovery reads of a file is the one that the backend reads. -/
theorem text_of_reads {bytes : Bytes} (reads : Reads filesystem.port value text)
    (held : Holds filesystem.tree (filesystem.root ++ splitAll '/' value) bytes) :
    Cpu.text bytes = .ok text := by
  obtain ⟨path, found, raw, made, read, -, decodes, rfl⟩ := reads
  obtain ⟨-, whole⟩ := RootedFilesystem.read_eq_ok_iff.mp read
  rw [RelativePath.asStr_of_new made, held.read] at whole
  cases whole
  rw [Cpu.text, decodes]

/-- What the backend reads of a file, discovery reads as well. -/
theorem reads_of_held {bytes : Bytes} (valid : validatePath value = .ok ())
    (walkable : Walkable filesystem.tree.symlinkMetadata filesystem.root (splitAll '/' value))
    (held : Holds filesystem.tree (filesystem.root ++ splitAll '/' value) bytes)
    (decodes : Cpu.text bytes = .ok text) : Reads filesystem.port value text := by
  unfold Cpu.text at decodes
  split at decodes
  next raw known =>
    cases decodes
    refine ⟨_, bytes, raw, RelativePath.new_of_valid valid, ?_, ?_, known, rfl⟩
    · exact RootedFilesystem.read_eq_ok_iff.mpr ⟨walkable, held.read⟩
    · exact held.small.trans (by decide)
  · cases decodes

/-- Discovery identifies the object at the path. -/
theorem identifies_of_probe {identity : TargetIdentity}
    (probed : probeIdentity filesystem.port value = .ok (some identity)) :
    Identifies filesystem.tree (filesystem.root ++ splitAll '/' value) identity := by
  obtain ⟨path, found, probed⟩ := bind_eq_ok_iff.mp probed
  have same := RelativePath.asStr_of_new (expect_eq_ok_iff.mp found)
  obtain ⟨known, -⟩ := Option.filter_eq_some_iff.mp (Except.ok.inj probed)
  have accepted : filesystem.identity path = .ok identity := by
    cases result : filesystem.port.identity path with
    | error error =>
        rw [result] at known
        cases known
    | ok shown =>
        rw [result] at known
        cases known
        exact result
  rw [← same]
  exact (RootedFilesystem.identity_eq_ok accepted).2

/-! ## Where the facts come from -/

theorem detectCpufreq_eq_ok {sysfs : ReadOnlyFileSystem} {facts : CpuFreqFacts}
    {findings : List CapabilityFinding} (ok : detectCpufreq sysfs = .ok (facts, findings)) :
    (∃ boost noTurbo, readText sysfs (boostPath .boost) = .ok boost ∧
      readText sysfs (boostPath .noTurbo) = .ok noTurbo ∧
      facts.boost = boost.value.or noTurbo.value ∧
      facts.boostInterface = boostInterface boost noTurbo ∧
      probeBoostIdentity sysfs facts.boostInterface = .ok facts.boostTargetIdentity) ∧
      ∃ profile, readText sysfs platformProfilePath = .ok profile ∧
        facts.platformProfile = profile.value ∧
        probeIdentity sysfs platformProfilePath = .ok facts.platformProfileTargetIdentity := by
  obtain ⟨_, -, ok⟩ := bind_eq_ok_iff.mp ok
  obtain ⟨boost, boostRead, ok⟩ := bind_eq_ok_iff.mp ok
  obtain ⟨noTurbo, noTurboRead, ok⟩ := bind_eq_ok_iff.mp ok
  obtain ⟨boostIdentity, boostProbed, ok⟩ := bind_eq_ok_iff.mp ok
  obtain ⟨profile, profileRead, ok⟩ := bind_eq_ok_iff.mp ok
  obtain ⟨_, -, ok⟩ := bind_eq_ok_iff.mp ok
  obtain ⟨profileIdentity, profileProbed, ok⟩ := bind_eq_ok_iff.mp ok
  obtain ⟨_, -, ok⟩ := bind_eq_ok_iff.mp ok
  cases ok
  exact ⟨⟨boost, noTurbo, boostRead, noTurboRead, rfl, rfl, boostProbed⟩,
    profile, profileRead, rfl, profileProbed⟩

/-- The node that a fact about a CPU control is about. -/
def nodeOf (fact : CurrentStateFact) : Option CpuNode :=
  match fact.control, fact.typedTarget with
  | .cpuGovernor, some (.cpuPolicy policy) => some (.governor policy)
  | .cpuEnergyPreference, some (.cpuPolicy policy) => some (.energyPreference policy)
  | .cpuFrequency, some (.cpuPolicy policy) => some (.frequency policy)
  | .cpuBoost, some .cpuSystem => some (.boost none)
  | .platformProfile, some .cpuSystem => some .platformProfile
  | _, _ => none

/-- Discovery and the backend identify the node by the same object. -/
def SameObject {root : Path} (tree : Tree root) : CpuNode → Prop
  | .governor policy =>
      Cpu.SharesObject tree (root ++ CpuSysfs.policyComponents policy)
        (root ++ CpuSysfs.policyComponents policy ++ ["scaling_governor"])
  | .energyPreference policy =>
      Cpu.SharesObject tree (root ++ CpuSysfs.policyComponents policy)
        (root ++ CpuSysfs.policyComponents policy ++ ["energy_performance_preference"])
  | .frequency _ | .boost _ | .platformProfile => True

/-- A fact has the value of a node, and its identity where both are those of one
object. -/
structure Observes (filesystem : RootedFilesystem) (node : CpuNode) (fact : CurrentStateFact)
    (observed : CpuNodeState) : Prop where
  value : fact.value = .known (.typed observed.typed)
  fingerprint : fact.fingerprint = some (fingerprintForValue (.typed observed.typed))
  identity : ∀ identity, fact.targetIdentity = some identity →
    (identity = observed.targetIdentity ↔ SameObject filesystem.tree node)

theorem Observes.of_typed {node : CpuNode} {fact : CurrentStateFact} {observed : CpuNodeState}
    {value : TypedValue} (known : fact.value = .known (.typed value))
    (fingerprint : fact.fingerprint = some (fingerprintForValue (.typed value)))
    (typed : observed.typed = value)
    (identity : ∀ identity, fact.targetIdentity = some identity →
      (identity = observed.targetIdentity ↔ SameObject filesystem.tree node)) :
    Observes filesystem node fact observed := by
  subst typed
  exact ⟨known, fingerprint, identity⟩

/-! ## The controls of a policy -/

section Policy

variable {cpufreq : CpuFreqFacts} {findings : List CapabilityFinding}
  {policy : CpuFreqPolicyFacts} {target : TargetId} {fact : CurrentStateFact}
  {observed : CpuNodeState}

/-- The probes behind the facts about a policy. -/
theorem exists_probes (detected : detectCpufreq filesystem.port = .ok (cpufreq, findings))
    (member : policy ∈ cpufreq.policies) :
    ∃ probes, readPolicy filesystem.port (policyPath policy.id) = .ok probes ∧
      policy.currentGovernor = probes.currentGovernor.value ∧
      policy.energyPerformancePreference = probes.epp.value ∧
      policy.minKhz = probes.min.value ∧ policy.maxKhz = probes.max.value ∧
      ∀ identity, policy.targetIdentity = some identity →
        Identifies filesystem.tree (filesystem.root ++ CpuSysfs.policyComponents ⟨policy.id⟩)
          identity := by
  obtain ⟨policyId, findings, -, made⟩ := (mem_policies_iff detected).mp member
  obtain ⟨identity, probes, probed, read, rfl⟩ := detectPolicy_eq_ok made
  refine ⟨probes, read, rfl, rfl, rfl, rfl, ?_⟩
  rintro identity' same
  cases same
  rw [← splitAll_policyPath]
  exact identifies_of_probe probed

/-- The text that discovery reads of a file of a policy. -/
theorem text_of_policyFile {policyId : UInt32} {path file : String} {probe : Probe String}
    {bytes : Bytes} (read : readText filesystem.port (policyPath policyId ++ path) = .ok probe)
    (present : probe.value = some text)
    (held : Holds filesystem.tree
      (filesystem.root ++ CpuSysfs.policyComponents ⟨policyId⟩ ++ [file]) bytes)
    (path_eq : path = "/" ++ file) (name : '/' ∉ file.toList) :
    Cpu.text bytes = .ok text := by
  apply text_of_reads ((reads_of_readText read).mp present)
  rw [splitAll_policyFile policyId path_eq name, ← List.append_assoc]
  exact held

/-- The number that discovery reads of a file is the one that the backend reads. -/
theorem frequency_of_probe {probe : Probe String} {number : UInt64} {frequency : FrequencyKHz}
    {bytes : Bytes} (read : (parseU64 probe).value = some number)
    (accepted : (FrequencyKHz.new number).toOption = some frequency)
    (decodes : ∀ text, probe.value = some text → Cpu.text bytes = .ok text) :
    Cpu.parseFrequency bytes = .ok frequency := by
  obtain ⟨text, present, parsed⟩ := value_bind.mp read
  rw [Cpu.parseFrequency_eq_ok_iff (decodes text present)]
  split at parsed
  next found known =>
    cases parsed
    exact ⟨found, known, toOption_eq_some_iff.mp accepted⟩
  · cases parsed

theorem observes_governor (detected : detectCpufreq filesystem.port = .ok (cpufreq, findings))
    (member : policy ∈ cpufreq.policies) (made : governorFact policy target = some fact)
    (gives : Gives filesystem.tree (CpuSysfs.read ⟨filesystem.root⟩ (.governor ⟨policy.id⟩))
      observed) :
    Observes filesystem (.governor ⟨policy.id⟩) fact observed := by
  obtain ⟨probes, probed, current, -, -, -, identified⟩ := exists_probes detected member
  obtain ⟨raw, interface, read, parsed, -⟩ := Cpu.gives_read gives
  obtain ⟨path, found, held, object⟩ := Cpu.gives_rawNode_file (by simp) read
  obtain ⟨file, located, found⟩ := (Interaction.Early.result_bind_ok_iff _).mp found
  cases found
  obtain ⟨rfl, -, -⟩ := CpuSysfs.gives_policyFile located
  obtain ⟨text, present, made⟩ := Option.bind_eq_some_iff.mp made
  obtain ⟨governor, accepted, made⟩ := Option.bind_eq_some_iff.mp made
  cases made
  have same := text_of_policyFile (readPolicy_eq_ok probed).1 (current.symm.trans present) held rfl
    (by decide)
  obtain ⟨governor', reparsed, typed⟩ := bind_eq_ok_iff.mp parsed
  rw [Cpu.parseGovernor_eq_ok_iff same, toOption_eq_some_iff.mp accepted] at reparsed
  cases reparsed
  exact .of_typed rfl rfl (Except.ok.inj typed).symm fun identity known =>
    (identified identity known).eq_iff object

theorem observes_preference (detected : detectCpufreq filesystem.port = .ok (cpufreq, findings))
    (member : policy ∈ cpufreq.policies) (made : preferenceFact policy target = .ok (some fact))
    (gives : Gives filesystem.tree
      (CpuSysfs.read ⟨filesystem.root⟩ (.energyPreference ⟨policy.id⟩)) observed) :
    Observes filesystem (.energyPreference ⟨policy.id⟩) fact observed := by
  obtain ⟨probes, probed, -, current, -, -, identified⟩ := exists_probes detected member
  obtain ⟨raw, interface, read, parsed, -⟩ := Cpu.gives_read gives
  obtain ⟨path, found, held, object⟩ := Cpu.gives_rawNode_file (by simp) read
  obtain ⟨file, located, found⟩ := (Interaction.Early.result_bind_ok_iff _).mp found
  cases found
  obtain ⟨rfl, -, -⟩ := CpuSysfs.gives_policyFile located
  cases present : policy.energyPerformancePreference with
  | none => simp [preferenceFact, present, pure, Except.pure] at made
  | some text =>
      simp only [preferenceFact, present] at made
      obtain ⟨shown, decided, made⟩ := bind_eq_ok_iff.mp made
      cases made
      have same := text_of_policyFile (readPolicy_eq_ok probed).2.1 (current.symm.trans present)
        held rfl (by decide)
      obtain ⟨preference, reparsed, typed⟩ := bind_eq_ok_iff.mp parsed
      rw [Cpu.parseEnergy_eq_ok_iff same] at reparsed
      rw [preferenceValue, reparsed] at decided
      cases decided
      exact .of_typed rfl rfl (Except.ok.inj typed).symm fun identity known =>
        (identified identity known).eq_iff object

theorem observes_frequency (detected : detectCpufreq filesystem.port = .ok (cpufreq, findings))
    (member : policy ∈ cpufreq.policies) (made : frequencyFact policy target = some fact)
    (gives : Gives filesystem.tree
      (CpuSysfs.read ⟨filesystem.root⟩ (.frequency ⟨policy.id⟩)) observed) :
    Observes filesystem (.frequency ⟨policy.id⟩) fact observed := by
  obtain ⟨probes, probed, -, -, minimum, maximum, identified⟩ := exists_probes detected member
  obtain ⟨raw, interface, read, parsed, -⟩ := Cpu.gives_read gives
  obtain ⟨min, max, rfl, minHeld, maxHeld, object⟩ := Cpu.gives_rawNode_frequency read
  obtain ⟨minKhz, maxKhz, minParsed, maxParsed, typed⟩ := Cpu.parseRaw_frequency parsed
  obtain ⟨-, -, ⟨minProbe, minRead, minEq⟩, maxProbe, maxRead, maxEq⟩ := readPolicy_eq_ok probed
  obtain ⟨minFound, minKnown, made⟩ := Option.bind_eq_some_iff.mp made
  obtain ⟨minValue, minAccepted, made⟩ := Option.bind_eq_some_iff.mp made
  obtain ⟨maxFound, maxKnown, made⟩ := Option.bind_eq_some_iff.mp made
  obtain ⟨maxValue, maxAccepted, made⟩ := Option.bind_eq_some_iff.mp made
  cases made
  rw [minimum, minEq] at minKnown
  rw [maximum, maxEq] at maxKnown
  have minSame := frequency_of_probe minKnown minAccepted fun text present =>
    text_of_policyFile minRead present minHeld rfl (by decide)
  have maxSame := frequency_of_probe maxKnown maxAccepted fun text present =>
    text_of_policyFile maxRead present maxHeld rfl (by decide)
  rw [minParsed] at minSame
  rw [maxParsed] at maxSame
  cases minSame
  cases maxSame
  refine .of_typed rfl rfl typed fun identity known => ?_
  exact iff_of_true ((identified identity known).unique object) trivial

end Policy

/-! ## The controls of the host -/

section Host

variable {cpufreq : CpuFreqFacts} {findings : List CapabilityFinding} {fact : CurrentStateFact}
  {observed : CpuNodeState}

theorem observes_profile (detected : detectCpufreq filesystem.port = .ok (cpufreq, findings))
    (made : profileFact cpufreq = some fact)
    (gives : Gives filesystem.tree (CpuSysfs.read ⟨filesystem.root⟩ .platformProfile) observed) :
    Observes filesystem .platformProfile fact observed := by
  obtain ⟨-, profile, profileRead, shown, probed⟩ := detectCpufreq_eq_ok detected
  obtain ⟨raw, interface, read, parsed, -⟩ := Cpu.gives_read gives
  obtain ⟨path, found, held, object⟩ := Cpu.gives_rawNode_file (by simp) read
  obtain ⟨directory, located, found⟩ := (Interaction.Early.result_bind_ok_iff _).mp found
  cases found
  obtain ⟨rfl, -⟩ := CpuSysfs.gives_checkedComponentPath located
  obtain ⟨text, present, made⟩ := Option.bind_eq_some_iff.mp made
  obtain ⟨identity, identified, made⟩ := Option.bind_eq_some_iff.mp made
  obtain ⟨current, accepted, made⟩ := Option.bind_eq_some_iff.mp made
  cases made
  have components : filesystem.root ++ splitAll '/' platformProfilePath =
      filesystem.root ++ ["firmware", "acpi"] ++ ["platform_profile"] := by
    rw [List.append_assoc, show splitAll '/' platformProfilePath =
      ["firmware", "acpi"] ++ ["platform_profile"] by decide]
  have same : Cpu.text raw = .ok text := by
    apply text_of_reads ((reads_of_readText profileRead).mp (shown.symm.trans present))
    rwa [components]
  obtain ⟨current', reparsed, typed⟩ := bind_eq_ok_iff.mp parsed
  rw [Cpu.parseProfile_eq_ok_iff same, toOption_eq_some_iff.mp accepted] at reparsed
  cases reparsed
  refine .of_typed rfl rfl (Except.ok.inj typed).symm fun other known => iff_of_true ?_ trivial
  cases known
  rw [identified] at probed
  have located := identifies_of_probe probed
  rw [components] at located
  exact located.unique object

/-- The interface that supplies the boost state, with its text. -/
theorem supplied_of_boostInterface {boost noTurbo : Probe String} {used : CpuBoostInterface}
    (chosen : boostInterface boost noTurbo = some used)
    (present : boost.value.or noTurbo.value = some text) :
    used = .boost ∧ boost.value = some text ∨
      used = .noTurbo ∧ boost.value = none ∧ noTurbo.value = some text := by
  unfold boostInterface Probe.isPresent at chosen
  cases first : boost.value with
  | some found =>
      rw [first] at chosen present
      exact .inl ⟨(Option.some.inj chosen).symm, present⟩
  | none =>
      rw [first] at chosen present
      rw [Option.none_or] at present
      rw [present] at chosen
      exact .inr ⟨(Option.some.inj chosen).symm, rfl, present⟩

/-- The last component of the path of an interface. -/
def boostName : CpuBoostInterface → String
  | .boost => "boost"
  | .noTurbo => "no_turbo"

theorem splitAll_boostPath (interface : CpuBoostInterface) :
    splitAll '/' (boostPath interface) =
      CpuSysfs.cpufreqComponents ++ [boostName interface] := by
  cases interface with
  | boost => decide
  | noTurbo => decide

theorem boostFile_eq (filesystem : RootedFilesystem) (interface : CpuBoostInterface) :
    filesystem.root ++ CpuSysfs.cpufreqComponents ++ [boostName interface] =
      filesystem.root ++ splitAll '/' (boostPath interface) := by
  rw [splitAll_boostPath, List.append_assoc]

/-- Both readers use the same interface, and read the same text from it. -/
theorem boost_agrees (detected : detectCpufreq filesystem.port = .ok (cpufreq, findings))
    {text : String} {used : CpuBoostInterface} {path : Path} {raw : Bytes}
    {interface : Option CpuBoostInterface} {value : TypedValue}
    (present : cpufreq.boost = some text) (known : cpufreq.boostInterface = some used)
    (found : Gives filesystem.tree (CpuSysfs.nodePath ⟨filesystem.root⟩ (.boost none))
      (path, interface))
    (held : Holds filesystem.tree path raw)
    (parsed : CpuSysfs.parseRaw (.boost none) raw interface = .ok value) :
    path = filesystem.root ++ splitAll '/' (boostPath used) ∧ interface = some used ∧
      Cpu.text raw = .ok text := by
  obtain ⟨⟨boost, noTurbo, boostRead, noTurboRead, shown, chosen, -⟩, -⟩ :=
    detectCpufreq_eq_ok detected
  obtain ⟨walkable, file, selected⟩ := CpuSysfs.gives_boostPath found
  rw [shown] at present
  rw [chosen] at known
  have boostFile : filesystem.root ++ CpuSysfs.cpufreqComponents ++ ["boost"] = _ :=
    boostFile_eq filesystem .boost
  have noTurboFile : filesystem.root ++ CpuSysfs.cpufreqComponents ++ ["no_turbo"] = _ :=
    boostFile_eq filesystem .noTurbo
  rcases supplied_of_boostInterface known present with ⟨rfl, supplied⟩ | ⟨rfl, blank, supplied⟩
  · have reads := (reads_of_readText boostRead).mp supplied
    rcases selected with ⟨rfl, rfl⟩ | ⟨rfl, rfl, missing⟩
    · rw [boostFile] at held ⊢
      exact ⟨rfl, rfl, text_of_reads reads held⟩
    · obtain ⟨node, _, _, made, read, -⟩ := reads
      obtain ⟨there, -⟩ := RootedFilesystem.read_eq_ok_iff.mp read
      rw [RelativePath.asStr_of_new made, splitAll_boostPath, walkable_concat_iff] at there
      obtain ⟨-, metadata, shown, -⟩ := there
      rw [boostName, missing] at shown
      cases shown
  · rcases selected with ⟨rfl, rfl⟩ | ⟨rfl, rfl, -⟩
    · -- What the backend has parsed is a text, so discovery has found it too.
      obtain ⟨metadata, shown, regular⟩ := file
      obtain ⟨state, state_parsed, -⟩ := bind_eq_ok_iff.mp parsed
      obtain ⟨read, decodes, -⟩ := bind_eq_ok_iff.mp state_parsed
      have there : Walkable filesystem.tree.symlinkMetadata filesystem.root
          (splitAll '/' (boostPath .boost)) := by
        rw [splitAll_boostPath, walkable_concat_iff]
        exact ⟨walkable, metadata, shown, by simp [regular]⟩
      rw [boostFile] at held
      have reads := reads_of_held rfl there held decodes
      rw [(reads_of_readText boostRead).mpr reads] at blank
      cases blank
    · rw [noTurboFile] at held ⊢
      exact ⟨rfl, rfl, text_of_reads ((reads_of_readText noTurboRead).mp supplied) held⟩

theorem observes_boost (detected : detectCpufreq filesystem.port = .ok (cpufreq, findings))
    (made : boostFact cpufreq = some fact)
    (gives : Gives filesystem.tree (CpuSysfs.read ⟨filesystem.root⟩ (.boost none)) observed) :
    Observes filesystem (.boost none) fact observed := by
  obtain ⟨⟨_, _, -, -, -, -, probed⟩, -⟩ := detectCpufreq_eq_ok detected
  obtain ⟨raw, interface, read, parsed, -⟩ := Cpu.gives_read gives
  obtain ⟨path, found, held, object⟩ := Cpu.gives_rawNode_file (by simp) read
  obtain ⟨text, present, made⟩ := Option.bind_eq_some_iff.mp made
  obtain ⟨used, known, made⟩ := Option.bind_eq_some_iff.mp made
  obtain ⟨identity, identified, made⟩ := Option.bind_eq_some_iff.mp made
  obtain ⟨value, accepted, made⟩ := Option.bind_eq_some_iff.mp made
  cases made
  obtain ⟨rfl, rfl, same⟩ := boost_agrees detected present known found held parsed
  obtain ⟨state, reparsed, typed⟩ := bind_eq_ok_iff.mp parsed
  rw [Cpu.parseBoost_eq_ok_iff same] at reparsed
  rw [parseCpuBoost, Cpu.trim_of_text same, reparsed] at accepted
  cases accepted
  refine .of_typed rfl rfl (Except.ok.inj typed).symm fun other shown => iff_of_true ?_ trivial
  cases shown
  rw [known, identified] at probed
  exact (identifies_of_probe probed).unique object

end Host

/-! ## All facts -/

section Facts

variable {policy : CpuFreqPolicyFacts} {cpufreq : CpuFreqFacts} {target : TargetId}
  {fact : CurrentStateFact}

theorem nodeOf_governorFact (made : governorFact policy target = some fact) :
    nodeOf fact = some (.governor ⟨policy.id⟩) := by
  obtain ⟨_, -, made⟩ := Option.bind_eq_some_iff.mp made
  obtain ⟨_, -, made⟩ := Option.bind_eq_some_iff.mp made
  cases made
  rfl

theorem nodeOf_preferenceFact (made : preferenceFact policy target = .ok (some fact)) :
    nodeOf fact = some (.energyPreference ⟨policy.id⟩) := by
  unfold preferenceFact at made
  split at made
  · cases made
  · obtain ⟨_, -, made⟩ := bind_eq_ok_iff.mp made
    cases made
    rfl

theorem nodeOf_frequencyFact (made : frequencyFact policy target = some fact) :
    nodeOf fact = some (.frequency ⟨policy.id⟩) := by
  obtain ⟨_, -, made⟩ := Option.bind_eq_some_iff.mp made
  obtain ⟨_, -, made⟩ := Option.bind_eq_some_iff.mp made
  obtain ⟨_, -, made⟩ := Option.bind_eq_some_iff.mp made
  obtain ⟨_, -, made⟩ := Option.bind_eq_some_iff.mp made
  cases made
  rfl

theorem nodeOf_boostFact (made : boostFact cpufreq = some fact) :
    nodeOf fact = some (.boost none) := by
  obtain ⟨_, -, made⟩ := Option.bind_eq_some_iff.mp made
  obtain ⟨_, -, made⟩ := Option.bind_eq_some_iff.mp made
  obtain ⟨_, -, made⟩ := Option.bind_eq_some_iff.mp made
  obtain ⟨_, -, made⟩ := Option.bind_eq_some_iff.mp made
  cases made
  rfl

theorem nodeOf_profileFact (made : profileFact cpufreq = some fact) :
    nodeOf fact = some .platformProfile := by
  obtain ⟨_, -, made⟩ := Option.bind_eq_some_iff.mp made
  obtain ⟨_, -, made⟩ := Option.bind_eq_some_iff.mp made
  obtain ⟨_, -, made⟩ := Option.bind_eq_some_iff.mp made
  cases made
  rfl

/-- The controls that are no CPU controls. -/
theorem nodeOf_other {report : DiscoveryReport} {entries : List (Option CurrentStateFact)}
    (listed : report.irq.entries.mapM irqFact = .ok entries) {uclamp : Option CurrentStateFact}
    (clamped : uclampFact report.cgroup = .ok uclamp)
    (member : fact ∈ (observedTextFact report.memory.thpEnabled CapabilityIds.memoryThp
      ⟨"system", rfl⟩ .transparentHugePages).toList ++ (weightFact report.cgroup).toList ++
        (cpuMaxFact report.cgroup).toList ++ (cpusetFact report.cgroup).toList ++ uclamp.toList ++
          entries.reduceOption) : nodeOf fact = none := by
  simp only [List.mem_append, Option.mem_toList] at member
  rcases member with ((((thp | weight) | quota) | cpus) | clamp) | irq
  · obtain ⟨_, -, made⟩ := Option.bind_eq_some_iff.mp thp
    obtain ⟨_, -, made⟩ := Option.bind_eq_some_iff.mp made
    cases made
    rfl
  · obtain ⟨_, -, made⟩ := Option.bind_eq_some_iff.mp weight
    obtain ⟨_, -, made⟩ := Option.bind_eq_some_iff.mp made
    obtain ⟨_, -, made⟩ := Option.bind_eq_some_iff.mp made
    cases made
    rfl
  · obtain ⟨_, -, made⟩ := Option.bind_eq_some_iff.mp quota
    cases made
    rfl
  · obtain ⟨_, -, made⟩ := Option.bind_eq_some_iff.mp cpus
    obtain ⟨_, -, made⟩ := Option.bind_eq_some_iff.mp made
    cases made
    rfl
  · subst clamp
    unfold uclampFact at clamped
    split at clamped
    · obtain ⟨_, -, made⟩ := bind_eq_ok_iff.mp clamped
      cases made
      rfl
    · cases clamped
  · obtain ⟨entry, -, made⟩ := exists_of_mapM_mem listed (List.reduceOption_mem_iff.mp irq)
    unfold irqFact at made
    split at made
    · cases made
    · obtain ⟨_, -, made⟩ := bind_eq_ok_iff.mp made
      cases made
      rfl

theorem observes_of_mem {report : DiscoveryReport} {findings : List CapabilityFinding}
    {facts : List CurrentStateFact} {node : CpuNode} {observed : CpuNodeState}
    (detected : detectCpufreq filesystem.port = .ok (report.cpufreq, findings))
    (collected : report.facts = .ok facts) (member : fact ∈ facts)
    (matching : nodeOf fact = some node)
    (gives : Gives filesystem.tree (CpuSysfs.read ⟨filesystem.root⟩ node) observed) :
    Observes filesystem node fact observed := by
  obtain ⟨policies, listed, collected⟩ := bind_eq_ok_iff.mp collected
  obtain ⟨uclamp, clamped, collected⟩ := bind_eq_ok_iff.mp collected
  obtain ⟨irqs, irqsListed, collected⟩ := bind_eq_ok_iff.mp collected
  cases collected
  simp only [List.append_assoc, List.mem_append, Option.mem_toList] at member
  rcases member with policy | boost | profile | other
  · obtain ⟨made, present, member⟩ := List.mem_flatten.mp policy
    obtain ⟨policy, known, made⟩ := exists_of_mapM_mem listed present
    obtain ⟨target, -, made⟩ := bind_eq_ok_iff.mp made
    obtain ⟨preference, preferred, made⟩ := bind_eq_ok_iff.mp made
    cases made
    simp only [List.mem_append, Option.mem_toList] at member
    rcases member with (governor | preferred') | frequency
    · rw [nodeOf_governorFact governor] at matching
      cases matching
      exact observes_governor detected known governor gives
    · subst preferred'
      rw [nodeOf_preferenceFact preferred] at matching
      cases matching
      exact observes_preference detected known preferred gives
    · rw [nodeOf_frequencyFact frequency] at matching
      cases matching
      exact observes_frequency detected known frequency gives
  · rw [nodeOf_boostFact boost] at matching
    cases matching
    exact observes_boost detected boost gives
  · rw [nodeOf_profileFact profile] at matching
    cases matching
    exact observes_profile detected profile gives
  · rw [nodeOf_other irqsListed clamped (by
      simpa only [List.append_assoc, List.mem_append, Option.mem_toList] using other)] at matching
    cases matching

end Facts

/-! ## Planned mutations -/

/-- A mutation of the node of a fact, planned with the fingerprint of the fact as
its precondition. -/
structure PlannedFrom (fact : CurrentStateFact) (node : CpuNode) (mutation : PlannedMutation) :
    Prop where
  node : CpuBackend.nodeForMutation mutation = .ok node
  precondition : fact.fingerprint = some mutation.precondition

/-- The CPU mutations of a plan are planned from the facts about their controls at
their targets, and expect the identities of these facts. -/
theorem plannedFrom_of_build {catalog : OperationCatalog} {input : PlannerInput} {plan : Plan}
    (built : catalog.build input = .ok plan) {item : PlanItem} (present : item ∈ plan.items)
    (action : item.action = .mutation) {mutation : PlannedMutation}
    (carries : item.mutation = some mutation) {node : CpuNode}
    (selected : CpuBackend.nodeForMutation mutation = .ok node) :
    ∃ target fact, item.target = some target ∧
      input.currentState.factAbout item.capability target item.control = some fact ∧
      fact.targetIdentity = item.targetIdentity ∧ PlannedFrom fact node mutation := by
  obtain ⟨proposals, composed⟩ := composed_of_build built
  obtain ⟨subject, member, admission, completes⟩ := composed.admitted present action
  have about : input.currentState.factAbout subject.spec.capability admission.target
      subject.spec.control = some admission.fact := by
    rw [← admission.observed, (grounded_of_considered composed.selected member).observed,
      admission.targeted]
    rfl
  cases completes with
  | unplanned => cases carries
  | planned drafted made =>
      cases drafted
      cases carries
      refine ⟨admission.target, admission.fact, rfl, about, admission.identified, selected, ?_⟩
      rw [(PlannedMutation.eq_of_new made).1]
      exact admission.fingerprinted

/-- Discovery and the backend agree on a node: they have the same typed value,
fingerprint and target identity, and the backend refuses no mutation planned from
the fact for its identity or for its precondition. -/
structure Agrees (filesystem : RootedFilesystem) (node : CpuNode) (fact : CurrentStateFact)
    (observed : CpuNodeState) : Prop where
  value : fact.value = .known (.typed observed.typed)
  fingerprint : fact.fingerprint = some observed.fingerprint
  identity : fact.targetIdentity = some observed.targetIdentity
  admitted : ∀ mutation, PlannedFrom fact node mutation → ∀ expected ∈ fact.targetIdentity,
    Interaction.Early.result filesystem.tree.answer (CpuBackend.validateAdmission
      ⟨CpuSysfs.port ⟨filesystem.root⟩⟩ mutation expected) ≠
        .error (CpuBackend.identityChanged mutation)
  snapshotted : ∀ mutation, PlannedFrom fact node mutation → ∀ now,
    Interaction.Early.result filesystem.tree.answer (CpuBackend.snapshotInternal
      ⟨CpuSysfs.port ⟨filesystem.root⟩⟩ mutation now) ≠
        .error (CpuBackend.preconditionChanged mutation)

/-- Discovery and the backend agree on a control of a tree exactly when it is
neither the governor nor the energy preference of a policy, or the directory of
the policy and the file of the control have the same device and inode. -/
theorem observation_agrees_iff {sources : DiscoverySources} {observedAt : Timestamp}
    {report : DiscoveryReport} {state : CurrentState} {fact : CurrentStateFact} {node : CpuNode}
    {observed : CpuNodeState} (rooted : sources.sysfs = filesystem.port)
    (discovered : discover sources (.ok observedAt) = .ok (.ok report))
    (projected : report.currentState = .ok (.ok state)) (member : fact ∈ state.facts)
    (matching : nodeOf fact = some node) (identified : fact.targetIdentity.isSome = true)
    (gives : Gives filesystem.tree (CpuSysfs.read ⟨filesystem.root⟩ node) observed) :
    Agrees filesystem node fact observed ↔ SameObject filesystem.tree node := by
  obtain ⟨⟨findings, detected⟩, -⟩ := discover_eq_ok discovered
  rw [rooted] at detected
  obtain ⟨facts, collected, made⟩ := bind_eq_ok_iff.mp projected
  have listed : fact ∈ facts := (CurrentState.mem_facts_of_new (Except.ok.inj made)).mp member
  have observes := observes_of_mem detected collected listed matching gives
  obtain ⟨identity, known⟩ := Option.isSome_iff_exists.mp identified
  obtain ⟨_, _, -, -, sealed⟩ := Cpu.gives_read gives
  constructor
  · intro agrees
    have same := agrees.identity
    rw [known] at same
    exact (observes.identity identity known).mp (Option.some.inj same)
  · intro shared
    obtain rfl := (observes.identity identity known).mpr shared
    have fingerprint : fact.fingerprint = some observed.fingerprint := by
      rw [observes.fingerprint, sealed]
    refine ⟨observes.value, fingerprint, known, ?_, ?_⟩
    · intro mutation planned expected present
      rw [known] at present
      cases present
      intro refused
      have untargeted := CpuBackend.raises_validateAdmission planned.node gives _ refused
      cases untargeted
    · intro mutation planned now refused
      have precondition := planned.precondition
      rw [fingerprint] at precondition
      exact CpuBackend.raises_snapshotInternal planned.node gives
        (Option.some.inj precondition).symm now _ refused rfl

namespace Fixture

/-- The root of a host with one policy and a boost interface. -/
def root : Path :=
  ["sys"]

def directories : List Path :=
  [root, root ++ ["devices"], root ++ ["devices", "system"], root ++ ["devices", "system", "cpu"],
    root ++ CpuSysfs.cpufreqComponents, root ++ CpuSysfs.policyComponents ⟨0⟩]

/-- The files of the host with their content. -/
def files : List (Path × Bytes) :=
  [(root ++ CpuSysfs.cpufreqComponents ++ ["boost"], utf8 "1\n"),
    (root ++ CpuSysfs.policyComponents ⟨0⟩ ++ ["scaling_governor"], utf8 "powersave\n")]

/-- Every object has an inode of its own. -/
def tree : Tree root where
  symlinkMetadata path :=
    let inode := UInt64.ofNat ((directories ++ files.map Prod.fst).idxOf path)
    if path ∈ directories then .ok ⟨.directory, 1, inode, true⟩
    else if (files.lookup path).isSome then .ok ⟨.file, 1, inode, false⟩
    else .error .notFound
  canonicalize := .ok
  opens _ := .ok ()
  content path :=
    match files.lookup path with
    | some content => .ok content
    | none => .error .notFound
  entries path :=
    if path = root ++ CpuSysfs.cpufreqComponents then .ok [.ok ⟨"policy0", .ok .directory⟩]
    else .error .notFound
  canonical _ _ _ := rfl

def host : RootedFilesystem :=
  ⟨root, tree, fun _ => "unavailable"⟩

def sources : DiscoverySources :=
  ⟨host.port, emptyRoot, none, none⟩

/-- What the backend reads of a node. -/
def read (node : CpuNode) : Except SysboostError CpuNodeState :=
  Interaction.Early.result tree.answer (CpuSysfs.read ⟨root⟩ node)

/-- A fact with an identity about a node that the backend reads, for which a test
passes. -/
def shows (state : CurrentState) (node : CpuNode)
    (test : CurrentStateFact → CpuNodeState → Bool) : Bool :=
  state.facts.any fun fact => nodeOf fact = some node && fact.targetIdentity.isSome &&
    (read node).toOption.any (test fact)

theorem exists_of_shows {state : CurrentState} {node : CpuNode}
    {test : CurrentStateFact → CpuNodeState → Bool} (holds : shows state node test = true) :
    ∃ fact observed, fact ∈ state.facts ∧ nodeOf fact = some node ∧
      fact.targetIdentity.isSome = true ∧
      Gives tree (CpuSysfs.read ⟨root⟩ node) observed ∧ test fact observed = true := by
  obtain ⟨fact, member, holds⟩ := List.any_eq_true.mp holds
  rw [Bool.and_eq_true, Bool.and_eq_true, decide_eq_true_eq] at holds
  obtain ⟨⟨matching, identified⟩, holds⟩ := holds
  obtain ⟨observed, gives, passes⟩ := exists_ok_of_any holds
  exact ⟨fact, observed, member, matching, identified, gives, passes⟩

/-- Discovery sees the governor under another identity than the backend, and the
boost interface under the same. -/
theorem exists_state : ∃ report state, discover sources (.ok ⟨0⟩) = .ok (.ok report) ∧
    report.currentState = .ok (.ok state) ∧
    shows state (.governor ⟨0⟩) (fun fact observed =>
      fact.targetIdentity ≠ some observed.targetIdentity) = true ∧
    shows state (.boost none) (fun _ _ => true) = true := by
  have holds : ((discover sources (.ok ⟨0⟩)).toOption.any fun result =>
      result.toOption.any fun report => report.currentState.toOption.any fun result =>
        result.toOption.any fun state =>
          shows state (.governor ⟨0⟩) (fun fact observed =>
            fact.targetIdentity ≠ some observed.targetIdentity) &&
          shows state (.boost none) fun _ _ => true) = true := by
    decide +kernel
  obtain ⟨_, discovered, reported⟩ := exists_ok_of_any holds
  obtain ⟨report, rfl, projects⟩ := exists_ok_of_any reported
  obtain ⟨_, projected, known⟩ := exists_ok_of_any projects
  obtain ⟨state, rfl, both⟩ := exists_ok_of_any known
  exact ⟨report, state, discovered, projected, Bool.and_eq_true_iff.mp both⟩

end Fixture

theorem observation_agrees_iff_boost :
    ∃ report state fact observed, discover Fixture.sources (.ok ⟨0⟩) = .ok (.ok report) ∧
      report.currentState = .ok (.ok state) ∧ fact ∈ state.facts ∧
      (Agrees Fixture.host (.boost none) fact observed ↔
        SameObject Fixture.tree (.boost none)) := by
  obtain ⟨report, state, discovered, projected, -, boost⟩ := Fixture.exists_state
  obtain ⟨fact, observed, member, matching, identified, gives, -⟩ := Fixture.exists_of_shows boost
  exact ⟨report, state, fact, observed, discovered, projected, member,
    observation_agrees_iff rfl discovered projected member matching identified gives⟩

/-- The governor of a policy has the identity of the directory in the current
state, and the identity of its file in the backend. -/
theorem governor_disagrees :
    ∃ report state fact observed, discover Fixture.sources (.ok ⟨0⟩) = .ok (.ok report) ∧
      report.currentState = .ok (.ok state) ∧ fact ∈ state.facts ∧
      nodeOf fact = some (.governor ⟨0⟩) ∧ fact.targetIdentity.isSome = true ∧
      Gives Fixture.tree (CpuSysfs.read ⟨Fixture.root⟩ (.governor ⟨0⟩)) observed ∧
      ¬Agrees Fixture.host (.governor ⟨0⟩) fact observed := by
  obtain ⟨report, state, discovered, projected, governor, -⟩ := Fixture.exists_state
  obtain ⟨fact, observed, member, matching, identified, gives, differs⟩ :=
    Fixture.exists_of_shows governor
  exact ⟨report, state, fact, observed, discovered, projected, member, matching, identified, gives,
    fun agrees => of_decide_eq_true differs agrees.identity⟩

end Sysboost.Linux.Discovery
