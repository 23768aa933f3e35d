import Sysboost.Linux.Discovery.Paths

/-!
# When discovery stops the process

Three texts of the host reach a check that may stop the process: the name of a
card, an energy preference outside the closed vocabulary, and the two ends of a
utilization clamp.
-/

namespace Sysboost.Linux.Discovery

open Sysboost.Core Sysboost.Platform Sysboost.Planner ByteCodec Results

variable {sysfs procfs : ReadOnlyFileSystem}

/-! ## Cards -/

/-- The entries of a directory, as discovery lists them. -/
def Lists (filesystem : ReadOnlyFileSystem) (value : String) (entries : List DirectoryEntry) :
    Prop :=
  ∃ path, RelativePath.new value = .ok path ∧ filesystem.list (some path) = .ok entries

/-- A name that leaves the paths below it valid; the longest of them has 24 more
bytes. -/
structure Nameable (name : String) : Prop where
  short : name.utf8ByteSize ≤ 232
  chars : PathChars name.toList

theorem lists_of_list {filesystem : ReadOnlyFileSystem} {value : String}
    {probe : Probe (List DirectoryEntry)} (ok : list filesystem (some value) = .ok probe)
    {entries : List DirectoryEntry} :
    probe.value = some entries ↔ Lists filesystem value entries := by
  unfold list at ok
  obtain ⟨relative, made, ok⟩ := bind_eq_ok_iff.mp ok
  obtain ⟨node, found, same⟩ := bind_eq_ok_iff.mp made
  cases same
  cases ok
  have made : RelativePath.new value = .ok node := expect_eq_ok_iff.mp found
  rw [value_ofResult]
  constructor
  · exact fun listed => ⟨node, made, listed⟩
  · rintro ⟨path, made', listed⟩
    rw [made] at made'
    cases made'
    exact listed

theorem validatePath_card {name file : String} (rest : String) (file_eq : file = "/" ++ rest)
    (restValid : validatePath rest = .ok ()) :
    validatePath ("class/drm/" ++ name ++ file) = .ok () ↔
      name.utf8ByteSize + file.utf8ByteSize ≤ 246 ∧ PathChars name.toList := by
  subst file_eq
  have chars : ("class/drm/" ++ name ++ ("/" ++ rest)).toList =
      "class/drm".toList ++ '/' :: (name.toList ++ '/' :: rest.toList) := by
    simp
  have front : "class/drm/".utf8ByteSize = 10 := rfl
  have drm : PathChars "class/drm".toList := (validatePath_eq_ok_iff.mp rfl).2
  have ends := (validatePath_eq_ok_iff.mp restValid).2
  rw [validatePath_eq_ok_iff, chars, pathChars_append, pathChars_append]
  simp only [String.utf8ByteSize_append, front]
  constructor
  · rintro ⟨bounded, -, named, -⟩
    exact ⟨by omega, named⟩
  · rintro ⟨bounded, named⟩
    exact ⟨by omega, drm, named, ends⟩

theorem returns_detectGpu_iff {entry : DirectoryEntry} :
    Returns (detectGpu sysfs entry) ↔ Nameable entry.name := by
  have file {file : String} (rest : String) (file_eq : file = "/" ++ rest)
      (restValid : validatePath rest = .ok ()) (bounded : file.utf8ByteSize ≤ 14)
      (nameable : Nameable entry.name) :
      Returns (readText sysfs ("class/drm/" ++ entry.name ++ file)) := by
    have short := nameable.short
    exact returns_readText ((validatePath_card rest file_eq restValid).mpr
      ⟨by omega, nameable.chars⟩)
  unfold detectGpu
  constructor
  · intro returns
    obtain ⟨uevent, -, returns⟩ := returns_bind_iff.mp returns
    obtain ⟨vendor, read, -⟩ := returns_bind_iff.mp returns
    have valid := returns_readText_iff.mp ⟨vendor, read⟩
    have file_eq : "/device/vendor" = "/" ++ "device/vendor" := rfl
    obtain ⟨bounded, chars⟩ := (validatePath_card "device/vendor" file_eq rfl).mp valid
    have size : "/device/vendor".utf8ByteSize = 14 := rfl
    exact ⟨by omega, chars⟩
  · intro nameable
    apply Returns.bind (file "uevent" rfl rfl (by decide) nameable) fun _ _ => ?_
    apply Returns.bind (file "device/vendor" rfl rfl (by decide) nameable) fun _ _ => ?_
    apply Returns.bind (file "device/device" rfl rfl (by decide) nameable) fun _ _ => ?_
    apply Returns.bind (file "device/class" rfl rfl (by decide) nameable) fun _ _ => ?_
    exact returns_ok _

theorem returns_detectGpus_iff :
    Returns (detectGpus sysfs) ↔ ∀ entries, Lists sysfs "class/drm" entries → ∀ entry ∈ entries,
      (afterPrefix "card" entry.name).isSome = true → Nameable entry.name := by
  obtain ⟨drm, listed⟩ : Returns (list sysfs (some "class/drm")) := returns_list rfl
  have loop : Returns (detectGpus sysfs) ↔
      ∀ entry ∈ drmCards drm, Nameable entry.name := by
    have cards : Returns ((drmCards drm).mapM (detectGpu sysfs)) ↔
        ∀ entry ∈ drmCards drm, Nameable entry.name := by
      simp only [returns_mapM_iff, returns_detectGpu_iff]
    rw [detectGpus, listed, ← cards]
    constructor
    · intro returns
      obtain ⟨_, known, returns⟩ := returns_bind_iff.mp returns
      cases known
      obtain ⟨devices, found, -⟩ := returns_bind_iff.mp returns
      exact ⟨devices, found⟩
    · intro returns
      apply Returns.bind (returns_ok drm)
      rintro _ ⟨⟩
      exact Returns.bind returns fun _ _ => returns_ok _
  rw [loop]
  constructor
  · intro cards entries lists entry member card
    apply cards entry
    have present := (lists_of_list listed).mpr lists
    simp [drmCards, present, member, card]
  · intro cards entry member
    simp only [drmCards, Ordered.mem_sortBy, List.mem_filter] at member
    cases present : drm.value with
    | none => simp [present] at member
    | some entries =>
        simp only [present, Option.getD_some] at member
        exact cards entries ((lists_of_list listed).mp present) entry member.1 member.2

/-! ## What the facts hold -/

theorem readPolicy_eq_ok {front : String} {probes : PolicyProbes}
    (ok : readPolicy sysfs front = .ok probes) :
    readText sysfs (front ++ "/scaling_governor") = .ok probes.currentGovernor ∧
      readText sysfs (front ++ "/energy_performance_preference") = .ok probes.epp ∧
      (∃ min, readText sysfs (front ++ "/scaling_min_freq") = .ok min ∧
        probes.min = parseU64 min) ∧
      ∃ max, readText sysfs (front ++ "/scaling_max_freq") = .ok max ∧
        probes.max = parseU64 max := by
  obtain ⟨_, -, ok⟩ := bind_eq_ok_iff.mp ok
  obtain ⟨_, -, ok⟩ := bind_eq_ok_iff.mp ok
  obtain ⟨_, -, ok⟩ := bind_eq_ok_iff.mp ok
  obtain ⟨governor, governorRead, ok⟩ := bind_eq_ok_iff.mp ok
  obtain ⟨epp, eppRead, ok⟩ := bind_eq_ok_iff.mp ok
  obtain ⟨_, -, ok⟩ := bind_eq_ok_iff.mp ok
  obtain ⟨min, minRead, ok⟩ := bind_eq_ok_iff.mp ok
  obtain ⟨max, maxRead, ok⟩ := bind_eq_ok_iff.mp ok
  obtain ⟨_, -, ok⟩ := bind_eq_ok_iff.mp ok
  cases ok
  exact ⟨governorRead, eppRead, ⟨min, minRead, rfl⟩, max, maxRead, rfl⟩

theorem detectPolicy_eq_ok {policyId : UInt32} {facts : CpuFreqPolicyFacts}
    {findings : List CapabilityFinding} (ok : detectPolicy sysfs policyId = .ok (facts, findings)) :
    ∃ identity probes, probeIdentity sysfs (policyPath policyId) = .ok identity ∧
      readPolicy sysfs (policyPath policyId) = .ok probes ∧
      facts = probes.facts policyId identity := by
  obtain ⟨identity, probed, ok⟩ := bind_eq_ok_iff.mp ok
  obtain ⟨probes, read, ok⟩ := bind_eq_ok_iff.mp ok
  cases ok
  exact ⟨identity, probes, probed, read, rfl⟩

/-- The policies that CPUFreq lists. -/
def ListsPolicy (sysfs : ReadOnlyFileSystem) (policyId : UInt32) : Prop :=
  ∃ entries, Lists sysfs cpufreqPath entries ∧ policyId ∈ sortNumericNames entries "policy"

/-- The facts about policies are those of the policies that are listed. -/
theorem mem_policies_iff {facts : CpuFreqFacts} {findings : List CapabilityFinding}
    (ok : detectCpufreq sysfs = .ok (facts, findings)) {policy : CpuFreqPolicyFacts} :
    policy ∈ facts.policies ↔
      ∃ policyId findings, ListsPolicy sysfs policyId ∧
        detectPolicy sysfs policyId = .ok (policy, findings) := by
  obtain ⟨policyDir, listed, ok⟩ := bind_eq_ok_iff.mp ok
  obtain ⟨_, -, ok⟩ := bind_eq_ok_iff.mp ok
  obtain ⟨_, -, ok⟩ := bind_eq_ok_iff.mp ok
  obtain ⟨_, -, ok⟩ := bind_eq_ok_iff.mp ok
  obtain ⟨_, -, ok⟩ := bind_eq_ok_iff.mp ok
  obtain ⟨_, -, ok⟩ := bind_eq_ok_iff.mp ok
  obtain ⟨_, -, ok⟩ := bind_eq_ok_iff.mp ok
  obtain ⟨policies, loop, ok⟩ := bind_eq_ok_iff.mp ok
  cases ok
  have ids {policyId : UInt32} : policyId ∈ policyIds policyDir ↔ ListsPolicy sysfs policyId := by
    simp only [ListsPolicy, ← lists_of_list listed, policyIds]
    cases policyDir.value with
    | none => simp
    | some entries => simp
  simp only [List.mem_map, Prod.exists, exists_and_right, exists_eq_right]
  constructor
  · rintro ⟨findings, member⟩
    obtain ⟨policyId, present, made⟩ := exists_of_mapM_mem loop member
    exact ⟨policyId, findings, ids.mp present, made⟩
  · rintro ⟨policyId, findings, present, made⟩
    obtain ⟨result, member, made'⟩ := exists_mapM_of_mem loop (ids.mpr present)
    rw [made] at made'
    cases made'
    exact ⟨findings, member⟩

theorem detectCgroup_eq_ok {cgroup : Option ReadOnlyFileSystem} {facts : CgroupFacts}
    {findings : List CapabilityFinding} (ok : detectCgroup cgroup procfs = .ok (facts, findings)) :
    (∀ minimum, facts.uclampMin = some minimum ↔
      ∃ root ∈ cgroup, Reads root "cpu.uclamp.min" minimum) ∧
      ∀ maximum, facts.uclampMax = some maximum ↔
        ∃ root ∈ cgroup, Reads root "cpu.uclamp.max" maximum := by
  obtain ⟨membership, -, ok⟩ := bind_eq_ok_iff.mp ok
  cases cgroup with
  | none =>
      cases ok
      simp
  | some root =>
      unfold detectCgroupRoot at ok
      iterate 8 obtain ⟨_, -, ok⟩ := bind_eq_ok_iff.mp ok
      obtain ⟨minimum, minimumRead, ok⟩ := bind_eq_ok_iff.mp ok
      obtain ⟨maximum, maximumRead, ok⟩ := bind_eq_ok_iff.mp ok
      cases ok
      simp [reads_of_readText minimumRead, reads_of_readText maximumRead]

/-! ## The projection -/

/-- Every word of the closed vocabulary is a bounded text. -/
theorem accepts_of_energyOf {current : String} {value : EnergyPreference}
    (known : Cpu.energyOf current = some value) : ObservedText.accepts current = true := by
  unfold Cpu.energyOf at known
  split at known
  all_goals first | rfl | cases known

theorem exists_observed_iff {text : String} :
    (∃ value, ObservedText.new text = .ok value) ↔ ObservedText.accepts text = true := by
  rw [ObservedText.new, Bounded.new]
  split
  next valid => simp [valid]
  next invalid => simp [invalid]

theorem returns_preferenceValue_iff {current : String} :
    Returns (preferenceValue current) ↔ ObservedText.accepts current = true := by
  unfold preferenceValue
  split
  next value known => simp [accepts_of_energyOf known, returns_ok, pure, Except.pure]
  · rw [← exists_observed_iff]
    constructor
    · intro returns
      obtain ⟨value, made, -⟩ := returns_bind_iff.mp returns
      exact ⟨value, expect_eq_ok_iff.mp made⟩
    · rintro ⟨value, made⟩
      exact Returns.bind ⟨value, expect_eq_ok_iff.mpr made⟩ fun _ _ => returns_ok _

theorem returns_policyFacts_iff {policy : CpuFreqPolicyFacts} :
    Returns (policyFacts policy) ↔ ∀ current, policy.energyPerformancePreference = some current →
      ObservedText.accepts current = true := by
  have valid : validateText "TargetId" ("cpu.policy." ++ toString policy.id) = .ok () :=
    validateText_numbered rfl (by decide) (forall_mem_of_all (by decide)) policy.id
  have target : expect "discovery CPU policy target is valid"
      (TextId.new ("cpu.policy." ++ toString policy.id)) = .ok (⟨_, valid⟩ : TargetId) :=
    expect_eq_ok_iff.mpr (TextId.new_asStr (⟨_, valid⟩ : TargetId))
  have preference : Returns (policyFacts policy) ↔
      Returns (preferenceFact policy (⟨_, valid⟩ : TargetId)) := by
    constructor
    · intro returns
      obtain ⟨made, found, returns⟩ := returns_bind_iff.mp returns
      obtain rfl : _ = made := Except.ok.inj (target.symm.trans found)
      obtain ⟨fact, made, -⟩ := returns_bind_iff.mp returns
      exact ⟨fact, made⟩
    · intro returns
      apply Returns.bind ⟨_, target⟩
      intro made found
      obtain rfl : _ = made := Except.ok.inj (target.symm.trans found)
      exact Returns.bind returns fun _ _ => returns_ok _
  rw [preference, preferenceFact]
  split
  next missing => simp [missing, returns_ok, pure, Except.pure]
  next current present =>
    simp only [present, Option.some.injEq, forall_eq', ← returns_preferenceValue_iff]
    constructor
    · intro returns
      obtain ⟨value, made, -⟩ := returns_bind_iff.mp returns
      exact ⟨value, made⟩
    · exact fun returns => Returns.bind returns fun _ _ => returns_ok _

theorem returns_uclampFact_iff {cgroup : CgroupFacts} :
    Returns (uclampFact cgroup) ↔ ∀ minimum maximum, cgroup.uclampMin = some minimum →
      cgroup.uclampMax = some maximum →
        ObservedText.accepts (uclampText minimum maximum) = true := by
  unfold uclampFact
  split
  next minimum maximum known known' =>
    simp only [known, known', Option.some.injEq]
    constructor
    · rintro returns _ _ rfl rfl
      obtain ⟨value, made, -⟩ := returns_bind_iff.mp returns
      exact exists_observed_iff.mp ⟨value, expect_eq_ok_iff.mp made⟩
    · intro accepted
      obtain ⟨value, made⟩ := exists_observed_iff.mpr (accepted minimum maximum rfl rfl)
      exact Returns.bind ⟨value, expect_eq_ok_iff.mpr made⟩ fun _ _ => returns_ok _
  next unknown =>
    simp only [returns_ok, pure, Except.pure, true_iff]
    exact fun minimum maximum known known' => absurd known' (unknown minimum maximum known)

theorem returns_irqFact (entry : IrqEntryFacts) : Returns (irqFact entry) := by
  have valid : validateText "TargetId" ("irq." ++ toString entry.irq) = .ok () :=
    validateText_numbered rfl (by decide) (forall_mem_of_all (by decide)) entry.irq
  unfold irqFact
  split
  · exact returns_ok _
  · apply Returns.bind ⟨(⟨_, valid⟩ : TargetId), expect_eq_ok_iff.mpr (TextId.new_asStr _)⟩
    exact fun _ _ => returns_ok _

theorem returns_currentState_iff {report : DiscoveryReport} :
    Returns report.currentState ↔
      (∀ policy ∈ report.cpufreq.policies, ∀ current,
        policy.energyPerformancePreference = some current →
          ObservedText.accepts current = true) ∧
      ∀ minimum maximum, report.cgroup.uclampMin = some minimum →
        report.cgroup.uclampMax = some maximum →
          ObservedText.accepts (uclampText minimum maximum) = true := by
  simp only [← returns_policyFacts_iff, ← returns_uclampFact_iff, ← returns_mapM_iff]
  constructor
  · intro returns
    obtain ⟨facts, made, -⟩ := returns_bind_iff.mp returns
    obtain ⟨policies, policiesMade, rest⟩ := bind_eq_ok_iff.mp made
    obtain ⟨uclamp, uclampMade, -⟩ := bind_eq_ok_iff.mp rest
    exact ⟨⟨policies, policiesMade⟩, uclamp, uclampMade⟩
  · rintro ⟨policies, uclamp⟩
    apply Returns.bind ?_ fun _ _ => returns_ok _
    apply Returns.bind policies fun _ _ => ?_
    apply Returns.bind uclamp fun _ _ => ?_
    apply Returns.bind (returns_mapM_iff.mpr fun entry _ => returns_irqFact entry) fun _ _ => ?_
    exact returns_ok _

/-! ## Discovery as a whole -/

variable {sources : DiscoverySources} {observedAt : Timestamp}

theorem returns_discover_iff :
    Returns (discover sources (.ok observedAt)) ↔ Returns (detectGpus sources.sysfs) := by
  constructor
  · intro returns
    obtain ⟨_, -, returns⟩ := returns_bind_iff.mp returns
    obtain ⟨_, -, returns⟩ := returns_bind_iff.mp returns
    obtain ⟨_, -, returns⟩ := returns_bind_iff.mp returns
    obtain ⟨_, -, returns⟩ := returns_bind_iff.mp returns
    obtain ⟨_, -, returns⟩ := returns_bind_iff.mp returns
    obtain ⟨gpus, found, -⟩ := returns_bind_iff.mp returns
    exact ⟨gpus, found⟩
  · intro gpus
    apply Returns.bind returns_detectEnvironment fun _ _ => ?_
    apply Returns.bind returns_detectCpufreq fun _ _ => ?_
    apply Returns.bind returns_detectTopology fun _ _ => ?_
    apply Returns.bind returns_detectNuma fun _ _ => ?_
    apply Returns.bind returns_detectCgroup fun _ _ => ?_
    apply Returns.bind gpus fun _ _ => ?_
    apply Returns.bind returns_detectIrqs fun _ _ => ?_
    apply Returns.bind returns_detectMemory fun _ _ => ?_
    apply Returns.bind returns_detectScheduler fun _ _ => ?_
    apply Returns.bind returns_detectSystemd fun _ _ => ?_
    exact returns_ok _

/-- A report holds the facts of its detectors. -/
theorem discover_eq_ok {report : DiscoveryReport}
    (ok : discover sources (.ok observedAt) = .ok (.ok report)) :
    (∃ findings, detectCpufreq sources.sysfs = .ok (report.cpufreq, findings)) ∧
      ∃ findings, detectCgroup sources.cgroup sources.procfs = .ok (report.cgroup, findings) := by
  obtain ⟨_, -, ok⟩ := bind_eq_ok_iff.mp ok
  obtain ⟨⟨cpufreq, findings⟩, cpufreqOk, ok⟩ := bind_eq_ok_iff.mp ok
  obtain ⟨_, -, ok⟩ := bind_eq_ok_iff.mp ok
  obtain ⟨_, -, ok⟩ := bind_eq_ok_iff.mp ok
  obtain ⟨⟨cgroup, findings'⟩, cgroupOk, ok⟩ := bind_eq_ok_iff.mp ok
  iterate 5 obtain ⟨_, -, ok⟩ := bind_eq_ok_iff.mp ok
  cases ok
  exact ⟨⟨findings, cpufreqOk⟩, findings', cgroupOk⟩

/-- With a working clock the only results are reports. -/
theorem discover_ne_error {error : SysboostError} :
    discover sources (.ok observedAt) ≠ .ok (.error error) := by
  intro ok
  iterate 10 obtain ⟨_, -, ok⟩ := bind_eq_ok_iff.mp ok
  cases ok

/-- `discover` followed by `current_state`. -/
def observe (sources : DiscoverySources) (now : Except SysboostError Timestamp) :
    Except Panic (Except SysboostError CurrentState) := do
  match ← discover sources now with
  | .error error => return .error error
  | .ok report => report.currentState

/-- Roots that discovery can put into paths and observed texts: every card has a
name, and the texts that are kept as they are fit their bounds. -/
structure Presentable (sources : DiscoverySources) : Prop where
  cards : ∀ entries, Lists sources.sysfs "class/drm" entries → ∀ entry ∈ entries,
    (afterPrefix "card" entry.name).isSome = true → Nameable entry.name
  preferences : ∀ policyId, ListsPolicy sources.sysfs policyId → ∀ text,
    Reads sources.sysfs (policyPath policyId ++ "/energy_performance_preference") text →
      ObservedText.accepts text = true
  clamps : ∀ root ∈ sources.cgroup, ∀ minimum maximum, Reads root "cpu.uclamp.min" minimum →
    Reads root "cpu.uclamp.max" maximum → ObservedText.accepts (uclampText minimum maximum) = true

/-- The energy preferences of the facts are the texts that are read. -/
theorem preferences_iff {cpufreq : CpuFreqFacts} {findings : List CapabilityFinding}
    (ok : detectCpufreq sysfs = .ok (cpufreq, findings)) :
    (∀ policy ∈ cpufreq.policies, ∀ current, policy.energyPerformancePreference = some current →
        ObservedText.accepts current = true) ↔
      ∀ policyId, ListsPolicy sysfs policyId → ∀ text,
        Reads sysfs (policyPath policyId ++ "/energy_performance_preference") text →
          ObservedText.accepts text = true := by
  constructor
  · intro accepted policyId listed text reads
    obtain ⟨⟨policy, findings⟩, detected⟩ : Returns (detectPolicy sysfs policyId) :=
      returns_detectPolicy policyId
    obtain ⟨identity, probes, -, read, facts⟩ := detectPolicy_eq_ok detected
    apply accepted policy ((mem_policies_iff ok).mpr ⟨policyId, findings, listed, detected⟩)
    rw [facts]
    exact (reads_of_readText (readPolicy_eq_ok read).2.1).mpr reads
  · intro accepted policy member current present
    obtain ⟨policyId, findings, listed, detected⟩ := (mem_policies_iff ok).mp member
    obtain ⟨identity, probes, -, read, facts⟩ := detectPolicy_eq_ok detected
    rw [facts] at present
    exact accepted policyId listed current
      ((reads_of_readText (readPolicy_eq_ok read).2.1).mp present)

theorem clamps_iff {facts : CgroupFacts} {cgroup : Option ReadOnlyFileSystem}
    {findings : List CapabilityFinding} (ok : detectCgroup cgroup procfs = .ok (facts, findings)) :
    (∀ minimum maximum, facts.uclampMin = some minimum → facts.uclampMax = some maximum →
        ObservedText.accepts (uclampText minimum maximum) = true) ↔
      ∀ root ∈ cgroup, ∀ minimum maximum, Reads root "cpu.uclamp.min" minimum →
        Reads root "cpu.uclamp.max" maximum →
          ObservedText.accepts (uclampText minimum maximum) = true := by
  obtain ⟨minimums, maximums⟩ := detectCgroup_eq_ok ok
  simp only [minimums, maximums]
  cases cgroup with
  | none => simp
  | some root => simp

theorem presentable_of_returns (returns : Returns (observe sources (.ok observedAt))) :
    Presentable sources := by
  obtain ⟨result, discovered, returns⟩ := returns_bind_iff.mp returns
  cases result with
  | error error => exact absurd discovered discover_ne_error
  | ok report =>
      obtain ⟨⟨_, cpufreq⟩, _, cgroup⟩ := discover_eq_ok discovered
      obtain ⟨preferences, clamps⟩ := returns_currentState_iff.mp returns
      constructor
      · exact returns_detectGpus_iff.mp (returns_discover_iff.mp ⟨_, discovered⟩)
      · exact (preferences_iff cpufreq).mp preferences
      · exact (clamps_iff cgroup).mp clamps

theorem returns_of_presentable (presentable : Presentable sources) :
    Returns (observe sources (.ok observedAt)) := by
  apply Returns.bind
    (returns_discover_iff.mpr (returns_detectGpus_iff.mpr presentable.cards))
  intro result discovered
  cases result with
  | error error => exact returns_ok _
  | ok report =>
      obtain ⟨⟨_, cpufreq⟩, _, cgroup⟩ := discover_eq_ok discovered
      refine returns_currentState_iff.mpr ⟨?_, ?_⟩
      · exact (preferences_iff cpufreq).mpr presentable.preferences
      · exact (clamps_iff cgroup).mpr presentable.clamps

/-- Discovery and its projection run to completion exactly on roots that are
presentable. -/
theorem observe_returns_iff (sources : DiscoverySources) (observedAt : Timestamp) :
    Returns (observe sources (.ok observedAt)) ↔ Presentable sources :=
  ⟨presentable_of_returns, returns_of_presentable⟩

/-- A root without any node. -/
def emptyRoot : ReadOnlyFileSystem where
  read _ := .error (.new .targetError "node is not exposed")
  identity _ := .error (.new .targetError "node is not exposed")
  list _ := .error (.new .targetError "node is not exposed")

/-- A policy whose energy preference is an empty line. -/
def blankPreference : DiscoverySources where
  sysfs := { emptyRoot with
    read := fun path =>
      if path.asStr = "devices/system/cpu/cpufreq/policy0/energy_performance_preference" then
        .ok [10]
      else emptyRoot.read path
    list := fun path =>
      if path.map RelativePath.asStr = some cpufreqPath then .ok [⟨"policy0", .directory⟩]
      else emptyRoot.list path }
  procfs := emptyRoot
  cgroup := none
  run := none

/-- The empty text of a preference stops the process. -/
theorem observe_blankPreference : ¬Returns (observe blankPreference (.ok ⟨0⟩)) := by
  intro returns
  have listed : ListsPolicy blankPreference.sysfs 0 :=
    ⟨[⟨"policy0", .directory⟩], ⟨⟨cpufreqPath, rfl⟩, rfl, rfl⟩, by decide⟩
  have reads : Reads blankPreference.sysfs
      (policyPath 0 ++ "/energy_performance_preference") "" :=
    ⟨⟨_, rfl⟩, [10], "\n", rfl, rfl, by decide, rfl, rfl⟩
  have accepted := (presentable_of_returns returns).preferences 0 listed "" reads
  exact absurd accepted (by decide)

end Sysboost.Linux.Discovery
