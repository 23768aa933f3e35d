import Sysboost.Linux.WorkloadHonesty
import Sysboost.Ordered.Map

/-!
# Removing a managed group

The production adapter looks at the processes and at the directory entries of a
group before it removes it, the fixture at the processes and at the paths of the
other groups.  The production adapter takes any entry for a nested group whose
name does not begin like that of a control file of the group itself.
-/

namespace Sysboost.Linux.Workload

open Sysboost.Core Sysboost.Planner ByteCodec Interaction Results
open Storage (IoErrorKind)

/-! ## The content of a group -/

/-- An interface file, or the directory of a nested group. -/
structure GroupEntry where
  name : Bytes
  isGroup : Bool

structure GroupContent where
  processes : List ProcessId
  entries : List GroupEntry

namespace GroupContent

variable (content : GroupContent)

/-- What `cgroup.procs` shows: the processes, one in a line. -/
def procs : Bytes :=
  content.processes.flatMap fun process => decimal process.pid.toNat ++ [10]

/-- There are no processes and no nested groups. -/
structure Vacant : Prop where
  idle : content.processes = []
  flat : ∀ entry ∈ content.entries, entry.isGroup = false

variable {content}

/-- Only a group without processes shows nothing but white space. -/
theorem procs_all_isAsciiWhitespace_iff :
    content.procs.all isAsciiWhitespace = true ↔ content.processes = [] := by
  constructor
  · intro blank
    cases listed : content.processes with
    | nil => rfl
    | cons process rest =>
        have nonempty : decimal process.pid.toNat ≠ [] := decimal_ne_nil
        obtain ⟨digit, member⟩ := List.exists_mem_of_ne_nil _ nonempty
        have white := List.all_eq_true.mp blank digit (by simp [procs, listed, member])
        have number := isAsciiDigit_of_mem_decimal member
        simp only [isAsciiWhitespace, Bool.or_eq_true, beq_iff_eq] at white
        rcases white with (((rfl | rfl) | rfl) | rfl) | rfl
        all_goals exact absurd number (by decide)
  · intro idle
    rw [procs, idle]
    rfl

end GroupContent

/-! ## The production adapter -/

abbrev SysfsGroup.control (group : SysfsGroup) (control : WorkloadControlFile) : Kernel.Path :=
  group.file control.filename

/-- The answers show a group that the adapter has discovered below a parent, still
in its place, with its content. -/
structure Shows (answer : (request : Call) → Answer request) (parent : SysfsGroup)
    (name : CgroupName) (child : SysfsGroup) (content : GroupContent) : Prop where
  handle : childTarget parent.identity.handle name = .ok child.identity.handle
  known : answer (.group child.identity.handle) = .ok (some child)
  current : (groupFor child.identity).result answer = .ok child
  procsFile : ∃ metadata, metadata.fileType = .file ∧
    answer (.kernel (.symlinkMetadata (child.control .procs))) = .ok metadata
  opens : answer (.kernel (.openRead (child.control .procs))) = .ok ()
  procs : answer (.kernel (.readToEnd (child.control .procs) none)) = .ok content.procs
  entries : answer (.kernel (.readDirectory child.path)) =
    .ok (content.entries.map fun entry => .ok entry.name)

/-- `remove_child` proceeds to the removal. -/
def Proceeds (answer : (request : Call) → Answer request) (parent : SysfsGroup)
    (name : CgroupName) (child : SysfsGroup) : Prop :=
  Call.kernel (.removeDirectory child.path) ∈ (removeChild parent name).calls answer

section Production

variable {answer : (request : Call) → Answer request} {parent child : SysfsGroup}
  {name : CgroupName} {content : GroupContent}

/-- The removal is not among the calls that only read. -/
theorem not_mem_calls_of_reads {α : Type} {program : Io α} {path : Kernel.Path}
    (reads : Reads program) :
    Call.kernel (.removeDirectory path) ∉ program.calls answer :=
  fun member => Bool.noConfusion (Within.of_mem_calls answer reads member : true = false)

theorem groupFor_reads (cgroup : CgroupId) : Reads (groupFor cgroup) :=
  ((groupFor_calls cgroup).weaken fun _ finds => finds.findsProcess.onlyReads.reads).calls

theorem readControl_reads (group : SysfsGroup) (control : WorkloadControlFile) :
    Reads (readControl group control) :=
  ((readClosedFile_calls _ _).weaken fun _ reads =>
    reads.findsGroup.findsProcess.onlyReads.reads).calls

theorem Shows.readControl_procs_iff (shows' : Shows answer parent name child content)
    {procs : Bytes} :
    (readControl child .procs).result answer = .ok procs ↔
      content.procs.length ≤ maxReadBytes ∧ procs = content.procs := by
  have file : ShowsFile answer (child.control .procs) content.procs :=
    ⟨shows'.procsFile, shows'.opens, shows'.procs⟩
  rw [readControl, file.result_readClosedFile]
  split
  · simp only [reduceCtorEq, false_iff, not_and]
    omega
  next fits => simp [not_lt.mp fits, eq_comm]

theorem Shows.proceeds_iff (shows' : Shows answer parent name child content) :
    Proceeds answer parent name child ↔
      content.processes = [] ∧ ∀ entry ∈ content.entries, isNested (.ok entry.name) = false := by
  have target : (Early.check (childTarget parent.identity.handle name) : Io TargetId).result
      answer = .ok child.identity.handle := shows'.handle
  have looksUp : Reads (locked (Prog.perform (Call.group child.identity.handle)) : Io _) :=
    .attempt (onlyReads_perform rfl)
  have found : (locked (Prog.perform (Call.group child.identity.handle))).result answer =
      .ok (some child) := by
    simp [locked, shows'.known, Except.mapError]
  have listed : (Early.attempt (ioError "managed cgroup children cannot be inspected")
      (Prog.perform (Call.kernel (.readDirectory child.path))) : Io _).result answer =
        .ok (content.entries.map fun entry => .ok entry.name) := by
    simp [shows'.entries, Except.mapError]
  have lists : Reads (Early.attempt (ioError "managed cgroup children cannot be inspected")
      (Prog.perform (Call.kernel (.readDirectory child.path))) : Io _) :=
    .attempt (onlyReads_perform rfl)
  unfold Proceeds removeChild
  rw [Early.mem_calls_bind_of_result _ (not_mem_calls_of_reads (.check _)) target,
    Early.mem_calls_bind_of_result _ (not_mem_calls_of_reads looksUp) found]
  dsimp only
  rw [Early.mem_calls_bind_of_result _ (not_mem_calls_of_reads (groupFor_reads _)) shows'.current]
  rw [Early.mem_calls_bind_iff, or_iff_right (not_mem_calls_of_reads (readControl_reads _ _))]
  -- The removal is the first call after the checks.
  have removes (rest : Unit → Io Unit) :
      Call.kernel (.removeDirectory child.path) ∈
        (Early.attempt (ioError "managed cgroup could not be removed safely")
          (Prog.perform (Call.kernel (.removeDirectory child.path))) >>= rest).calls answer :=
    List.mem_cons_self
  simp only [Early.mem_calls_refuseIf_bind_iff, removes, and_true,
    Early.mem_calls_bind_of_result _ (not_mem_calls_of_reads lists) listed, List.any_map,
    shows'.readControl_procs_iff]
  constructor
  · rintro ⟨_, ⟨-, rfl⟩, blank, plain⟩
    refine ⟨GroupContent.procs_all_isAsciiWhitespace_iff.mp (by simpa using blank), ?_⟩
    simpa using plain
  · rintro ⟨idle, plain⟩
    have blank := GroupContent.procs_all_isAsciiWhitespace_iff.mpr idle
    refine ⟨_, ⟨?_, rfl⟩, by rw [blank]; rfl, by simpa using plain⟩
    rw [GroupContent.procs, idle]
    exact Nat.zero_le _

end Production

/-! ## The fixture -/

structure FixtureGroup where
  identity : CgroupId
  relativePath : String
  processes : List ProcessId
deriving DecidableEq

structure CgroupFixtureState where
  groups : OrderedMap TargetId FixtureGroup

def resolveGroup (state : CgroupFixtureState) (cgroup : CgroupId) :
    Except SysboostError FixtureGroup :=
  match state.groups.get cgroup.handle with
  | none => .error (targetError "cgroup target was not discovered")
  | some group =>
      if (cgroup.mountId ≠ 0 ∧ cgroup.mountId ≠ group.identity.mountId) ∨
          (cgroup.inode ≠ 0 ∧ cgroup.inode ≠ group.identity.inode) then
        .error (targetError "cgroup target identity does not match discovery")
      else .ok group

/-- The path of a candidate begins with that of the group and a separator. -/
def FixtureGroup.isAbove (group candidate : FixtureGroup) : Bool :=
  (group.relativePath ++ "/").toList.isPrefixOf candidate.relativePath.toList

def removeFixtureGroup (state : CgroupFixtureState) (parent : CgroupId) (name : CgroupName) :
    Except SysboostError CgroupFixtureState := do
  let parentGroup ← resolveGroup state parent
  let target ← childTarget parent.handle name
  match state.groups.get target with
  | none => throw (targetError "managed cgroup disappeared before cleanup")
  | some group =>
      if !group.processes.isEmpty || state.groups.values.any group.isAbove then
        throw (workloadError .restoreError
          "managed cgroup is not empty and cannot be removed safely")
      if parentGroup.relativePath = group.relativePath then
        throw (targetError "managed cgroup parent and child are identical")
      return ⟨state.groups.remove target⟩

/-- The path that both adapters give to a child. -/
def childPath (parent : String) (name : CgroupName) : String :=
  if parent.isEmpty then name.get else parent ++ "/" ++ name.get

/-- The fixture keeps the group with its content: its processes, and the groups
below it at their paths. -/
structure Mirrors (state : CgroupFixtureState) (parent : CgroupId) (name : CgroupName)
    (content : GroupContent) (target : TargetId) (parentGroup group : FixtureGroup) : Prop where
  resolved : resolveGroup state parent = .ok parentGroup
  handle : childTarget parent.handle name = .ok target
  known : state.groups.get target = some group
  path : group.relativePath = childPath parentGroup.relativePath name
  processes : ∀ process, process ∈ group.processes ↔ process ∈ content.processes
  nested : ∀ entry ∈ content.entries, entry.isGroup = true →
    ∃ candidate ∈ state.groups.values, ∃ text, fromUtf8 entry.name = some text ∧
      candidate.relativePath = group.relativePath ++ "/" ++ text
  below : ∀ candidate ∈ state.groups.values, group.isAbove candidate = true →
    ∃ entry ∈ content.entries, entry.isGroup = true

/-- `remove_fixture_group` removes the group. -/
def Removes (state : CgroupFixtureState) (parent : CgroupId) (name : CgroupName)
    (target : TargetId) : Prop :=
  ∃ after, removeFixtureGroup state parent name = .ok after ∧ after.groups.get target = none

/-- A child has another path than its parent. -/
theorem childPath_ne (parent : String) (name : CgroupName) : parent ≠ childPath parent name := by
  intro same
  unfold childPath at same
  split at same
  next empty =>
    have filled := name.fieldText.nonempty
    rw [← same, empty] at filled
    cases filled
  · have longer := congrArg String.length same
    rw [String.length_append, String.length_append] at longer
    have separator : "/".length = 1 := rfl
    omega

section Fixture

variable {state : CgroupFixtureState} {parent : CgroupId} {name : CgroupName}
  {content : GroupContent} {target : TargetId} {parentGroup group : FixtureGroup}

theorem Mirrors.isEmpty_iff (mirrors : Mirrors state parent name content target parentGroup group) :
    group.processes.isEmpty = true ↔ content.processes = [] := by
  rw [List.isEmpty_iff, List.eq_nil_iff_forall_not_mem, List.eq_nil_iff_forall_not_mem]
  exact forall_congr' fun process => not_congr (mirrors.processes process)

theorem Mirrors.any_isAbove_iff
    (mirrors : Mirrors state parent name content target parentGroup group) :
    state.groups.values.any group.isAbove = true ↔
      ∃ entry ∈ content.entries, entry.isGroup = true := by
  rw [List.any_eq_true]
  constructor
  · rintro ⟨candidate, member, above⟩
    exact mirrors.below candidate member above
  · rintro ⟨entry, member, isGroup⟩
    obtain ⟨candidate, kept, text, -, path⟩ := mirrors.nested entry member isGroup
    refine ⟨candidate, kept, ?_⟩
    have whole : (group.relativePath ++ "/" ++ text).toList =
        (group.relativePath ++ "/").toList ++ text.toList := String.toList_append
    rw [FixtureGroup.isAbove, path, whole, List.isPrefixOf_iff_prefix]
    exact List.prefix_append _ _

/-- The fixture removes a group exactly when it is vacant. -/
theorem Mirrors.removes_iff
    (mirrors : Mirrors state parent name content target parentGroup group) :
    Removes state parent name target ↔ content.Vacant := by
  have distinct : parentGroup.relativePath ≠ group.relativePath := by
    rw [mirrors.path]
    exact childPath_ne _ _
  have runs : removeFixtureGroup state parent name =
      if !group.processes.isEmpty || state.groups.values.any group.isAbove then
        .error (workloadError .restoreError
          "managed cgroup is not empty and cannot be removed safely")
      else .ok ⟨state.groups.remove target⟩ := by
    simp only [removeFixtureGroup, mirrors.resolved, mirrors.handle, bind, Except.bind,
      mirrors.known, if_neg distinct]
    rfl
  rw [Removes, runs]
  constructor
  · rintro ⟨after, ok, -⟩
    split at ok
    · cases ok
    next vacant =>
      simp only [Bool.or_eq_true, Bool.not_eq_true', not_or, Bool.not_eq_false] at vacant
      refine ⟨mirrors.isEmpty_iff.mp vacant.1, fun entry member => ?_⟩
      by_contra isGroup
      exact vacant.2 (mirrors.any_isAbove_iff.mpr ⟨entry, member, by simpa using isGroup⟩)
  · rintro ⟨idle, flat⟩
    refine ⟨_, if_neg ?_, OrderedMap.get_remove_self _ _⟩
    simp only [Bool.or_eq_true, Bool.not_eq_true', not_or, Bool.not_eq_false]
    refine ⟨mirrors.isEmpty_iff.mpr idle, fun above => ?_⟩
    obtain ⟨entry, member, isGroup⟩ := mirrors.any_isAbove_iff.mp above
    rw [flat entry member] at isGroup
    cases isGroup

end Fixture

/-! ## Agreement -/

/-- The removal is exact: each adapter carries it out when the group is vacant, and
at no other time. -/
structure RemovalExact (answer : (request : Call) → Answer request) (parent : SysfsGroup)
    (name : CgroupName) (child : SysfsGroup) (content : GroupContent) : Prop where
  production : Proceeds answer parent name child ↔ content.Vacant
  fixture : ∀ state target parentGroup group,
    Mirrors state parent.identity name content target parentGroup group →
      (Removes state parent.identity name target ↔ content.Vacant)

/-- Some entry is taken for a nested group exactly when there is one. -/
def GroupContent.Discernible (content : GroupContent) : Prop :=
  (∃ entry ∈ content.entries, isNested (.ok entry.name) = true) ↔
    ∃ entry ∈ content.entries, entry.isGroup = true

theorem removal_exact_iff {answer : (request : Call) → Answer request} {parent child : SysfsGroup}
    {name : CgroupName} {content : GroupContent} (shows' : Shows answer parent name child content) :
    RemovalExact answer parent name child content ↔
      content.processes ≠ [] ∨ content.Discernible := by
  have vacant : content.Vacant ↔ content.processes = [] ∧
      ¬∃ entry ∈ content.entries, entry.isGroup = true := by
    constructor
    · rintro ⟨idle, flat⟩
      exact ⟨idle, fun ⟨entry, member, isGroup⟩ => by simp [flat entry member] at isGroup⟩
    · rintro ⟨idle, flat⟩
      exact ⟨idle, fun entry member => by simpa using fun isGroup => flat ⟨entry, member, isGroup⟩⟩
  have plain : (∀ entry ∈ content.entries, isNested (.ok entry.name) = false) ↔
      ¬∃ entry ∈ content.entries, isNested (.ok entry.name) = true := by
    simp
  constructor
  · intro exact'
    have production := exact'.production
    rw [shows'.proceeds_iff, vacant, plain] at production
    by_cases idle : content.processes = []
    · exact .inr (not_iff_not.mp (by simpa only [idle, true_and] using production))
    · exact .inl idle
  · intro holds
    constructor
    · rw [shows'.proceeds_iff, vacant, plain]
      rcases holds with busy | discernible
      · simp [busy]
      · rw [GroupContent.Discernible] at discernible
        rw [discernible]
    · exact fun _ _ _ _ mirrors => mirrors.removes_iff

namespace Fixture

def root : SysfsGroup :=
  ⟨⟨1, 1, ⟨"cgroup-root", by decide +kernel⟩⟩, "", ["sys", "fs", "cgroup"]⟩

def name : CgroupName :=
  ⟨"game", by decide +kernel⟩

def child : SysfsGroup :=
  ⟨⟨1, 2, ⟨"cgroup-root.game", by decide +kernel⟩⟩, "game", ["sys", "fs", "cgroup", "game"]⟩

/-- A kernel that shows a child of the root with its content. -/
def answer (content : GroupContent) : (request : Call) → Answer request
  | .group _ | .groupAt _ => .ok (some child)
  | .insertGroup _ _ | .removeGroup _ => .ok ()
  | .kernel (.symlinkMetadata path) | .kernel (.fileMetadata path) =>
      .ok ⟨if path = child.path then .directory else .file, 1, 2, false⟩
  | .kernel (.openRead _) => .ok ()
  | .kernel (.readToEnd _ _) => .ok content.procs
  | .kernel (.readDirectory _) => .ok (content.entries.map fun entry => .ok entry.name)
  | .kernel (.canonicalize _) => .error .other
  | .kernel (.openWrite _) => .error .other
  | .kernel (.writeAll _ _) => .error .other
  | .kernel (.createDirectory _) => .error .other
  | .kernel (.removeDirectory _) => .ok ()
  | .kernel (.getPriority _) => .error .other
  | .kernel (.setPriority _ _) => .error .other

theorem shows_identity (content : GroupContent) (message : String) :
    (cgroupIdFromPath child.identity.handle.asStr child.path message).result (answer content) =
      .ok child.identity := by
  have shown : (symlinkMetadata child.path message).result (answer content) =
      .ok ⟨.directory, 1, 2, false⟩ := rfl
  have remade : (Early.check ((TextId.new child.identity.handle.asStr).mapError fun _ =>
      targetError "cgroup target handle is invalid") : Io TargetId).result (answer content) =
        .ok child.identity.handle := by
    rw [Early.result_check, TextId.new_asStr]
    rfl
  rw [cgroupIdFromPath, Early.result_bind_of_ok _ shown, Early.result_refuseIf_bind_ok_iff]
  refine ⟨rfl, ?_⟩
  rw [Early.result_bind_of_ok _ remade]
  rfl

theorem shows_content (content : GroupContent) :
    Shows (answer content) root name child content := by
  constructor
  · decide +kernel
  · rfl
  · have found : (locked (Prog.perform (Call.group child.identity.handle))).result
        (answer content) = .ok (some child) := rfl
    rw [groupFor, Early.result_refuseIf_bind_ok_iff]
    refine ⟨rfl, ?_⟩
    rw [Early.result_bind_of_ok _ found]
    dsimp only
    rw [Early.result_refuseIf_bind_ok_iff]
    refine ⟨by simp, ?_⟩
    rw [Early.result_bind_of_ok _ (shows_identity content _), Early.result_refuseIf_bind_ok_iff]
    exact ⟨by simp, rfl⟩
  · exact ⟨_, rfl, rfl⟩
  · rfl
  · rfl
  · rfl

/-- A group of which only the files of the group itself show. -/
def bare : GroupContent :=
  ⟨[], [⟨utf8 "cgroup.procs", false⟩, ⟨utf8 "cgroup.events", false⟩]⟩

/-- A group below one that has handed the CPU controller down. -/
def weighted : GroupContent :=
  ⟨[], [⟨utf8 "cgroup.procs", false⟩, ⟨utf8 "cpu.weight", false⟩]⟩

def state : CgroupFixtureState :=
  ⟨(OrderedMap.empty.insert root.identity.handle ⟨root.identity, "", []⟩).insert
    child.identity.handle ⟨child.identity, "game", []⟩⟩

theorem mirrors_weighted : Mirrors state root.identity name weighted child.identity.handle
    ⟨root.identity, "", []⟩ ⟨child.identity, "game", []⟩ := by
  constructor
  · decide +kernel
  · decide +kernel
  · decide +kernel
  · decide +kernel
  · simp [weighted]
  · simp [weighted]
  · have none : (state.groups.values.all fun candidate =>
        !FixtureGroup.isAbove ⟨child.identity, "game", []⟩ candidate) = true := by
      decide +kernel
    intro candidate member above
    have other := List.all_eq_true.mp none candidate member
    rw [above] at other
    cases other

end Fixture

theorem removal_exact_bare :
    RemovalExact (Fixture.answer Fixture.bare) Fixture.root Fixture.name Fixture.child
      Fixture.bare := by
  refine (removal_exact_iff (Fixture.shows_content Fixture.bare)).mpr (.inr ?_)
  have holds : (Fixture.bare.entries.any fun entry => isNested (.ok entry.name)) = false ∧
      (Fixture.bare.entries.any fun entry => entry.isGroup) = false := by
    decide +kernel
  rw [GroupContent.Discernible, ← List.any_eq_true, ← List.any_eq_true, holds.1, holds.2]

/-- The fixture removes the group, and the production adapter takes its weight for
a nested group. -/
theorem removal_refused_weighted :
    Removes Fixture.state Fixture.root.identity Fixture.name Fixture.child.identity.handle ∧
      ¬Proceeds (Fixture.answer Fixture.weighted) Fixture.root Fixture.name Fixture.child ∧
      ¬RemovalExact (Fixture.answer Fixture.weighted) Fixture.root Fixture.name Fixture.child
        Fixture.weighted := by
  have vacant : Fixture.weighted.Vacant := ⟨rfl, by simp [Fixture.weighted]⟩
  have taken : (Fixture.weighted.entries.any fun entry => isNested (.ok entry.name)) = true := by
    decide +kernel
  have refused : ¬Proceeds (Fixture.answer Fixture.weighted) Fixture.root Fixture.name
      Fixture.child := by
    rw [(Fixture.shows_content Fixture.weighted).proceeds_iff]
    rintro ⟨-, plain⟩
    obtain ⟨entry, member, nested⟩ := List.any_eq_true.mp taken
    rw [plain entry member] at nested
    cases nested
  exact ⟨Fixture.mirrors_weighted.removes_iff.mpr vacant, refused,
    fun exact' => refused (exact'.production.mpr vacant)⟩

end Sysboost.Linux.Workload
