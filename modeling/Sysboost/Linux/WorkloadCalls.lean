import Sysboost.Interaction.Raising
import Sysboost.Interaction.Static
import Sysboost.Linux.WorkloadBackend

/-!
# The calls of the workload adapter

For each function of the adapter, what it calls and that its errors keep the
default retry guidance.
-/

namespace Sysboost.Linux.Workload

open Sysboost.Core Sysboost.Planner ByteCodec Interaction Results

/-! ## Kinds of calls -/

/-- Inspecting and reading files. -/
def Call.ReadsFile : Call → Prop
  | .kernel (.symlinkMetadata _) | .kernel (.openRead _) | .kernel (.readToEnd _ _) => True
  | _ => False

/-- Looking a group up by its handle as well. -/
def Call.FindsGroup : Call → Prop
  | .group _ => True
  | call => call.ReadsFile

/-- Looking a group up by its path as well. -/
def Call.FindsProcess : Call → Prop
  | .groupAt _ => True
  | call => call.FindsGroup

/-- Everything but the calls by which a value is recognised as read. -/
def Call.Acts : Call → Prop
  | .group _ | .groupAt _ | .kernel (.getPriority _) => False
  | _ => True

/-- No file is written, but perhaps the given one. -/
def Call.WritesTo (file : Option Kernel.Path) : Call → Prop
  | .kernel (.writeAll path _) => file = some path
  | _ => True

/-- Acting, with no file written but perhaps the given one. -/
def Call.ActsOn (file : Option Kernel.Path) (call : Call) : Prop :=
  call.Acts ∧ call.WritesTo file

/-- Everything that neither writes nor changes the table. -/
def Call.OnlyReads : Call → Prop
  | .kernel call => Writing.writes call = false
  | .insertGroup _ _ | .removeGroup _ => False
  | _ => True

theorem Call.OnlyReads.reads {call : Call} (reads : call.OnlyReads) :
    Writing.writes call = false := by
  cases call with
  | kernel call => exact reads
  | _ => rfl

theorem Call.ReadsFile.findsGroup {call : Call} (reads : call.ReadsFile) : call.FindsGroup := by
  unfold Call.FindsGroup
  split
  · trivial
  · exact reads

theorem Call.FindsGroup.findsProcess {call : Call} (finds : call.FindsGroup) :
    call.FindsProcess := by
  unfold Call.FindsProcess
  split
  · trivial
  · exact finds

theorem Call.FindsProcess.onlyReads {call : Call} (finds : call.FindsProcess) :
    call.OnlyReads := by
  cases call with
  | kernel call =>
      cases call with
      | symlinkMetadata path => rfl
      | openRead path => rfl
      | readToEnd path limit => rfl
      | _ => exact finds.elim
  | group handle => trivial
  | groupAt relativePath => trivial
  | _ => exact finds.elim

theorem Call.ReadsFile.acts {call : Call} (reads : call.ReadsFile) : call.Acts := by
  unfold Call.Acts
  split
  · exact reads
  · exact reads
  · exact reads
  · trivial

theorem Call.OnlyReads.writesTo {call : Call} (reads : call.OnlyReads)
    (file : Option Kernel.Path) : call.WritesTo file := by
  unfold Call.WritesTo
  split
  · cases reads
  · trivial

theorem Call.ReadsFile.actsOn {call : Call} (reads : call.ReadsFile)
    (file : Option Kernel.Path) : call.ActsOn file := by
  constructor
  · exact reads.acts
  · exact reads.findsGroup.findsProcess.onlyReads.writesTo file

/-! ## Errors -/

/-- The default retry guidance. -/
def Never (error : SysboostError) : Prop :=
  error.retryability = .never

theorem ioError_never (message : String) (kind : Storage.IoErrorKind) :
    Never (ioError message kind) := by
  cases kind with
  | permissionDenied => rfl
  | notFound => rfl
  | alreadyExists => rfl
  | other => rfl

theorem raises_utf8Text (message : String) (raw : Bytes) : Raises Never (utf8Text message raw) := by
  unfold utf8Text
  split
  · exact raises_ok _
  · exact raises_error rfl

theorem raises_number (bound : Nat) (message text : String) :
    Raises Never (number bound message text) := by
  unfold number
  split
  · exact raises_ok _
  · exact raises_error rfl

theorem raises_parseUclamp (raw : Bytes) : Raises Never (parseUclamp raw) := by
  refine raises_bind (raises_utf8Text _ _) fun _ _ => ?_
  dsimp only
  split
  · exact raises_ok _
  · refine raises_bind (raises_number _ _ _) fun _ _ => ?_
    exact raises_ite (fun _ => raises_error rfl) fun _ => raises_ok _

theorem raises_parseCpusetPart (part : String) : Raises Never (parseCpusetPart part) := by
  unfold parseCpusetPart
  refine raises_ite (fun _ => raises_error rfl) fun _ => ?_
  split
  · refine raises_bind (raises_number _ _ _) fun _ _ => ?_
    refine raises_bind (raises_number _ _ _) fun _ _ => ?_
    exact raises_ite (fun _ => raises_error rfl) fun _ => raises_ok _
  · exact raises_bind (raises_number _ _ _) fun _ _ => raises_ok _

theorem raises_parseCpuset (text : String) : Raises Never (parseCpuset text) := by
  refine raises_bind (raises_foldlM (fun cpus part _ => ?_) _) fun _ _ => ?_
  · refine raises_bind (raises_parseCpusetPart part) fun _ _ => ?_
    exact raises_ite (fun _ => raises_error rfl) fun _ => raises_ok _
  · exact raises_mapError fun _ => rfl

theorem raises_parseQuota (quota : String) : Raises Never (parseQuota quota) := by
  refine raises_ite (fun _ => raises_ok _) fun _ => ?_
  refine raises_bind (raises_number _ _ _) fun _ _ => ?_
  exact raises_ite (fun _ => raises_error rfl) fun _ => raises_ok _

theorem raises_parseCpuMax (text : String) : Raises Never (parseCpuMax text) := by
  unfold parseCpuMax
  split
  · exact raises_error rfl
  · refine raises_bind (raises_parseQuota _) fun _ _ => ?_
    split
    · exact raises_error rfl
    · refine raises_bind (raises_number _ _ _) fun _ _ => ?_
      refine raises_bind (Bounded.raises_new (by rfl) _) fun _ _ => ?_
      exact raises_ite (fun _ => raises_error rfl) fun _ => raises_ok _

theorem raises_parseIoWeight (text : String) : Raises Never (parseIoWeight text) := by
  refine raises_bind (raises_foldlM (fun weight line _ => ?_) _) fun _ _ => ?_
  · unfold parseIoWeightLine
    split
    · refine raises_ite (fun _ => raises_error rfl) fun _ => ?_
      refine raises_bind (raises_number _ _ _) fun _ _ => ?_
      exact raises_bind (Bounded.raises_new (by rfl) _) fun _ _ => raises_ok _
    · exact raises_error rfl
    · exact raises_error rfl
  · split
    · exact raises_ok _
    · exact raises_error rfl

theorem raises_parseWorkloadNode (node : WorkloadNode) (raw : Bytes) :
    Raises Never (parseWorkloadNode node raw) := by
  refine raises_bind (raises_utf8Text _ _) fun _ _ => ?_
  cases node with
  | cpuWeight =>
      refine raises_bind (raises_number _ _ _) fun _ _ => ?_
      exact raises_bind (Bounded.raises_new (by rfl) _) fun _ _ => raises_ok _
  | cpuMax => exact raises_parseCpuMax _
  | cpusetCpus => exact raises_bind (raises_parseCpuset _) fun _ _ => raises_ok _
  | ioWeight => exact raises_parseIoWeight _
  | uclampMin => exact raises_bind (raises_parseUclamp _) fun _ _ => raises_ok _
  | uclampMax => exact raises_bind (raises_parseUclamp _) fun _ _ => raises_ok _

theorem raises_parseStartTime (message : String) (raw : Bytes) :
    Raises Never (parseStartTime message raw) := by
  refine raises_bind (raises_utf8Text _ _) fun _ _ => ?_
  split
  · exact raises_error rfl
  · split
    · exact raises_ite (fun _ => raises_error rfl) fun _ => raises_ok _
    · exact raises_error rfl

theorem raises_parseProcessCgroup (raw : Bytes) : Raises Never (parseProcessCgroup raw) := by
  refine raises_bind (raises_utf8Text _ _) fun _ _ => ?_
  split
  · exact raises_ok _
  · exact raises_error rfl

theorem raises_processId (pid : UInt32) (startTimeTicks : UInt64) :
    Raises Never (ProcessId.new pid startTimeTicks) := by
  unfold ProcessId.new
  split
  · exact raises_ok _
  · exact raises_error rfl

theorem raises_observation (raw : Bytes) (typed : TypedValue) (identity : TargetIdentity) :
    Raises Never (WorkloadObservation.new raw typed identity) :=
  raises_bind (Bounded.raises_new (by rfl) _) fun _ _ => raises_ok _

theorem raises_validateUclampPair (minimum maximum : UclampValue) :
    Raises Never (validateUclampPair minimum maximum) :=
  raises_ite (fun _ => raises_error rfl) fun _ => raises_ok _

/-! ## Files and groups -/

/-- The calls of a program that keeps the default retry guidance. -/
abbrev Calls {α : Type} (allowed : Call → Prop) (program : Io α) : Prop :=
  Raising allowed Never program

theorem symlinkMetadata_calls (path : Kernel.Path) (message : String) :
    Calls Call.ReadsFile (symlinkMetadata path message) :=
  .call trivial (fun answer => ⟨answer, rfl⟩) fun _ => ioError_never _ _

theorem validateRegularFile_calls (path : Kernel.Path) (message : String) :
    Calls Call.ReadsFile (validateRegularFile path message) :=
  .bind (symlinkMetadata_calls _ _) fun _ => .bind (.refuseIf rfl) fun _ => .pure _

theorem readClosedFile_calls (path : Kernel.Path) (message : String) :
    Calls Call.ReadsFile (readClosedFile path message) := by
  refine .bind (validateRegularFile_calls _ _) fun _ => ?_
  refine .bind (.call trivial (fun answer => ⟨answer, rfl⟩) fun _ => ioError_never _ _) fun _ => ?_
  refine .bind (.call trivial (fun answer => ⟨answer, rfl⟩) fun _ => ioError_never _ _) fun _ => ?_
  exact .bind (.refuseIf rfl) fun _ => .pure _

/-- The answers show a regular file with its content. -/
structure ShowsFile (answer : (request : Call) → Answer request) (path : Kernel.Path)
    (content : Bytes) : Prop where
  regular : ∃ metadata, metadata.fileType = .file ∧
    answer (.kernel (.symlinkMetadata path)) = .ok metadata
  opens : answer (.kernel (.openRead path)) = .ok ()
  reads : answer (.kernel (.readToEnd path none)) = .ok content

/-- The content of a file is read whole, or refused for its size. -/
theorem ShowsFile.result_readClosedFile {answer : (request : Call) → Answer request}
    {path : Kernel.Path} {content : Bytes} (shows' : ShowsFile answer path content)
    (message : String) :
    (readClosedFile path message).result answer =
      if maxReadBytes < content.length then
        .error (targetError "workload control file is oversized")
      else .ok content := by
  obtain ⟨metadata, isFile, found⟩ := shows'.regular
  have regular : (validateRegularFile path message).result answer = .ok metadata := by
    rw [validateRegularFile, Early.result_bind_ok_iff]
    refine ⟨metadata, by simp [symlinkMetadata, found, Except.mapError], ?_⟩
    rw [Early.result_refuseIf_bind_ok_iff]
    exact ⟨by simp [isFile], rfl⟩
  have opened : (Early.attempt (ioError message)
      (Prog.perform (Call.kernel (.openRead path))) : Io Unit).result answer = .ok () := by
    simp [shows'.opens, Except.mapError]
  have read : (Early.attempt (ioError message)
      (Prog.perform (Call.kernel (.readToEnd path none))) : Io Bytes).result answer =
        .ok content := by
    simp [shows'.reads, Except.mapError]
  rw [readClosedFile, Early.result_bind_of_ok _ regular, Early.result_bind_of_ok _ opened,
    Early.result_bind_of_ok _ read, Early.result_refuseIf_bind]
  simp

theorem cgroupIdFromPath_calls (handle : String) (path : Kernel.Path) (message : String) :
    Calls Call.ReadsFile (cgroupIdFromPath handle path message) :=
  .bind (symlinkMetadata_calls _ _) fun _ => .bind (.refuseIf rfl) fun _ =>
    .bind (.check (raises_mapError fun _ => rfl)) fun _ => .pure _

theorem groupFor_calls (cgroup : CgroupId) : Calls Call.FindsGroup (groupFor cgroup) := by
  refine .bind (.refuseIf rfl) fun _ => ?_
  refine .bind (.call trivial (fun answer => ⟨answer, rfl⟩) fun _ => rfl) fun found => ?_
  cases found with
  | none => exact .throw rfl
  | some group =>
      refine .bind (.refuseIf rfl) fun _ => ?_
      refine .bind ((cgroupIdFromPath_calls _ _ _).weaken fun _ => Call.ReadsFile.findsGroup)
        fun _ => ?_
      exact .bind (.refuseIf rfl) fun _ => .pure _

theorem requireController_calls (group : SysfsGroup) (controller : String) :
    Calls Call.ReadsFile (requireController group controller) :=
  .bind (readClosedFile_calls _ _) fun _ => .bind (readClosedFile_calls _ _) fun _ =>
    .bind (.refuseIf rfl) fun _ => .bind (symlinkMetadata_calls _ _) fun _ => .refuseIf rfl

theorem requireNode_calls (group : SysfsGroup) (node : WorkloadNode) :
    Calls Call.ReadsFile (requireNode group node) :=
  .bind (validateRegularFile_calls _ _) fun _ => .bind (requireController_calls _ _) fun _ =>
    .refuseIf rfl

theorem readNodeValue_calls (group : SysfsGroup) (node : WorkloadNode) :
    Calls Call.ReadsFile (readNodeValue group node) :=
  .bind (requireNode_calls _ _) fun _ => .bind (readClosedFile_calls _ _) fun _ =>
    .bind (.check (raises_parseWorkloadNode _ _)) fun _ => .pure _

theorem lifecyclePresent_calls (target : Kernel.Path) :
    Calls Call.ReadsFile (lifecyclePresent target) := by
  refine .lift_bind ⟨trivial, fun _ => trivial⟩ fun answer => ?_
  split
  · split
    · exact .pure _
    · exact .throw rfl
  · exact .pure _
  · exact .throw (ioError_never _ _)

/-! ## Processes -/

namespace WorkloadSysfs

variable (sysfs : WorkloadSysfs)

theorem readProcIdentity_calls (process : ProcessId) :
    Calls Call.ReadsFile (sysfs.readProcIdentity process) :=
  .bind (readClosedFile_calls _ _) fun _ => .bind (.check (raises_parseStartTime _ _)) fun _ =>
    .bind (.check (raises_processId _ _)) fun _ => .bind (.refuseIf rfl) fun _ => .pure _

theorem readProcessCgroup_calls (process : ProcessId) :
    Calls Call.FindsProcess (sysfs.readProcessCgroup process) := by
  have files {call : Call} (reads : call.ReadsFile) := reads.findsGroup.findsProcess
  refine .bind ((sysfs.readProcIdentity_calls _).weaken fun _ => files) fun _ => ?_
  refine .bind ((readClosedFile_calls _ _).weaken fun _ => files) fun _ => ?_
  refine .bind (.check (raises_parseProcessCgroup _)) fun _ => ?_
  refine .bind (.call trivial (fun answer => ⟨answer, rfl⟩) fun _ => rfl) fun found => ?_
  cases found with
  | none => exact .throw rfl
  | some group =>
      refine .bind ((groupFor_calls _).weaken fun _ => Call.FindsGroup.findsProcess) fun _ => ?_
      exact .bind ((sysfs.readProcIdentity_calls _).weaken fun _ => files) fun _ => .pure _

theorem readProcessValue_calls (process : ProcessId) (mutation : MutationKind) :
    Calls Call.OnlyReads (sysfs.readProcessValue process mutation) := by
  unfold readProcessValue
  split
  · refine .bind (.call rfl (fun answer => ⟨answer, rfl⟩) fun _ => rfl) fun _ => ?_
    exact .bind (.check (Bounded.raises_new (by rfl) _)) fun _ => .pure _
  · exact .bind ((sysfs.readProcessCgroup_calls _).weaken fun _ => Call.FindsProcess.onlyReads)
      fun _ => .pure _
  · exact .throw rfl

theorem readProcess_calls (mutation : MutationKind) :
    Calls Call.OnlyReads (sysfs.readProcess mutation) := by
  have files {call : Call} (reads : call.ReadsFile) := reads.findsGroup.findsProcess.onlyReads
  unfold readProcess
  split
  · exact .throw rfl
  · refine .bind ((sysfs.readProcIdentity_calls _).weaken fun _ => files) fun _ => ?_
    refine .bind (sysfs.readProcessValue_calls _ _) fun _ => ?_
    refine .bind ((sysfs.readProcIdentity_calls _).weaken fun _ => files) fun _ => ?_
    exact .check (raises_observation _ _ _)

end WorkloadSysfs

/-! ## Reading a mutation -/

theorem readCgroupNode_calls (cgroup : CgroupId) (node : WorkloadNode) :
    Calls Call.FindsGroup (readCgroupNode cgroup node) := by
  refine .bind (groupFor_calls _) fun _ => ?_
  refine .bind ((readNodeValue_calls _ _).weaken fun _ => Call.ReadsFile.findsGroup) fun _ => ?_
  exact .check (raises_observation _ _ _)

theorem readLifecycle_calls (parent : CgroupId) (name : CgroupName) (kind : CgroupGroupKind) :
    Calls Call.FindsGroup (readLifecycle parent name kind) := by
  refine .bind (groupFor_calls _) fun _ => ?_
  refine .bind ((requireController_calls _ _).weaken fun _ => Call.ReadsFile.findsGroup) fun _ => ?_
  refine .bind ((lifecyclePresent_calls _).weaken fun _ => Call.ReadsFile.findsGroup) fun _ => ?_
  exact .check (raises_observation _ _ _)

theorem readMutation_calls (mutation : MutationKind) :
    Calls Call.FindsGroup (readMutation mutation) := by
  unfold readMutation
  split
  · exact readCgroupNode_calls _ _
  · exact readCgroupNode_calls _ _
  · exact readCgroupNode_calls _ _
  · exact readCgroupNode_calls _ _
  · exact readCgroupNode_calls _ _
  · exact readCgroupNode_calls _ _
  · exact readLifecycle_calls _ _ _
  · exact readLifecycle_calls _ _ _
  · exact .throw rfl

/-! ## Writing -/

theorem validateNode_calls (cgroup : CgroupId) (node : WorkloadNode) :
    Calls Call.FindsGroup (validateNode cgroup node) :=
  .bind (groupFor_calls _) fun _ =>
    (requireNode_calls _ _).weaken fun _ => Call.ReadsFile.findsGroup

theorem validateLifecycle_calls (parent : CgroupId) :
    Calls Call.FindsGroup (validateLifecycle parent) :=
  .bind (groupFor_calls _) fun _ =>
    (requireController_calls _ _).weaken fun _ => Call.ReadsFile.findsGroup

theorem writeClosedFile_calls (path : Kernel.Path) (value message : String) :
    Calls (Call.ActsOn (some path)) (writeClosedFile path value message) := by
  refine .bind (.refuseIf rfl) fun _ => ?_
  refine .bind ((validateRegularFile_calls _ _).weaken fun _ reads => reads.actsOn _) fun _ => ?_
  refine .bind (.refuseIf rfl) fun _ => ?_
  refine .bind (.call ⟨trivial, trivial⟩ (fun answer => ⟨answer, rfl⟩) fun _ => ioError_never _ _)
    fun _ => ?_
  exact .call ⟨trivial, rfl⟩ (fun answer => ⟨answer, rfl⟩) fun _ => ioError_never _ _

theorem writeNode_calls (group : SysfsGroup) (node : WorkloadNode) (value : String) :
    Calls (Call.ActsOn (some (group.file node.filename))) (writeNode group node value) :=
  .bind ((requireNode_calls _ _).weaken fun _ reads => reads.actsOn _) fun _ =>
    writeClosedFile_calls _ _ _

theorem insertChild_calls (parent : SysfsGroup) (name : CgroupName) :
    Calls (Call.ActsOn none) (insertChild parent name) := by
  refine .bind (.check (raises_mapError fun _ => rfl)) fun _ => ?_
  refine .bind ((cgroupIdFromPath_calls _ _ _).weaken fun _ reads => reads.actsOn _) fun _ => ?_
  exact .bind (.call ⟨trivial, trivial⟩ (fun answer => ⟨answer, rfl⟩) fun _ => rfl) fun _ => .pure _

theorem createChild_calls (parent : SysfsGroup) (name : CgroupName) :
    Calls (Call.ActsOn none) (createChild parent name) := by
  refine .lift_bind ⟨⟨trivial, trivial⟩, fun _ => trivial⟩ fun answer => ?_
  split
  · exact .throw rfl
  · refine .bind (.call ⟨trivial, trivial⟩ (fun answer => ⟨answer, rfl⟩) fun _ => ioError_never _ _)
      fun _ => ?_
    refine .inspect (insertChild_calls _ _) fun result raises => ?_
    cases result with
    | ok _ => exact .pure _
    | error error =>
        refine .bind (.call ⟨trivial, trivial⟩ (fun answer => ⟨answer, rfl⟩)
          fun _ => ioError_never _ _) fun _ => ?_
        exact .throw (raises error rfl)

/-- What `remove_child` checks before it removes the directory. -/
theorem removeChild_calls (parent : SysfsGroup) (name : CgroupName) :
    Calls (Call.WritesTo none) (removeChild parent name) := by
  have finds {α : Type} {program : Io α} (calls : Calls Call.FindsGroup program) :
      Calls (Call.WritesTo none) program :=
    calls.weaken fun _ finds => finds.findsProcess.onlyReads.writesTo none
  refine .bind (.check (raises_mapError fun _ => rfl)) fun _ => ?_
  refine .bind (.call trivial (fun answer => ⟨answer, rfl⟩) fun _ => rfl) fun found => ?_
  cases found with
  | none => exact .throw rfl
  | some child =>
      refine .bind (finds (groupFor_calls _)) fun child => ?_
      have procs := (readClosedFile_calls (child.file WorkloadControlFile.procs.filename)
        "cgroup control file cannot be read").weaken fun _ => Call.ReadsFile.findsGroup
      refine .bind (finds procs) fun _ => .bind (.refuseIf rfl) fun _ => ?_
      refine .bind (.call trivial (fun answer => ⟨answer, rfl⟩) fun _ => ioError_never _ _)
        fun _ => .bind (.refuseIf rfl) fun _ => ?_
      refine .bind (.call trivial (fun answer => ⟨answer, rfl⟩) fun _ => ioError_never _ _)
        fun _ => ?_
      exact .call trivial (fun answer => ⟨answer, rfl⟩) fun _ => rfl

namespace WorkloadSysfs

variable (sysfs : WorkloadSysfs)

theorem read_calls (mutation : PlannedMutation) : Calls Call.OnlyReads (sysfs.read mutation) := by
  unfold WorkloadSysfs.read
  split
  · exact sysfs.readProcess_calls _
  · exact sysfs.readProcess_calls _
  · exact sysfs.readProcess_calls _
  · exact (readMutation_calls _).weaken fun _ finds => finds.findsProcess.onlyReads

theorem validateDesired_calls (mutation : MutationKind) (desired : TypedValue) :
    Calls Call.FindsGroup (sysfs.validateDesired mutation desired) := by
  have files {α : Type} {program : Io α} (calls : Calls Call.ReadsFile program) :
      Calls Call.FindsGroup program := calls.weaken fun _ => Call.ReadsFile.findsGroup
  refine .bind (.refuseIf rfl) fun _ => ?_
  split
  · exact validateNode_calls _ _
  · exact validateNode_calls _ _
  · exact validateNode_calls _ _
  · exact validateNode_calls _ _
  · refine .bind (groupFor_calls _) fun _ => .bind (.refuseIf rfl) fun _ => ?_
    refine .bind (files (requireNode_calls _ _)) fun _ => ?_
    refine .bind (files (requireNode_calls _ _)) fun _ => ?_
    refine .bind (files (readNodeValue_calls _ _)) fun _ => .check ?_
    exact raises_bind (raises_parseUclamp _) fun _ _ => raises_validateUclampPair _ _
  · refine .bind (groupFor_calls _) fun _ => ?_
    refine .bind (files (requireNode_calls _ _)) fun _ => ?_
    refine .bind (files (requireNode_calls _ _)) fun _ => ?_
    refine .bind (files (readNodeValue_calls _ _)) fun _ => .check ?_
    exact raises_bind (raises_parseUclamp _) fun _ _ => raises_validateUclampPair _ _
  · exact validateLifecycle_calls _
  · exact validateLifecycle_calls _
  · refine .bind (groupFor_calls _) fun _ => ?_
    exact .bind (files (sysfs.readProcIdentity_calls _)) fun _ => .pure _
  · exact .bind (files (sysfs.readProcIdentity_calls _)) fun _ => .pure _
  · exact .throw rfl
  · exact .throw rfl

theorem writeNice_calls (process : ProcessId) (value : NiceValue) :
    Calls (Call.ActsOn none) (sysfs.writeNice process value) := by
  have identity := (sysfs.readProcIdentity_calls process).weaken fun _ reads => reads.actsOn none
  refine .bind identity fun _ => ?_
  refine .bind (.call ⟨trivial, trivial⟩ (fun answer => ⟨answer, rfl⟩) fun _ => rfl) fun _ => ?_
  exact .bind identity fun _ => .pure _

theorem writeProcessPlacement_calls (process : ProcessId) (destination : SysfsGroup) :
    Calls (Call.ActsOn (some (destination.file WorkloadControlFile.procs.filename)))
      (sysfs.writeProcessPlacement process destination) := by
  have identity := (sysfs.readProcIdentity_calls process).weaken fun _ reads =>
    reads.actsOn (some (destination.file WorkloadControlFile.procs.filename))
  refine .bind identity fun _ => ?_
  refine .bind (writeClosedFile_calls _ _ _) fun _ => ?_
  exact .bind identity fun _ => .pure _

theorem writeMutation_calls (mutation : MutationKind) (desired : TypedValue) :
    Calls (fun _ => True) (sysfs.writeMutation mutation desired) := by
  have any {α : Type} {allowed : Call → Prop} {program : Io α} (calls : Calls allowed program) :
      Calls (fun _ => True) program := calls.weaken fun _ _ => trivial
  have node (cgroup : CgroupId) (node : WorkloadNode) (value : String) :
      Calls (fun _ => True) (writeCgroupNode cgroup node value) :=
    .bind (any (groupFor_calls _)) fun _ => any (writeNode_calls _ _ _)
  unfold writeMutation
  split
  · exact node _ _ _
  · exact node _ _ _
  · exact node _ _ _
  · exact node _ _ _
  · exact node _ _ _
  · exact node _ _ _
  · exact .bind (any (groupFor_calls _)) fun _ => any (createChild_calls _ _)
  · exact .bind (any (groupFor_calls _)) fun _ => any (createChild_calls _ _)
  · exact .bind (any (groupFor_calls _)) fun _ => any (removeChild_calls _ _)
  · exact .bind (any (groupFor_calls _)) fun _ => any (removeChild_calls _ _)
  · exact any (sysfs.writeNice_calls _ _)
  · exact .bind (any (groupFor_calls _)) fun _ => any (sysfs.writeProcessPlacement_calls _ _)
  · exact .throw rfl
  · exact .throw rfl

end WorkloadSysfs

end Sysboost.Linux.Workload
