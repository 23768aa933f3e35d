import Sysboost.ByteCodec.Unicode
import Sysboost.Kernel.Files
import Sysboost.Planner.Digest

/-!
# The cgroup and process interfaces of the kernel

The adapter keeps a table of the groups it has discovered and derives every path
from it.  The table is behind a lock that may be poisoned, so its operations are
calls too.
-/

namespace Sysboost.Linux.Workload

open Sysboost.Core Sysboost.Planner ByteCodec Interaction
open Storage (FileType IoErrorKind)

def workloadError (code : ErrorCode) (message : String) : SysboostError :=
  (SysboostError.new code message).withStage .apply

def unsupported (message : String) : SysboostError :=
  workloadError .unsupported message

def targetError (message : String) : SysboostError :=
  workloadError .targetError message

def permissionError (message : String) : SysboostError :=
  workloadError .authorizationError message

def ioError (message : String) : IoErrorKind → SysboostError
  | .permissionDenied => permissionError message
  | .notFound => targetError message
  | _ => workloadError .applyError message

def maxReadBytes : Nat :=
  4096

/-- Closed cgroup-v2 node vocabulary. -/
inductive WorkloadNode where
  | cpuWeight
  | cpuMax
  | cpusetCpus
  | ioWeight
  | uclampMin
  | uclampMax
deriving DecidableEq

def WorkloadNode.controller : WorkloadNode → String
  | cpuWeight | cpuMax | uclampMin | uclampMax => "cpu"
  | cpusetCpus => "cpuset"
  | ioWeight => "io"

def WorkloadNode.filename : WorkloadNode → String
  | cpuWeight => "cpu.weight"
  | cpuMax => "cpu.max"
  | cpusetCpus => "cpuset.cpus"
  | ioWeight => "io.weight"
  | uclampMin => "cpu.uclamp.min"
  | uclampMax => "cpu.uclamp.max"

inductive WorkloadControlFile where
  | controllers
  | subtreeControl
  | procs
deriving DecidableEq

def WorkloadControlFile.filename : WorkloadControlFile → String
  | controllers => "cgroup.controllers"
  | subtreeControl => "cgroup.subtree_control"
  | procs => "cgroup.procs"

/-- A discovered group. -/
structure SysfsGroup where
  identity : CgroupId
  relativePath : String
  path : Kernel.Path
deriving DecidableEq

/-! ## Calls -/

inductive Call where
  | kernel (call : Kernel.Call)
  /-- The group of a handle. -/
  | group (handle : TargetId)
  /-- The first group, in the order of the handles, with a relative path. -/
  | groupAt (relativePath : String)
  | insertGroup (handle : TargetId) (group : SysfsGroup)
  | removeGroup (handle : TargetId)

/-- A call of the table fails when its lock is poisoned. -/
abbrev Answer : Call → Type
  | .kernel call => Kernel.Answer call
  | .group _ => Except Unit (Option SysfsGroup)
  | .groupAt _ => Except Unit (Option SysfsGroup)
  | .insertGroup _ _ => Except Unit Unit
  | .removeGroup _ => Except Unit Unit

instance : Writing Call where
  writes
    | .kernel call => Writing.writes call
    | _ => false

/-- Code that calls the kernel and the table and may return a domain error. -/
abbrev Io := Early Answer SysboostError

/-- `fs::symlink_metadata`. -/
def symlinkMetadata (path : Kernel.Path) (message : String) : Io Kernel.Metadata :=
  Early.attempt (ioError message) (Prog.perform (Call.kernel (.symlinkMetadata path)))

/-- A table operation under the lock. -/
def locked {α : Type} (program : Prog Answer (Except Unit α)) : Io α :=
  Early.attempt (fun _ => workloadError .invariantViolation "cgroup target lock failed") program

/-! ## Values -/

def processIdentity (process : ProcessId) : TargetIdentity :=
  ⟨⟨toBigEndian 4 process.pid.toNat ++ [0, 0, 0, 0] ++
    toBigEndian 8 process.startTimeTicks.toNat, by
      simp only [List.length_append, toBigEndian_length, List.length_cons, List.length_nil]⟩⟩

def cgroupIdentity (cgroup : CgroupId) : TargetIdentity :=
  ⟨⟨toBigEndian 8 cgroup.mountId.toNat ++ toBigEndian 8 cgroup.inode.toNat, by
    simp only [List.length_append, toBigEndian_length]⟩⟩

def childTarget (parent : TargetId) (name : CgroupName) : Except SysboostError TargetId :=
  (TextId.new (parent.asStr ++ "." ++ name.get)).mapError fun _ =>
    targetError "managed cgroup child target is invalid"

def renderQuota : CpuQuota → String
  | .max => "max"
  | .micros value => toString value

def renderUclamp : UclampValue → String
  | .value clamp => toString clamp
  | .max => "max"

def renderTypedProcess (value : TypedValue) : Bytes :=
  utf8 (renderValue (.typed value))

/-- `UclampValue::get().unwrap_or(1024)`. -/
def uclampLevel : UclampValue → UInt16
  | .value clamp => clamp
  | .max => 1024

def validateUclampPair (minimum maximum : UclampValue) : Except SysboostError Unit :=
  if uclampLevel maximum < uclampLevel minimum then
    .error (targetError "cgroup uclamp minimum exceeds maximum")
  else .ok ()

/-! ## Parsing -/

/-- `from_utf8`, or a domain error. -/
def utf8Text (message : String) (raw : Bytes) : Except SysboostError String :=
  match fromUtf8 raw with
  | some text => .ok text
  | none => .error (targetError message)

/-- `str::parse` of an unsigned number, or a domain error. -/
def number (bound : Nat) (message text : String) : Except SysboostError Nat :=
  match parseNumber bound text with
  | some value => .ok value
  | none => .error (targetError message)

def parseUclamp (raw : Bytes) : Except SysboostError UclampValue := do
  let text := trim (← utf8Text "uclamp value is not valid UTF-8" raw)
  if text = "max" then return .max
  else UclampValue.new (UInt16.ofNat (← number (2 ^ 16) "uclamp value is malformed" text))

/-- The CPUs of one part of a list. -/
def parseCpusetPart (part : String) : Except SysboostError (List UInt32) := do
  if part.isEmpty then throw (targetError "cpuset.cpus is malformed")
  match splitFirst '-' part with
  | some (first, last) =>
      let first ← number (2 ^ 32) "cpuset range is malformed" first
      let last ← number (2 ^ 32) "cpuset range is malformed" last
      if last < first ∨ 4096 < last - first then
        throw (targetError "cpuset range is outside the bounded contract")
      return (List.range' first (last - first + 1)).map UInt32.ofNat
  | none => return [UInt32.ofNat (← number (2 ^ 32) "cpuset CPU is malformed" part)]

def parseCpuset (text : String) : Except SysboostError CpuSet := do
  let cpus ← (splitAll ',' (trim text)).foldlM (fun cpus part => do
    let cpus := cpus ++ (← parseCpusetPart part)
    if 4096 < cpus.length then throw (targetError "cpuset value is oversized")
    return cpus) []
  (CpuSet.new cpus).mapError fun _ => targetError "cpuset.cpus is empty"

def parseQuota (quota : String) : Except SysboostError CpuQuota :=
  if quota = "max" then .ok .max
  else do CpuQuota.newMicros (UInt64.ofNat (← number (2 ^ 64) "cpu.max quota is malformed" quota))

def parseCpuMax (text : String) : Except SysboostError TypedValue := do
  match splitWhitespace text with
  | [] => throw (targetError "cpu.max is malformed")
  | quota :: rest =>
      let quota ← parseQuota quota
      match rest with
      | [] => throw (targetError "cpu.max period is missing")
      | period :: more =>
          let period ← CpuPeriod.new
            (UInt64.ofNat (← number (2 ^ 64) "cpu.max period is malformed" period))
          if !more.isEmpty then throw (targetError "cpu.max has unexpected fields")
          return .cgroupCpuMax quota period

/-- One line of `io.weight`, after what the lines before it have set. -/
def parseIoWeightLine (value : Option IoWeight) (line : String) :
    Except SysboostError (Option IoWeight) :=
  match splitWhitespace line with
  | ["default", weight] => do
      if value.isSome then throw (targetError "io.weight has duplicate default entries")
      return some (← IoWeight.new
        (UInt16.ofNat (← number (2 ^ 16) "io.weight is malformed" weight)))
  | _ :: _ :: _ =>
      .error (unsupported "per-device io.weight entries are outside the closed operation")
  | _ => .error (targetError "io.weight is malformed")

def parseIoWeight (text : String) : Except SysboostError TypedValue := do
  match ← (lines text).foldlM parseIoWeightLine none with
  | some weight => return .cgroupIoWeight weight
  | none => throw (targetError "io.weight default entry is missing")

def parseWorkloadNode (node : WorkloadNode) (raw : Bytes) : Except SysboostError TypedValue := do
  let text ← utf8Text "cgroup controller value is not valid UTF-8" raw
  match node with
  | .cpuWeight =>
      let weight ← number (2 ^ 16) "cpu.weight is malformed" (trim text)
      return .cgroupCpuWeight (← CpuWeight.new (UInt16.ofNat weight))
  | .cpuMax => parseCpuMax text
  | .cpusetCpus => return .cgroupCpuset (← parseCpuset text)
  | .ioWeight => parseIoWeight text
  | .uclampMin | .uclampMax => return .cgroupUclamp (← parseUclamp raw)

/-- `text_tokens`. -/
def textTokens (raw : Bytes) : List String :=
  ((fromUtf8 raw).map splitWhitespace).getD []

/-- The start time in the text of `/proc/<pid>/stat`. -/
def parseStartTime (message : String) (raw : Bytes) : Except SysboostError UInt64 := do
  let text ← utf8Text (message ++ " stat is not valid UTF-8") raw
  match afterLast ')' text with
  | none => throw (targetError (message ++ " stat is malformed"))
  | some rest =>
      match (splitWhitespace rest)[19]?.bind (parseNumber (2 ^ 64)) with
      | some value =>
          if value = 0 then throw (targetError (message ++ " start time is unavailable"))
          return UInt64.ofNat value
      | none => throw (targetError (message ++ " start time is unavailable"))

/-- The cgroup-v2 path in the text of `/proc/<pid>/cgroup`. -/
def parseProcessCgroup (raw : Bytes) : Except SysboostError String := do
  let text ← utf8Text "process cgroup record is not valid UTF-8" raw
  match (lines text).findSome? (afterPrefix "0::") with
  | some path => return trimStart '/' path
  | none => throw (unsupported "process is not in a cgroup-v2 hierarchy")

/-! ## Files -/

def validateRegularFile (path : Kernel.Path) (message : String) : Io Kernel.Metadata := do
  let metadata ← symlinkMetadata path message
  Early.refuseIf (metadata.fileType ≠ .file) (targetError message)
  return metadata

def readClosedFile (path : Kernel.Path) (message : String) : Io Bytes := do
  let _ ← validateRegularFile path message
  Early.attempt (ioError message) (Prog.perform (Call.kernel (.openRead path)))
  let bytes ← Early.attempt (ioError message)
    (Prog.perform (Call.kernel (.readToEnd path none)))
  Early.refuseIf (bytes.length > maxReadBytes) (targetError "workload control file is oversized")
  return bytes

def writeClosedFile (path : Kernel.Path) (value message : String) : Io Unit := do
  Early.refuseIf (value.isEmpty || value.utf8ByteSize > 128 || (utf8 value).contains 0)
    (workloadError .invalidInput "generated workload value is invalid")
  let metadata ← validateRegularFile path message
  Early.refuseIf metadata.readonly (permissionError message)
  Early.attempt (ioError message) (Prog.perform (Call.kernel (.openWrite path)))
  Early.attempt (ioError message) (Prog.perform (Call.kernel (.writeAll path (utf8 value))))

def cgroupIdFromPath (handle : String) (path : Kernel.Path) (message : String) :
    Io CgroupId := do
  let metadata ← symlinkMetadata path message
  Early.refuseIf (metadata.fileType ≠ .directory) (targetError message)
  let handle ← Early.check ((TextId.new handle).mapError fun _ =>
    targetError "cgroup target handle is invalid")
  return ⟨metadata.device, metadata.inode, handle⟩

/-- Complete state returned by a workload read. -/
structure WorkloadObservation where
  raw : BoundedBytes
  typed : TypedValue
  fingerprint : StateFingerprint
  targetIdentity : TargetIdentity

def WorkloadObservation.new (raw : Bytes) (typed : TypedValue) (targetIdentity : TargetIdentity) :
    Except SysboostError WorkloadObservation := do
  return ⟨← BoundedBytes.new raw, typed, fingerprintForValue (.typed typed), targetIdentity⟩

/-- Production cgroup-v2/procfs adapter; its table of groups is behind calls. -/
structure WorkloadSysfs where
  procRoot : Kernel.Path

/-! ## Groups -/

/-- The file of a node or of a control of a group. -/
def SysfsGroup.file (group : SysfsGroup) (name : String) : Kernel.Path :=
  group.path ++ [name]

def groupFor (cgroup : CgroupId) : Io SysfsGroup := do
  Early.refuseIf (cgroup.mountId = 0 || cgroup.inode = 0)
    (targetError "production cgroup target lacks complete mount/inode identity")
  let found ← locked (Prog.perform (Call.group cgroup.handle))
  match found with
  | none => throw (targetError "cgroup target was not discovered by the backend")
  | some group =>
      Early.refuseIf (group.identity ≠ cgroup)
        (targetError "cgroup target identity does not match discovery")
      let identity ← cgroupIdFromPath group.identity.handle.asStr group.path
        "cgroup target disappeared or changed identity"
      Early.refuseIf (identity.mountId ≠ group.identity.mountId ||
          identity.inode ≠ group.identity.inode)
        (targetError "cgroup target was replaced after discovery")
      return group

def readControl (group : SysfsGroup) (control : WorkloadControlFile) : Io Bytes :=
  readClosedFile (group.file control.filename) "cgroup control file cannot be read"

def insertChild (parent : SysfsGroup) (name : CgroupName) : Io CgroupId := do
  let path := parent.path ++ [name.get]
  let target ← Early.check (childTarget parent.identity.handle name)
  let identity ← cgroupIdFromPath target.asStr path
    "managed cgroup identity cannot be inspected after creation"
  let relativePath := if parent.relativePath.isEmpty then name.get
    else parent.relativePath ++ "/" ++ name.get
  locked (Prog.perform (Call.insertGroup target ⟨identity, relativePath, path⟩))
  return identity

/-- A directory entry that is not a control file of the group itself. -/
def isNested : Except IoErrorKind Bytes → Bool
  | .ok name => ((fromUtf8 name).map fun name => !"cgroup.".toList.isPrefixOf name.toList).getD true
  | .error _ => false

def removeChild (parent : SysfsGroup) (name : CgroupName) : Io Unit := do
  let target ← Early.check (childTarget parent.identity.handle name)
  let found ← locked (Prog.perform (Call.group target))
  match found with
  | none => throw (targetError "managed cgroup was not discovered by the backend")
  | some child =>
      let child ← groupFor child.identity
      let procs ← readControl child .procs
      Early.refuseIf (!procs.all isAsciiWhitespace)
        (workloadError .restoreError "managed cgroup still contains processes; cleanup refused")
      let entries ← Early.attempt (ioError "managed cgroup children cannot be inspected")
        (Prog.perform (Call.kernel (.readDirectory child.path)))
      Early.refuseIf (entries.any isNested)
        (workloadError .restoreError "managed cgroup has nested groups; cleanup refused")
      Early.attempt (ioError "managed cgroup could not be removed safely")
        (Prog.perform (Call.kernel (.removeDirectory child.path)))
      locked (Prog.perform (Call.removeGroup child.identity.handle))

def requireController (group : SysfsGroup) (controller : String) : Io Unit := do
  let controllers := textTokens (← readControl group .controllers)
  let subtree := textTokens (← readControl group .subtreeControl)
  Early.refuseIf (!controllers.contains controller && !subtree.contains controller)
    (unsupported "cgroup controller is unavailable")
  let directory ← symlinkMetadata group.path "cgroup delegation cannot be inspected"
  Early.refuseIf directory.readonly
    (permissionError "cgroup controller is not delegated for writing")

def requireNode (group : SysfsGroup) (node : WorkloadNode) : Io Unit := do
  let metadata ← validateRegularFile (group.file node.filename)
    "cgroup controller file is unavailable"
  requireController group node.controller
  Early.refuseIf metadata.readonly
    (permissionError "cgroup controller is not writable by the backend")

def readNodeValue (group : SysfsGroup) (node : WorkloadNode) : Io (TypedValue × Bytes) := do
  requireNode group node
  let raw ← readClosedFile (group.file node.filename) "cgroup controller file cannot be read"
  return (← Early.check (parseWorkloadNode node raw), raw)

def writeNode (group : SysfsGroup) (node : WorkloadNode) (value : String) : Io Unit := do
  requireNode group node
  writeClosedFile (group.file node.filename) value "cgroup controller write failed"

namespace WorkloadSysfs

variable (sysfs : WorkloadSysfs)

/-! ## Processes -/

/-- The procfs directory of a process. -/
def procFile (process : ProcessId) (file : String) : Kernel.Path :=
  sysfs.procRoot ++ [toString process.pid, file]

def readProcIdentity (process : ProcessId) : Io ProcessId := do
  let raw ← readClosedFile (sysfs.procFile process "stat") "process identity cannot be inspected"
  let startTime ← Early.check (parseStartTime "process" raw)
  let observed ← Early.check (ProcessId.new process.pid startTime)
  Early.refuseIf (observed ≠ process)
    (targetError "process PID was recycled or identity changed")
  return observed

/-- The identity of the running process, whose PID `std::process::id` answers. -/
def currentProcess (pid : UInt32) : Io ProcessId := do
  let raw ← readClosedFile (sysfs.procRoot ++ [toString pid, "stat"])
    "current process identity cannot be inspected"
  let startTime ← Early.check (parseStartTime "current process" raw)
  Early.check (ProcessId.new pid startTime)

def readProcessCgroup (process : ProcessId) : Io SysfsGroup := do
  let _ ← sysfs.readProcIdentity process
  let raw ← readClosedFile (sysfs.procFile process "cgroup")
    "process cgroup placement cannot be inspected"
  let relativePath ← Early.check (parseProcessCgroup raw)
  let found ← locked (Prog.perform (Call.groupAt relativePath))
  match found with
  | none => throw (targetError "process cgroup target was not discovered")
  | some group =>
      let group ← groupFor group.identity
      let _ ← sysfs.readProcIdentity process
      return group

/-- `Pid::from_raw`: the PID of a process identity is not zero. -/
def rawPid (process : ProcessId) : Int32 :=
  process.pid.toInt32

def writeProcessPlacement (process : ProcessId) (destination : SysfsGroup) : Io Unit := do
  let _ ← sysfs.readProcIdentity process
  writeClosedFile (destination.file WorkloadControlFile.procs.filename)
    (toString (rawPid process) ++ "\n") "process cgroup placement write failed"
  let _ ← sysfs.readProcIdentity process

/-- The value of a process, between two checks of its identity. -/
def readProcessValue (process : ProcessId) : MutationKind → Io TypedValue
  | .processNice .. => do
      let value ← Early.attempt (fun _ => targetError "process nice value cannot be read")
        (Prog.perform (Call.kernel (.getPriority (rawPid process))))
      return .nice (← Early.check (NiceValue.new value.toInt8))
  | .processPlacement .. => return .processPlacement (← sysfs.readProcessCgroup process).identity
  | _ => throw (unsupported "production ioprio adapter is unavailable")

/-- The process of a process operation. -/
def processOf : MutationKind → Option ProcessId
  | .processNice process _ => some process
  | .processIoPriority process _ => some process
  | .processPlacement process _ => some process
  | _ => none

def readProcess (mutation : MutationKind) : Io WorkloadObservation :=
  match processOf mutation with
  | none => throw (unsupported "production mutation is not a process operation")
  | some process => do
      let _ ← sysfs.readProcIdentity process
      let typed ← sysfs.readProcessValue process mutation
      let _ ← sysfs.readProcIdentity process
      Early.check (WorkloadObservation.new (renderTypedProcess typed) typed (processIdentity process))

end WorkloadSysfs

/-! ## Cgroups -/

def readCgroupNode (cgroup : CgroupId) (node : WorkloadNode) : Io WorkloadObservation := do
  let group ← groupFor cgroup
  let (typed, raw) ← readNodeValue group node
  Early.check (WorkloadObservation.new raw typed (cgroupIdentity group.identity))

/-- Whether the directory of a managed group is there. -/
def lifecyclePresent (target : Kernel.Path) : Io Bool := do
  match ← ExceptT.lift (Prog.perform (Call.kernel (.symlinkMetadata target))) with
  | .ok metadata =>
      if metadata.fileType = .directory then return true
      else throw (targetError "managed cgroup path is not a directory")
  | .error .notFound => return false
  | .error kind => throw (ioError "managed cgroup presence cannot be inspected" kind)

def readLifecycle (parent : CgroupId) (name : CgroupName) (kind : CgroupGroupKind) :
    Io WorkloadObservation := do
  let parent ← groupFor parent
  requireController parent "cpu"
  let present ← lifecyclePresent (parent.path ++ [name.get])
  Early.check (WorkloadObservation.new (utf8 (if present then "present\n" else "absent\n"))
    (.cgroupLifecycle kind name present) (cgroupIdentity parent.identity))

def readMutation : MutationKind → Io WorkloadObservation
  | .cgroupCpuWeight cgroup _ => readCgroupNode cgroup .cpuWeight
  | .cgroupCpuMax cgroup _ _ => readCgroupNode cgroup .cpuMax
  | .cgroupCpuset cgroup _ => readCgroupNode cgroup .cpusetCpus
  | .cgroupIoWeight cgroup _ => readCgroupNode cgroup .ioWeight
  | .cgroupUclampMin cgroup _ => readCgroupNode cgroup .uclampMin
  | .cgroupUclampMax cgroup _ => readCgroupNode cgroup .uclampMax
  | .cgroupWorkload parent name => readLifecycle parent name .workload
  | .cgroupBackground parent name => readLifecycle parent name .conservativeBackground
  | _ => throw (unsupported "production mutation is not a cgroup operation")

/-- `validate_desired` of a plain node. -/
def validateNode (cgroup : CgroupId) (node : WorkloadNode) : Io Unit := do
  requireNode (← groupFor cgroup) node

/-- `validate_desired` of a managed group. -/
def validateLifecycle (parent : CgroupId) : Io Unit := do
  requireController (← groupFor parent) "cpu"

/-- Create the directory of a managed group; it is removed again when it cannot
be entered into the table. -/
def createChild (parent : SysfsGroup) (name : CgroupName) : Io Unit := do
  let path := parent.path ++ [name.get]
  match ← ExceptT.lift (Prog.perform (Call.kernel (.symlinkMetadata path))) with
  | .ok _ => throw (workloadError .applyError "managed cgroup already exists")
  | .error _ =>
      Early.attempt (ioError "managed cgroup could not be created")
        (Prog.perform (Call.kernel (.createDirectory path)))
      Early.inspect (insertChild parent name) fun
        | .ok _ => return ()
        | .error error => do
            Early.attempt (ioError "managed cgroup setup cleanup failed")
              (Prog.perform (Call.kernel (.removeDirectory path)))
            throw error

/-- `write_mutation` of a plain node. -/
def writeCgroupNode (cgroup : CgroupId) (node : WorkloadNode) (value : String) : Io Unit := do
  writeNode (← groupFor cgroup) node value

namespace WorkloadSysfs

variable (sysfs : WorkloadSysfs)

def validateDesired (mutation : MutationKind) (desired : TypedValue) : Io Unit := do
  Early.refuseIf (mutation.typedValue ≠ desired)
    (workloadError .planningError "workload kind and desired value disagree")
  match mutation with
  | .cgroupCpuWeight cgroup _ => validateNode cgroup .cpuWeight
  | .cgroupCpuMax cgroup _ _ => validateNode cgroup .cpuMax
  | .cgroupCpuset cgroup _ => validateNode cgroup .cpusetCpus
  | .cgroupIoWeight cgroup _ => validateNode cgroup .ioWeight
  | .cgroupUclampMin cgroup value =>
      let group ← groupFor cgroup
      Early.refuseIf (value = .max)
        (workloadError .invalidInput "uclamp.min cannot use the max sentinel")
      requireNode group .uclampMin
      requireNode group .uclampMax
      let (_, rawMax) ← readNodeValue group .uclampMax
      Early.check (do validateUclampPair value (← parseUclamp rawMax))
  | .cgroupUclampMax cgroup value =>
      let group ← groupFor cgroup
      requireNode group .uclampMin
      requireNode group .uclampMax
      let (_, rawMin) ← readNodeValue group .uclampMin
      Early.check (do validateUclampPair (← parseUclamp rawMin) value)
  | .cgroupWorkload parent _ => validateLifecycle parent
  | .cgroupBackground parent _ => validateLifecycle parent
  | .processPlacement process cgroup =>
      let _ ← groupFor cgroup
      let _ ← sysfs.readProcIdentity process
  | .processNice process _ =>
      let _ ← sysfs.readProcIdentity process
  | .processIoPriority .. => throw (unsupported "production ioprio adapter is unavailable")
  | _ => throw (unsupported "production backend does not own this workload operation")

def writeNice (process : ProcessId) (value : NiceValue) : Io Unit := do
  let _ ← sysfs.readProcIdentity process
  Early.attempt (fun _ => permissionError "process nice write was denied")
    (Prog.perform (Call.kernel (.setPriority (rawPid process) value.get.toInt32)))
  let _ ← sysfs.readProcIdentity process

/-- Write the desired value of a mutation; a placement is written to the group
of the mutation itself. -/
def writeMutation (mutation : MutationKind) (desired : TypedValue) : Io Unit :=
  match mutation, desired with
  | .cgroupCpuWeight cgroup _, .cgroupCpuWeight value =>
      writeCgroupNode cgroup .cpuWeight (toString value.get)
  | .cgroupCpuMax cgroup _ _, .cgroupCpuMax quota period =>
      writeCgroupNode cgroup .cpuMax (renderQuota quota ++ " " ++ toString period.get)
  | .cgroupCpuset cgroup _, .cgroupCpuset value =>
      writeCgroupNode cgroup .cpusetCpus (renderCpus value)
  | .cgroupIoWeight cgroup _, .cgroupIoWeight value =>
      writeCgroupNode cgroup .ioWeight ("default " ++ toString value.get)
  | .cgroupUclampMin cgroup _, .cgroupUclamp value =>
      writeCgroupNode cgroup .uclampMin (renderUclamp value)
  | .cgroupUclampMax cgroup _, .cgroupUclamp value =>
      writeCgroupNode cgroup .uclampMax (renderUclamp value)
  | .cgroupWorkload parent name, .cgroupLifecycle _ _ true => do
      createChild (← groupFor parent) name
  | .cgroupBackground parent name, .cgroupLifecycle _ _ true => do
      createChild (← groupFor parent) name
  | .cgroupWorkload parent name, .cgroupLifecycle _ _ false => do
      removeChild (← groupFor parent) name
  | .cgroupBackground parent name, .cgroupLifecycle _ _ false => do
      removeChild (← groupFor parent) name
  | .processNice process _, .nice value => sysfs.writeNice process value
  | .processPlacement process cgroup, .processPlacement _ => do
      sysfs.writeProcessPlacement process (← groupFor cgroup)
  | .processIoPriority .., .ioPriority _ =>
      throw (unsupported "production ioprio adapter is unavailable")
  | _, _ =>
      throw (workloadError .invariantViolation "production workload write shape is not closed")

end WorkloadSysfs

end Sysboost.Linux.Workload
