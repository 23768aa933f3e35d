import Sysboost.ByteCodec.Unicode
import Sysboost.Kernel.Files
import Sysboost.Planner.Digest

/-!
# The CPU interfaces of the kernel

Closed node families, their parsers, and the adapter that reads and writes them
under a sysfs root.  Every path component is inspected before it is used, and a
frequency range is written in the order in which the kernel accepts it.
-/

namespace Sysboost.Linux.Cpu

open Sysboost.Core Sysboost.Planner ByteCodec Interaction Kernel
open Storage (FileType IoErrorKind)

/-- Code that calls the kernel and may return a domain error. -/
abbrev Io := Early Kernel.Answer SysboostError

def targetError (message : String) : SysboostError :=
  (SysboostError.new .targetError message).withStage .detect

def unsupported (message : String) : SysboostError :=
  (SysboostError.new .unsupported message).withStage .detect

def maxCpuReadBytes : Nat :=
  4096

/-! ## Nodes -/

/-- Which kernel interface provided the CPU boost state. -/
inductive CpuBoostInterface where
  | boost
  | noTurbo
deriving DecidableEq

/-- A closed CPU target family. -/
inductive CpuNode where
  | governor (policy : CpuPolicyId)
  | energyPreference (policy : CpuPolicyId)
  | frequency (policy : CpuPolicyId)
  | boost (interface : Option CpuBoostInterface)
  | platformProfile
deriving DecidableEq

/-- Complete typed state returned by a CPU node read. -/
structure CpuNodeState where
  raw : BoundedBytes
  typed : TypedValue
  fingerprint : StateFingerprint
  targetIdentity : TargetIdentity
  boostInterface : Option CpuBoostInterface

/-! ## Parsing -/

def text (raw : Bytes) : Except SysboostError String :=
  match fromUtf8 raw with
  | some value => .ok (trim value)
  | none => .error (targetError "CPU kernel value is not valid UTF-8")

def parseGovernor (raw : Bytes) : Except SysboostError GovernorId := do
  (GovernorId.new (← text raw)).mapError fun _ => targetError "CPU governor value is malformed"

/-- The closed vocabulary of energy preferences. -/
def energyOf : String → Option EnergyPreference
  | "performance" => some .performance
  | "balance_performance" => some .balancePerformance
  | "balance_power" => some .balancePower
  | "power" => some .power
  | _ => none

def parseEnergy (raw : Bytes) : Except SysboostError EnergyPreference := do
  match energyOf (← text raw) with
  | some value => return value
  | none => throw (targetError "CPU EPP value is not in the closed vocabulary")

def parseFrequency (raw : Bytes) : Except SysboostError FrequencyKHz := do
  match parseNumber (2 ^ 64) (← text raw) with
  | none => throw (targetError "CPU frequency value is malformed")
  | some value =>
      (FrequencyKHz.new (UInt64.ofNat value)).mapError fun _ =>
        targetError "CPU frequency value is invalid"

def boostOf : CpuBoostInterface → String → Option CpuBoostState
  | .boost, "1" => some .enabled
  | .noTurbo, "0" => some .enabled
  | .boost, "0" => some .disabled
  | .noTurbo, "1" => some .disabled
  | _, _ => none

def parseBoost (interface : CpuBoostInterface) (raw : Bytes) :
    Except SysboostError CpuBoostState := do
  match boostOf interface (← text raw) with
  | some state => return state
  | none => throw (targetError "CPU boost value is malformed")

def parseProfile (raw : Bytes) : Except SysboostError PlatformProfileId := do
  (PlatformProfileId.new (← text raw)).mapError fun _ => targetError "platform profile is malformed"

/-! ## Calls -/

/-- `fs::symlink_metadata`. -/
def symlinkMetadata (path : Path) (message : String) : Io Metadata :=
  Early.attempt (fun _ => targetError message) (Prog.perform (Call.symlinkMetadata path))

/-- `validate_final_file`. -/
def validateFinalFile (path : Path) : Io Unit := do
  let metadata ← symlinkMetadata path "CPU kernel node disappeared"
  Early.refuseIf (metadata.fileType ≠ .file) (targetError "CPU kernel node is not a regular file")

/-- The device and the inode in network order. -/
def identityOf (metadata : Metadata) : TargetIdentity :=
  ⟨⟨toBigEndian 8 metadata.device.toNat ++ toBigEndian 8 metadata.inode.toNat, by
    simp only [List.length_append, toBigEndian_length]⟩⟩

def nodeIdentity (path : Path) : Io TargetIdentity := do
  let metadata ← symlinkMetadata path "CPU kernel node identity cannot be inspected"
  Early.refuseIf (metadata.fileType ≠ .file)
    (targetError "CPU kernel node identity has an unexpected type")
  return identityOf metadata

def directoryIdentity (path : Path) : Io TargetIdentity := do
  let metadata ← symlinkMetadata path "CPU policy identity cannot be inspected"
  Early.refuseIf (metadata.fileType ≠ .directory)
    (targetError "CPU policy identity has an unexpected type")
  return identityOf metadata

/-- Production CPU adapter under a canonical root. -/
structure CpuSysfs where
  root : Path

namespace CpuSysfs

variable (sysfs : CpuSysfs)

/-! ## Paths -/

/-- The loop of `cpufreq_dir`. -/
def descendCpufreq (current : Path) : List String → Io Path
  | [] => return current
  | component :: rest => do
      let path := current ++ [component]
      let metadata ← Early.attempt (fun kind =>
        if kind = .notFound then unsupported "CPUFreq policy interface is unavailable"
        else targetError "CPU sysfs cpufreq path cannot be inspected")
        (Prog.perform (Call.symlinkMetadata path))
      Early.refuseIf (metadata.fileType ≠ .directory)
        (targetError "CPU sysfs cpufreq path has an unexpected type")
      descendCpufreq path rest

def cpufreqDir : Io Path :=
  descendCpufreq sysfs.root ["devices", "system", "cpu", "cpufreq"]

/-- The loop of `checked_component_path`. -/
def descend (finalDirectory : Bool) (current : Path) : List String → Io Path
  | [] => return current
  | component :: rest => do
      Early.refuseIf (component = "" || component = "." || component = "..")
        (targetError "CPU backend component is not allowlisted")
      let path := current ++ [component]
      let metadata ← symlinkMetadata path "CPU sysfs target disappeared"
      Early.refuseIf (metadata.fileType = .symlink ||
          ((!rest.isEmpty || finalDirectory) && metadata.fileType ≠ .directory))
        (targetError "CPU sysfs target has an unexpected type")
      descend finalDirectory path rest

def checkedComponentPath (components : List String) (finalDirectory : Bool) : Io Path := do
  let metadata ← symlinkMetadata sysfs.root "CPU sysfs root disappeared"
  Early.refuseIf (metadata.fileType ≠ .directory)
    (targetError "CPU sysfs root has an unexpected type")
  descend finalDirectory sysfs.root components

/-- The name of the directory of a policy. -/
def policyName (policy : CpuPolicyId) : String :=
  "policy" ++ toString policy.get

def policyDir (policy : CpuPolicyId) : Io Path :=
  sysfs.checkedComponentPath ["devices", "system", "cpu", "cpufreq", policyName policy] true

/-- The files of a policy directory that the adapter may name. -/
def allowlistedFiles : List String :=
  ["scaling_governor", "energy_performance_preference", "scaling_min_freq", "scaling_max_freq",
    "scaling_cur_freq", "scaling_available_governors", "energy_performance_available_preferences",
    "cpuinfo_min_freq", "cpuinfo_max_freq"]

def policyFile (policy : CpuPolicyId) (file : String) : Io Path := do
  Early.refuseIf (!allowlistedFiles.contains file)
    (targetError "CPU policy file is not allowlisted")
  let directory ← sysfs.policyDir policy
  validateFinalFile (directory ++ [file])
  return directory ++ [file]

/-- The names of the boost interfaces, in the order in which they are tried. -/
def boostCandidates : Option CpuBoostInterface → List (String × CpuBoostInterface)
  | some .boost => [("boost", .boost)]
  | some .noTurbo => [("no_turbo", .noTurbo)]
  | none => [("boost", .boost), ("no_turbo", .noTurbo)]

/-- The loop over the candidates. -/
def selectBoost (directory : Path) :
    List (String × CpuBoostInterface) → Io (Path × CpuBoostInterface)
  | [] => throw (unsupported "CPU boost/turbo interface is unavailable")
  | (name, selected) :: rest => do
      let path := directory ++ [name]
      match ← ExceptT.lift (Prog.perform (Call.symlinkMetadata path)) with
      | .ok metadata =>
          if metadata.fileType = .symlink then throw (targetError "CPU boost node is a symlink")
          else if metadata.fileType = .file then return (path, selected)
          else throw (targetError "CPU boost node has an unexpected type")
      | .error .notFound => selectBoost directory rest
      | .error _ => throw (targetError "CPU boost node cannot be inspected")

def nodePath : CpuNode → Io (Path × Option CpuBoostInterface)
  | .governor policy => return (← sysfs.policyFile policy "scaling_governor", none)
  | .energyPreference policy =>
      return (← sysfs.policyFile policy "energy_performance_preference", none)
  | .frequency policy => return (← sysfs.policyDir policy, none)
  | .boost interface => do
      let directory ← sysfs.cpufreqDir
      let (path, selected) ← selectBoost directory (boostCandidates interface)
      return (path, some selected)
  | .platformProfile => do
      let directory ← sysfs.checkedComponentPath ["firmware", "acpi"] true
      return (directory ++ ["platform_profile"], none)

/-! ## Reading -/

def readFile (path : Path) : Io Bytes := do
  Early.attempt (fun _ => targetError "CPU kernel interface cannot be opened")
    (Prog.perform (Call.openRead path))
  let metadata ← Early.attempt (fun _ => targetError "CPU kernel interface cannot be inspected")
    (Prog.perform (Call.fileMetadata path))
  Early.refuseIf (metadata.fileType ≠ .file)
    (targetError "CPU kernel interface is not a regular node")
  let bytes ← Early.attempt (fun _ => targetError "CPU kernel interface cannot be read")
    (Prog.perform (Call.readToEnd path (some (maxCpuReadBytes + 1))))
  Early.refuseIf (bytes.length > maxCpuReadBytes)
    (targetError "CPU kernel interface value is oversized")
  return bytes

/-- What `raw_node` reads after the path of the node is known. -/
def rawNode (node : CpuNode) : Io (Bytes × TargetIdentity × Option CpuBoostInterface) := do
  let (path, interface) ← sysfs.nodePath node
  match node with
  | .frequency policy =>
      let min ← readFile (← sysfs.policyFile policy "scaling_min_freq")
      let max ← readFile (← sysfs.policyFile policy "scaling_max_freq")
      let identity ← directoryIdentity (← sysfs.policyDir policy)
      return (min ++ [0] ++ max, identity, interface)
  | _ =>
      let raw ← readFile path
      let identity ← nodeIdentity path
      return (raw, identity, interface)

/-- The typed value of what was read of a node. -/
def parseRaw (node : CpuNode) (raw : Bytes) (interface : Option CpuBoostInterface) :
    Except SysboostError TypedValue :=
  match node with
  | .governor _ => return .governor (← parseGovernor raw)
  | .energyPreference _ => return .energyPreference (← parseEnergy raw)
  | .frequency _ =>
      match raw.splitOn 0 with
      | [min, max] => return .cpuFrequency (some (← parseFrequency min)) (some (← parseFrequency max))
      | _ => .error (targetError "CPU frequency state is malformed")
  | .boost _ =>
      match interface with
      | none => .error (targetError "CPU boost interface is unknown")
      | some interface => return .cpuBoost (← parseBoost interface raw)
  | .platformProfile => return .platformProfile (← parseProfile raw)

/-- `CpuControlIo::read`. -/
def read (node : CpuNode) : Io CpuNodeState := do
  let (raw, targetIdentity, boostInterface) ← sysfs.rawNode node
  let typed ← Early.check (parseRaw node raw boostInterface)
  return {
    raw := ← Early.check (BoundedBytes.new raw)
    typed
    fingerprint := fingerprintForValue (.typed typed)
    targetIdentity
    boostInterface }

/-! ## Choices and bounds -/

def choicesText : CpuNode → Io (List String)
  | .governor policy => do
      words (← readFile (← sysfs.policyFile policy "scaling_available_governors"))
  | .energyPreference policy => do
      words (← readFile (← sysfs.policyFile policy "energy_performance_available_preferences"))
  | .platformProfile => do
      let directory ← sysfs.checkedComponentPath ["firmware", "acpi"] true
      validateFinalFile (directory ++ ["platform_profile_choices"])
      words (← readFile (directory ++ ["platform_profile_choices"]))
  | .boost _ | .frequency _ => return []
where
  /-- The words of an advertised list. -/
  words (bytes : Bytes) : Io (List String) :=
    match fromUtf8 bytes with
    | some value => return splitWhitespace value
    | none => throw (targetError "CPU kernel choices are not valid text")

/-- `CpuControlIo::choices`. -/
def choices (node : CpuNode) : Io (List TypedValue) := do
  let choices ← sysfs.choicesText node
  match node with
  | .governor _ =>
      Early.check (choices.mapM fun value => (GovernorId.new value).map TypedValue.governor)
  | .energyPreference _ =>
      Early.check (choices.mapM fun value =>
        (parseEnergy (utf8 value)).map TypedValue.energyPreference)
  | .platformProfile =>
      Early.check (choices.mapM fun value =>
        (PlatformProfileId.new value).map TypedValue.platformProfile)
  | .boost _ => return [.cpuBoost .enabled, .cpuBoost .disabled]
  | .frequency _ => return []

def readOptionalFrequency (policy : CpuPolicyId) (file : String) : Io (Option FrequencyKHz) := do
  let directory ← sysfs.policyDir policy
  let path := directory ++ [file]
  match ← ExceptT.lift (Prog.perform (Call.symlinkMetadata path)) with
  | .ok metadata =>
      if metadata.fileType = .symlink then
        throw (targetError "CPU hardware-bound node is a symlink")
      else if metadata.fileType ≠ .file then
        throw (targetError "CPU hardware-bound node has an unexpected type")
      else return some (← Early.check (parseFrequency (← readFile path)))
  | .error .notFound => return none
  | .error _ => throw (targetError "CPU hardware-bound node cannot be inspected")

/-- The current range of a policy, both ends. -/
def currentRange (policy : CpuPolicyId) : Io (FrequencyKHz × FrequencyKHz) := do
  let current ← sysfs.read (.frequency policy)
  match current.typed with
  | .cpuFrequency currentMin currentMax =>
      match currentMin, currentMax with
      | some currentMin, some currentMax => return (currentMin, currentMax)
      | none, _ => throw (targetError "CPU minimum is unavailable")
      | some _, none => throw (targetError "CPU maximum is unavailable")
  | _ => throw (targetError "CPU frequency current state is malformed")

/-- `min > max`, when both are given. -/
def crossed : Option FrequencyKHz → Option FrequencyKHz → Bool
  | some min, some max => max.get < min.get
  | _, _ => false

/-- A frequency outside the bounds of the hardware that are known. -/
def outside (hardwareMin hardwareMax : Option FrequencyKHz) (value : FrequencyKHz) : Bool :=
  hardwareMin.any (fun min => value.get < min.get) ||
    hardwareMax.any (fun max => max.get < value.get)

/-- `CpuControlIo::validate_desired`. -/
def validateDesired (node : CpuNode) (desired : TypedValue) : Io Unit :=
  match node with
  | .frequency policy =>
      match desired with
      | .cpuFrequency minKhz maxKhz => do
          Early.refuseIf (crossed minKhz maxKhz)
            (targetError "CPU desired minimum exceeds maximum")
          let (currentMin, currentMax) ← sysfs.currentRange policy
          let hardwareMin ← sysfs.readOptionalFrequency policy "cpuinfo_min_freq"
          let hardwareMax ← sysfs.readOptionalFrequency policy "cpuinfo_max_freq"
          Early.refuseIf (outside hardwareMin hardwareMax (minKhz.getD currentMin) ||
              outside hardwareMin hardwareMax (maxKhz.getD currentMax))
            (targetError "CPU desired frequency is outside kernel bounds")
      | _ => throw (targetError "CPU frequency desired value is not typed")
  | _ => do
      let choices ← sysfs.choices node
      Early.refuseIf (choices.isEmpty || !choices.contains desired)
        (unsupported "CPU desired value is not advertised by the kernel")

/-! ## Writing -/

def writeFile (path : Path) (value : String) : Io Unit := do
  Early.refuseIf (value.isEmpty || value.utf8ByteSize > 128 || (utf8 value).contains 0 ||
      (utf8 value).contains 10)
    (.new .invalidInput "CPU backend generated an invalid kernel value")
  validateFinalFile path
  Early.attempt (fun _ => targetError "CPU kernel interface cannot be opened for writing")
    (Prog.perform (Call.openWrite path))
  Early.attempt (fun _ => SysboostError.new .applyError "CPU kernel write failed")
    (Prog.perform (Call.writeAll path (utf8 value)))

/-- Write one end of a range, unless it is to be preserved. -/
def writeEnd (policy : CpuPolicyId) (file : String) (desired : Option FrequencyKHz)
    (current : FrequencyKHz) : Io Unit :=
  match desired with
  | none => return ()
  | some value => do
      if value ≠ current then
        writeFile (← sysfs.policyFile policy file) (toString value.get)

/-- Lowering a maximum below the current minimum requires lowering the minimum
first; all other transitions raise or retain the maximum first. -/
def writeFrequency (policy : CpuPolicyId) (desired : TypedValue) : Io Unit :=
  match desired with
  | .cpuFrequency minKhz maxKhz => do
      let (currentMin, currentMax) ← sysfs.currentRange policy
      Early.refuseIf (crossed minKhz maxKhz) (targetError "CPU desired minimum exceeds maximum")
      Early.refuseIf (crossed (minKhz.getD currentMin) (maxKhz.getD currentMax))
        (targetError "CPU desired frequency range is invalid")
      if (maxKhz.getD currentMax).get < currentMin.get then
        sysfs.writeEnd policy "scaling_min_freq" minKhz currentMin
        sysfs.writeEnd policy "scaling_max_freq" maxKhz currentMax
      else
        sysfs.writeEnd policy "scaling_max_freq" maxKhz currentMax
        sysfs.writeEnd policy "scaling_min_freq" minKhz currentMin
  | _ => throw (targetError "CPU frequency operation has the wrong typed value")

/-- The text of a boost state at an interface. -/
def boostText : CpuBoostInterface → CpuBoostState → String
  | .boost, .enabled => "1"
  | .boost, .disabled => "0"
  | .noTurbo, .enabled => "0"
  | .noTurbo, .disabled => "1"

/-- `CpuControlIo::write`. -/
def write (node : CpuNode) (desired : TypedValue) : Io Unit :=
  match node, desired with
  | .governor policy, .governor value => do
      writeFile (← sysfs.policyFile policy "scaling_governor") value.get
  | .governor _, _ => throw (targetError "CPU governor desired value is not typed")
  | .energyPreference policy, .energyPreference value => do
      writeFile (← sysfs.policyFile policy "energy_performance_preference") (renderEnergy value)
  | .energyPreference _, _ => throw (targetError "CPU EPP desired value is not typed")
  | .frequency policy, _ => sysfs.writeFrequency policy desired
  | .boost (some interface), .cpuBoost state => do
      let (path, _) ← sysfs.nodePath (.boost (some interface))
      writeFile path (boostText interface state)
  | .boost (some _), _ => throw (targetError "CPU boost desired value is not typed")
  | .boost none, _ => throw (targetError "CPU boost write lacks a resolved interface")
  | .platformProfile, .platformProfile value => do
      let (path, _) ← sysfs.nodePath .platformProfile
      writeFile path value.get
  | .platformProfile, _ => throw (targetError "platform profile desired value is not typed")

end CpuSysfs

end Sysboost.Linux.Cpu
