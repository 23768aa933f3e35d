import Sysboost.Kernel.Tree
import Sysboost.Linux.CpuCalls

/-!
# Reading CPU nodes of a tree that does not change

What a successful read of a node says of the files it was read from: every
component of their paths, their content and the object that identifies them.
-/

namespace Sysboost.Linux.Cpu

open Sysboost.Core Sysboost.Planner ByteCodec Interaction Kernel Results
open Storage (FileType)

variable {root : Path} (tree : Tree root)

/-- A program returns a value on the tree. -/
abbrev Gives {α : Type} (program : Io α) (value : α) : Prop :=
  Early.result tree.answer program = .ok value

/-- What the object at a path is. -/
def IsA (fileType : FileType) (path : Path) : Prop :=
  ∃ metadata, tree.symlinkMetadata path = .ok metadata ∧ metadata.fileType = fileType

/-- A path names a directory or a file, whose identity this is. -/
def Identifies (path : Path) (identity : TargetIdentity) : Prop :=
  ∃ metadata, tree.symlinkMetadata path = .ok metadata ∧ identity = identityOf metadata

variable {tree}

/-! ## Calls -/

theorem gives_symlinkMetadata_iff {path : Path} {message : String} {metadata : Metadata} :
    Gives tree (symlinkMetadata path message) metadata ↔
      tree.symlinkMetadata path = .ok metadata := by
  rw [Gives, symlinkMetadata, Early.result_attempt, mapError_eq_ok_iff]
  rfl

theorem gives_validateFinalFile_iff {path : Path} :
    Gives tree (validateFinalFile path) () ↔ IsA tree .file path := by
  simp only [Gives, validateFinalFile, Early.result_bind_ok_iff, IsA]
  simp [gives_symlinkMetadata_iff, Early.result_refuseIf_ok_iff]

theorem identifies_of_nodeIdentity {path : Path} {identity : TargetIdentity}
    (gives : Gives tree (nodeIdentity path) identity) : Identifies tree path identity := by
  obtain ⟨metadata, shown, gives⟩ := (Early.result_bind_ok_iff _).mp gives
  obtain ⟨⟨⟩, -, gives⟩ := (Early.result_bind_ok_iff _).mp gives
  cases gives
  exact ⟨metadata, gives_symlinkMetadata_iff.mp shown, rfl⟩

theorem identifies_of_directoryIdentity {path : Path} {identity : TargetIdentity}
    (gives : Gives tree (directoryIdentity path) identity) : Identifies tree path identity := by
  obtain ⟨metadata, shown, gives⟩ := (Early.result_bind_ok_iff _).mp gives
  obtain ⟨⟨⟩, -, gives⟩ := (Early.result_bind_ok_iff _).mp gives
  cases gives
  exact ⟨metadata, gives_symlinkMetadata_iff.mp shown, rfl⟩

theorem Identifies.unique {path : Path} {identity other : TargetIdentity}
    (first : Identifies tree path identity) (second : Identifies tree path other) :
    identity = other := by
  obtain ⟨metadata, shown, rfl⟩ := first
  obtain ⟨metadata', shown', rfl⟩ := second
  rw [shown] at shown'
  cases shown'
  rfl

theorem identityOf_inj {metadata other : Metadata} :
    identityOf metadata = identityOf other ↔
      metadata.device = other.device ∧ metadata.inode = other.inode := by
  constructor
  · intro same
    have bytes : toBigEndian 8 metadata.device.toNat ++ toBigEndian 8 metadata.inode.toNat =
        toBigEndian 8 other.device.toNat ++ toBigEndian 8 other.inode.toNat :=
      congrArg (fun identity : TargetIdentity => identity.bytes.bytes) same
    have fits (word : UInt64) : word.toNat < 256 ^ 8 := word.toNat_lt
    obtain ⟨device, inode⟩ := List.append_inj bytes (by simp only [toBigEndian_length])
    exact ⟨UInt64.toNat_inj.mp (toBigEndian_inj (fits _) (fits _) device),
      UInt64.toNat_inj.mp (toBigEndian_inj (fits _) (fits _) inode)⟩
  · rintro ⟨device, inode⟩
    simp only [identityOf, device, inode]

/-- Two paths name objects with the same device and inode. -/
def SharesObject (tree : Tree root) (first second : Path) : Prop :=
  ∃ metadata other, tree.symlinkMetadata first = .ok metadata ∧
    tree.symlinkMetadata second = .ok other ∧ metadata.device = other.device ∧
    metadata.inode = other.inode

theorem Identifies.eq_iff {first second : Path} {identity other : TargetIdentity}
    (one : Identifies tree first identity) (two : Identifies tree second other) :
    identity = other ↔ SharesObject tree first second := by
  obtain ⟨metadata, shown, rfl⟩ := one
  obtain ⟨metadata', shown', rfl⟩ := two
  rw [identityOf_inj]
  constructor
  · exact fun same => ⟨metadata, metadata', shown, shown', same⟩
  · rintro ⟨_, _, found, found', same⟩
    rw [shown] at found
    rw [shown'] at found'
    cases found
    cases found'
    exact same

/-! ## Paths -/

namespace CpuSysfs

theorem gives_descend {current path : Path} {components : List String}
    (gives : Gives tree (descend true current components) path) :
    path = current ++ components ∧ Walkable tree.symlinkMetadata current components := by
  induction components generalizing current with
  | nil =>
      cases gives
      simp [Walkable]
  | cons component rest ih =>
      obtain ⟨⟨⟩, -, gives⟩ := (Early.result_bind_ok_iff _).mp gives
      obtain ⟨metadata, shown, gives⟩ := (Early.result_bind_ok_iff _).mp gives
      obtain ⟨⟨⟩, regular, gives⟩ := (Early.result_bind_ok_iff _).mp gives
      obtain ⟨rfl, walkable⟩ := ih gives
      rw [Early.result_refuseIf_ok_iff] at regular
      simp only [Bool.or_eq_false_iff, decide_eq_false_iff_not] at regular
      refine ⟨by simp, ⟨metadata, gives_symlinkMetadata_iff.mp shown, ?_⟩, walkable⟩
      simpa using regular.1

theorem gives_checkedComponentPath {path : Path} {components : List String}
    (gives : Gives tree (checkedComponentPath ⟨root⟩ components true) path) :
    path = root ++ components ∧ Walkable tree.symlinkMetadata root components := by
  obtain ⟨metadata, -, gives⟩ := (Early.result_bind_ok_iff _).mp gives
  obtain ⟨⟨⟩, -, gives⟩ := (Early.result_bind_ok_iff _).mp gives
  exact gives_descend gives

theorem gives_descendCpufreq {current path : Path} {components : List String}
    (gives : Gives tree (descendCpufreq current components) path) :
    path = current ++ components ∧ Walkable tree.symlinkMetadata current components := by
  induction components generalizing current with
  | nil =>
      cases gives
      simp [Walkable]
  | cons component rest ih =>
      obtain ⟨metadata, shown, gives⟩ := (Early.result_bind_ok_iff _).mp gives
      obtain ⟨⟨⟩, regular, gives⟩ := (Early.result_bind_ok_iff _).mp gives
      obtain ⟨rfl, walkable⟩ := ih gives
      rw [Early.result_attempt, mapError_eq_ok_iff] at shown
      rw [Early.result_refuseIf_ok_iff] at regular
      have directory : metadata.fileType = .directory := by simpa using regular
      exact ⟨by simp, ⟨metadata, shown, by simp [directory]⟩, walkable⟩

/-- The components of the directory of all policies below the root. -/
def cpufreqComponents : List String :=
  ["devices", "system", "cpu", "cpufreq"]

/-- The components of the directory of a policy below the root. -/
def policyComponents (policy : CpuPolicyId) : List String :=
  cpufreqComponents ++ [policyName policy]

theorem gives_policyFile {policy : CpuPolicyId} {file : String} {path : Path}
    (gives : Gives tree (policyFile ⟨root⟩ policy file) path) :
    path = root ++ policyComponents policy ++ [file] ∧ IsA tree .file path ∧
      Walkable tree.symlinkMetadata root (policyComponents policy) := by
  obtain ⟨⟨⟩, -, gives⟩ := (Early.result_bind_ok_iff _).mp gives
  obtain ⟨directory, walked, gives⟩ := (Early.result_bind_ok_iff _).mp gives
  obtain ⟨⟨⟩, final, gives⟩ := (Early.result_bind_ok_iff _).mp gives
  obtain ⟨rfl, walkable⟩ := gives_checkedComponentPath walked
  cases gives
  exact ⟨rfl, gives_validateFinalFile_iff.mp final, walkable⟩

/-- A candidate is selected when it is a file, and passed over when it is missing. -/
theorem gives_selectBoost {directory path : Path} {name : String}
    {interface selected : CpuBoostInterface} {rest : List (String × CpuBoostInterface)}
    (gives : Gives tree (selectBoost directory ((name, interface) :: rest)) (path, selected)) :
    (path = directory ++ [name] ∧ selected = interface ∧ IsA tree .file path) ∨
      (tree.symlinkMetadata (directory ++ [name]) = .error .notFound ∧
        Gives tree (selectBoost directory rest) (path, selected)) := by
  obtain ⟨shown, same, gives⟩ := (Early.result_bind_ok_iff _).mp gives
  rw [Early.result_lift] at same
  obtain rfl := Except.ok.inj same
  split at gives
  next metadata found =>
    split at gives
    · cases gives
    · split at gives
      next regular =>
        cases gives
        exact .inl ⟨rfl, rfl, metadata, found, regular⟩
      · cases gives
  next found => exact .inr ⟨found, gives⟩
  · cases gives

/-- The interface that a read uses is a file, and `boost` is missing before
`no_turbo` is used. -/
theorem gives_boostPath {path : Path} {interface : Option CpuBoostInterface}
    (gives : Gives tree (nodePath ⟨root⟩ (.boost none)) (path, interface)) :
    Walkable tree.symlinkMetadata root cpufreqComponents ∧ IsA tree .file path ∧
      (path = root ++ cpufreqComponents ++ ["boost"] ∧ interface = some .boost ∨
        path = root ++ cpufreqComponents ++ ["no_turbo"] ∧ interface = some .noTurbo ∧
          tree.symlinkMetadata (root ++ cpufreqComponents ++ ["boost"]) = .error .notFound) := by
  obtain ⟨directory, walked, gives⟩ := (Early.result_bind_ok_iff _).mp gives
  obtain ⟨rfl, walkable⟩ := gives_descendCpufreq walked
  obtain ⟨⟨path, selected⟩, chosen, gives⟩ := (Early.result_bind_ok_iff _).mp gives
  cases gives
  rcases gives_selectBoost chosen with ⟨rfl, rfl, file⟩ | ⟨missing, chosen⟩
  · exact ⟨walkable, file, .inl ⟨rfl, rfl⟩⟩
  · rcases gives_selectBoost chosen with ⟨rfl, rfl, file⟩ | ⟨-, chosen⟩
    · exact ⟨walkable, file, .inr ⟨rfl, rfl, missing⟩⟩
    · cases chosen

end CpuSysfs

/-! ## Files -/

theorem gives_readFile {path : Path} {bytes : Bytes}
    (gives : Gives tree (CpuSysfs.readFile path) bytes) :
    tree.read path = .ok bytes ∧ bytes.length ≤ maxCpuReadBytes := by
  obtain ⟨⟨⟩, opened, gives⟩ := (Early.result_bind_ok_iff _).mp gives
  obtain ⟨metadata, -, gives⟩ := (Early.result_bind_ok_iff _).mp gives
  obtain ⟨⟨⟩, -, gives⟩ := (Early.result_bind_ok_iff _).mp gives
  obtain ⟨read, held, gives⟩ := (Early.result_bind_ok_iff _).mp gives
  obtain ⟨⟨⟩, small, gives⟩ := (Early.result_bind_ok_iff _).mp gives
  cases gives
  rw [Early.result_attempt, mapError_eq_ok_iff, Prog.eval_perform] at opened held
  rw [Early.result_refuseIf_ok_iff] at small
  have bounded : bytes.length ≤ maxCpuReadBytes := by simpa using small
  have content := Tree.content_of_readToEnd held (Nat.lt_succ_of_le bounded)
  refine ⟨?_, bounded⟩
  rw [Tree.read, Tree.opens_of_openRead opened]
  exact content

/-! ## Parsing a known text -/

section Parsing

variable {raw : Bytes} {value : String} (known : text raw = .ok value)

include known

/-- A text that is read has been trimmed. -/
theorem trim_of_text : trim value = value := by
  unfold text at known
  split at known
  · cases known
    exact trim_trim _
  · cases known

theorem parseGovernor_eq_ok_iff {governor : GovernorId} :
    parseGovernor raw = .ok governor ↔ GovernorId.new value = .ok governor := by
  rw [parseGovernor, known]
  exact mapError_eq_ok_iff

theorem parseEnergy_eq_ok_iff {preference : EnergyPreference} :
    parseEnergy raw = .ok preference ↔ energyOf value = some preference := by
  simp only [parseEnergy, known, bind, Except.bind]
  cases energyOf value with
  | none => simp [throw, throwThe, MonadExceptOf.throw]
  | some found => simp [pure, Except.pure]

theorem parseFrequency_eq_ok_iff {frequency : FrequencyKHz} :
    parseFrequency raw = .ok frequency ↔
      ∃ number, parseNumber (2 ^ 64) value = some number ∧
        FrequencyKHz.new (UInt64.ofNat number) = .ok frequency := by
  simp only [parseFrequency, known, bind, Except.bind]
  cases parseNumber (2 ^ 64) value with
  | none => simp [throw, throwThe, MonadExceptOf.throw]
  | some number => simp [mapError_eq_ok_iff]

theorem parseBoost_eq_ok_iff {interface : CpuBoostInterface} {state : CpuBoostState} :
    parseBoost interface raw = .ok state ↔ boostOf interface value = some state := by
  simp only [parseBoost, known, bind, Except.bind]
  cases boostOf interface value with
  | none => simp [throw, throwThe, MonadExceptOf.throw]
  | some found => simp [pure, Except.pure]

theorem parseProfile_eq_ok_iff {profile : PlatformProfileId} :
    parseProfile raw = .ok profile ↔ PlatformProfileId.new value = .ok profile := by
  rw [parseProfile, known]
  exact mapError_eq_ok_iff

end Parsing

/-! ## Nodes -/

/-- A file that was read in full. -/
structure Holds (tree : Tree root) (path : Path) (bytes : Bytes) : Prop where
  read : tree.read path = .ok bytes
  small : bytes.length ≤ maxCpuReadBytes

theorem gives_read {node : CpuNode} {state : CpuNodeState}
    (gives : Gives tree (CpuSysfs.read ⟨root⟩ node) state) :
    ∃ raw interface,
      Gives tree (CpuSysfs.rawNode ⟨root⟩ node) (raw, state.targetIdentity, interface) ∧
      CpuSysfs.parseRaw node raw interface = .ok state.typed ∧
      state.fingerprint = fingerprintForValue (.typed state.typed) := by
  obtain ⟨⟨raw, identity, interface⟩, read, gives⟩ := (Early.result_bind_ok_iff _).mp gives
  obtain ⟨typed, parsed, gives⟩ := (Early.result_bind_ok_iff _).mp gives
  obtain ⟨bounded, -, gives⟩ := (Early.result_bind_ok_iff _).mp gives
  cases gives
  exact ⟨raw, interface, read, parsed, rfl⟩

/-- What is read of a node that is one file. -/
theorem gives_rawNode_file {node : CpuNode} {raw : Bytes} {identity : TargetIdentity}
    {interface : Option CpuBoostInterface} (single : ∀ policy, node ≠ .frequency policy)
    (gives : Gives tree (CpuSysfs.rawNode ⟨root⟩ node) (raw, identity, interface)) :
    ∃ path, Gives tree (CpuSysfs.nodePath ⟨root⟩ node) (path, interface) ∧
      Holds tree path raw ∧ Identifies tree path identity := by
  obtain ⟨⟨path, selected⟩, found, gives⟩ := (Early.result_bind_ok_iff _).mp gives
  have file : Gives tree (do
      let raw ← CpuSysfs.readFile path
      let identity ← nodeIdentity path
      return (raw, identity, selected) : Io _) (raw, identity, interface) := by
    cases node with
    | frequency policy => exact absurd rfl (single policy)
    | _ => exact gives
  obtain ⟨bytes, held, file⟩ := (Early.result_bind_ok_iff _).mp file
  obtain ⟨object, identified, file⟩ := (Early.result_bind_ok_iff _).mp file
  cases file
  obtain ⟨held, small⟩ := gives_readFile held
  exact ⟨path, found, ⟨held, small⟩, identifies_of_nodeIdentity identified⟩

/-- What is read of the frequency range of a policy. -/
theorem gives_rawNode_frequency {policy : CpuPolicyId} {raw : Bytes} {identity : TargetIdentity}
    {interface : Option CpuBoostInterface}
    (gives : Gives tree (CpuSysfs.rawNode ⟨root⟩ (.frequency policy)) (raw, identity, interface)) :
    ∃ min max, raw = min ++ [0] ++ max ∧
      Holds tree (root ++ CpuSysfs.policyComponents policy ++ ["scaling_min_freq"]) min ∧
      Holds tree (root ++ CpuSysfs.policyComponents policy ++ ["scaling_max_freq"]) max ∧
      Identifies tree (root ++ CpuSysfs.policyComponents policy) identity := by
  obtain ⟨⟨path, selected⟩, -, gives⟩ := (Early.result_bind_ok_iff _).mp gives
  obtain ⟨minPath, minFound, gives⟩ := (Early.result_bind_ok_iff _).mp gives
  obtain ⟨min, minRead, gives⟩ := (Early.result_bind_ok_iff _).mp gives
  obtain ⟨maxPath, maxFound, gives⟩ := (Early.result_bind_ok_iff _).mp gives
  obtain ⟨max, maxRead, gives⟩ := (Early.result_bind_ok_iff _).mp gives
  obtain ⟨directory, walked, gives⟩ := (Early.result_bind_ok_iff _).mp gives
  obtain ⟨object, identified, gives⟩ := (Early.result_bind_ok_iff _).mp gives
  cases gives
  obtain ⟨rfl, -⟩ := CpuSysfs.gives_policyFile minFound
  obtain ⟨rfl, -⟩ := CpuSysfs.gives_policyFile maxFound
  obtain ⟨rfl, -⟩ := CpuSysfs.gives_checkedComponentPath walked
  obtain ⟨minHeld, minSmall⟩ := gives_readFile minRead
  obtain ⟨maxHeld, maxSmall⟩ := gives_readFile maxRead
  exact ⟨min, max, rfl, ⟨minHeld, minSmall⟩, ⟨maxHeld, maxSmall⟩,
    identifies_of_directoryIdentity identified⟩

/-- Both ends are read when neither file holds the separator. -/
theorem parseRaw_frequency {policy : CpuPolicyId} {min max : Bytes} {value : TypedValue}
    {interface : Option CpuBoostInterface}
    (parsed : CpuSysfs.parseRaw (.frequency policy) (min ++ [0] ++ max) interface = .ok value) :
    ∃ minKhz maxKhz, parseFrequency min = .ok minKhz ∧ parseFrequency max = .ok maxKhz ∧
      value = .cpuFrequency (some minKhz) (some maxKhz) := by
  have pieces : (min ++ [0] ++ max).splitOn 0 = min.splitOn 0 ++ max.splitOn 0 := by
    rw [List.append_assoc, List.singleton_append, List.splitOn_append_cons_self]
  simp only [CpuSysfs.parseRaw] at parsed
  split at parsed
  next first second two =>
    obtain ⟨minKhz, minParsed, parsed⟩ := bind_eq_ok_iff.mp parsed
    obtain ⟨maxKhz, maxParsed, parsed⟩ := bind_eq_ok_iff.mp parsed
    cases parsed
    rw [pieces] at two
    obtain ⟨minPieces, maxPieces⟩ : min.splitOn 0 = [first] ∧ max.splitOn 0 = [second] := by
      have minSome := List.splitOn_ne_nil 0 min
      have maxSome := List.splitOn_ne_nil 0 max
      cases minSplit : min.splitOn 0 with
      | nil => exact absurd minSplit minSome
      | cons head rest =>
          rw [minSplit] at two
          cases rest with
          | nil => simpa using two
          | cons other rest =>
              obtain ⟨-, tail⟩ := List.cons.inj two
              obtain ⟨-, tail⟩ := List.cons.inj tail
              exact absurd (List.append_eq_nil_iff.mp tail).2 maxSome
    rw [eq_of_splitOn_eq_singleton minPieces] at minParsed
    rw [eq_of_splitOn_eq_singleton maxPieces] at maxParsed
    exact ⟨minKhz, maxKhz, minParsed, maxParsed, rfl⟩
  · cases parsed

/-! ## Stages -/

namespace CpuBackend

/-- The error of `validate_target_state` about the identity of a target. -/
def identityChanged (mutation : PlannedMutation) : SysboostError :=
  ((targetError "CPU target identity changed since planning").withMutation
    mutation.mutationId).withTarget mutation.target

/-- The error of `validate_state` about the precondition of a mutation. -/
def preconditionChanged (mutation : PlannedMutation) : SysboostError :=
  snapshotError mutation
    "CPU target changed or its typed state does not match the plan precondition"

variable {node : CpuNode} {mutation : PlannedMutation} {observed : CpuNodeState}

/-- The value of a node has the shape of the mutations of the node. -/
theorem matchingShape_of_parseRaw {raw : Bytes} {interface : Option CpuBoostInterface}
    {typed : TypedValue} (selected : nodeForMutation mutation = .ok node)
    (parsed : CpuSysfs.parseRaw node raw interface = .ok typed) :
    matchingShape mutation.kind typed = true := by
  unfold nodeForMutation at selected
  split at selected
  next policy minKhz maxKhz kind =>
    cases selected
    simp only [CpuSysfs.parseRaw] at parsed
    split at parsed
    · obtain ⟨_, -, parsed⟩ := bind_eq_ok_iff.mp parsed
      obtain ⟨_, -, parsed⟩ := bind_eq_ok_iff.mp parsed
      cases parsed
      rw [kind]
      rfl
    · cases parsed
  next policy governor kind =>
    cases selected
    obtain ⟨_, -, parsed⟩ := bind_eq_ok_iff.mp parsed
    cases parsed
    rw [kind]
    rfl
  next policy preference kind =>
    cases selected
    obtain ⟨_, -, parsed⟩ := bind_eq_ok_iff.mp parsed
    cases parsed
    rw [kind]
    rfl
  next state kind =>
    cases selected
    cases interface with
    | none => cases parsed
    | some interface =>
        obtain ⟨_, -, parsed⟩ := bind_eq_ok_iff.mp parsed
        cases parsed
        rw [kind]
        rfl
  next profile kind =>
    cases selected
    obtain ⟨_, -, parsed⟩ := bind_eq_ok_iff.mp parsed
    cases parsed
    rw [kind]
    rfl
  · cases selected

theorem raises_expectedTarget (mutation : PlannedMutation) :
    Raises Untargeted (expectedTarget mutation) := by
  unfold expectedTarget
  split
  · exact raises_mapError fun _ => rfl
  · exact raises_mapError fun _ => rfl
  · exact raises_mapError fun _ => rfl
  · exact raises_mapError fun _ => rfl
  · exact raises_mapError fun _ => rfl
  · exact raises_error rfl

theorem raises_capabilityOwned (mutation : PlannedMutation) :
    Raises Untargeted (capabilityOwned mutation) := by
  unfold capabilityOwned
  split
  · exact raises_ok _
  · exact raises_ok _
  · exact raises_ok _
  · exact raises_ok _
  · exact raises_ok _
  · exact raises_error rfl

/-- The other errors of `validate_state` have other messages. -/
theorem raises_validateState (shape : matchingShape mutation.kind observed.typed = true)
    (same : mutation.precondition = observed.fingerprint) :
    Raises (· ≠ preconditionChanged mutation) (validateState mutation observed) := by
  have other {error : SysboostError} (message : error.message ≠
      "CPU target changed or its typed state does not match the plan precondition") :
      error ≠ preconditionChanged mutation :=
    fun equal => message (congrArg SysboostError.message equal)
  unfold validateState
  refine raises_ite (fun _ => raises_error (other ?_)) fun _ => ?_
  · simp [snapshotError, SysboostError.withStage, SysboostError.withMutation, SysboostError.new]
  refine raises_ite (fun refused => ?_) fun _ => ?_
  · simp [shape, same] at refused
  refine raises_ite (fun _ => raises_error (other ?_)) fun _ => ?_
  · simp [snapshotError, SysboostError.withStage, SysboostError.withMutation, SysboostError.new]
  refine raises_bind ?_ fun desired _ => raises_ite (fun _ => raises_error (other ?_)) fun _ => ?_
  · unfold effectiveDesired
    split
    · refine raises_ite (fun _ => raises_error (other ?_)) fun _ => raises_ok _
      simp [targetError, SysboostError.withStage, SysboostError.new]
    · exact raises_ok _
  · simp [SysboostError.withStage, SysboostError.withMutation, SysboostError.new]
  · exact raises_ok _

section Reading

variable (selected : nodeForMutation mutation = .ok node)
  (gives : Gives tree (CpuSysfs.read ⟨root⟩ node) observed)

include selected gives

/-- A mutation is not refused for the identity of its target when this is the
identity that is read. -/
theorem raises_validateTargetState :
    Raises Untargeted (Early.result tree.answer
      (validateTargetState ⟨CpuSysfs.port ⟨root⟩⟩ mutation observed.targetIdentity)) := by
  refine Early.raises_result_bind _ (raises_expectedTarget mutation) fun target _ => ?_
  refine Early.raises_result_bind _ (Early.raises_result_refuseIf _ fun _ => rfl) fun _ _ => ?_
  rw [selected]
  refine Early.raises_result_bind _ (raises_ok node) ?_
  rintro _ ⟨⟩
  refine Early.raises_result_bind _ (gives ▸ raises_ok observed) fun state read => ?_
  obtain rfl : observed = state := Except.ok.inj (gives.symm.trans read)
  refine Early.raises_result_bind _ ?_ fun _ _ => ?_
  · exact Early.raises_result_refuseIf _ fun differs => absurd rfl (of_decide_eq_true differs)
  · refine Early.raises_result_bind _ ?_ fun _ _ => raises_ok _
    rw [Early.result_attempt]
    exact raises_mapError_of (Raising.result _ (CpuSysfs.validateDesired_quiet ⟨root⟩ _ _))
      fun _ untargeted => untargeted

theorem raises_validateAdmission :
    Raises Untargeted (Early.result tree.answer
      (validateAdmission ⟨CpuSysfs.port ⟨root⟩⟩ mutation observed.targetIdentity)) := by
  refine Early.raises_result_bind _ (raises_capabilityOwned mutation) fun owned _ => ?_
  refine Early.raises_result_bind _ (Early.raises_result_refuseIf _ fun _ => rfl) fun _ _ => ?_
  refine Early.raises_result_bind _ (raises_validateTargetState selected gives) fun state _ => ?_
  exact Early.raises_result_refuseIf _ fun _ => rfl

/-- A snapshot is not refused for the precondition when this is the fingerprint
that is read. -/
theorem raises_snapshotInternal (same : mutation.precondition = observed.fingerprint)
    (now : Timestamp) :
    Raises (· ≠ preconditionChanged mutation) (Early.result tree.answer
      (snapshotInternal ⟨CpuSysfs.port ⟨root⟩⟩ mutation now)) := by
  have shape : matchingShape mutation.kind observed.typed = true := by
    obtain ⟨raw, interface, -, parsed, -⟩ := gives_read gives
    exact matchingShape_of_parseRaw selected parsed
  unfold snapshotInternal
  rw [selected]
  refine Early.raises_result_bind _ (raises_ok node) ?_
  rintro _ ⟨⟩
  refine Early.raises_result_bind _ (gives ▸ raises_ok observed) fun state read => ?_
  obtain rfl : observed = state := Except.ok.inj (gives.symm.trans read)
  exact Early.raises_result_bind _ (raises_validateState shape same) fun _ _ => raises_ok _

end Reading

end CpuBackend

end Sysboost.Linux.Cpu
