import Sysboost.Kernel.Tree
import Sysboost.Ordered.Sorting
import Sysboost.Platform.Filesystem

/-!
# The rooted read-only adapter

The adapter follows a relative path below its root one component at a time and
refuses symbolic links, before it reads, identifies or lists what the path names.
-/

namespace Sysboost.Linux

open Sysboost.Core Sysboost.Platform ByteCodec Kernel Results
open Storage (FileType IoErrorKind)

/-- Read-only adapter rooted at one explicitly selected mount, on a tree that
does not change. -/
structure RootedFilesystem where
  root : Path
  tree : Tree root
  /-- The text of an I/O error. -/
  describe : IoErrorKind → String

namespace RootedFilesystem

variable (filesystem : RootedFilesystem)

/-- An error of the adapter with its cause. -/
def failure (code : ErrorCode) (message : String) (error : IoErrorKind) : SysboostError :=
  .new code (message ++ filesystem.describe error)

/-- The loop of `resolve_existing`. -/
def descend (candidate : Path) : List String → Except SysboostError Path
  | [] => return candidate
  | component :: rest => do
      let candidate := candidate ++ [component]
      let metadata ← (filesystem.tree.symlinkMetadata candidate).mapError
        (filesystem.failure .targetError "cannot inspect adapter node: ")
      if metadata.fileType = .symlink then
        throw (.new .targetError "symlink traversal is not accepted by the rooted adapter")
      descend candidate rest

def resolveExisting (path : RelativePath) : Except SysboostError Path := do
  let candidate ← filesystem.descend filesystem.root (splitAll '/' path.asStr)
  let resolved ← (filesystem.tree.canonicalize candidate).mapError
    (filesystem.failure .targetError "cannot resolve adapter node: ")
  if !filesystem.root.isPrefixOf resolved then
    throw (.new .targetError "resolved adapter node escapes its approved root")
  return resolved

def read (path : RelativePath) : Except SysboostError Bytes := do
  let resolved ← filesystem.resolveExisting path
  (filesystem.tree.read resolved).mapError
    (filesystem.failure .capabilityError "cannot read adapter node: ")

/-- `target_identity_from_metadata`: the device and the inode in network order. -/
def targetIdentityFromMetadata (metadata : Metadata) : TargetIdentity :=
  ⟨.words metadata.device metadata.inode⟩

def identity (path : RelativePath) : Except SysboostError TargetIdentity := do
  let resolved ← filesystem.resolveExisting path
  let metadata ← (filesystem.tree.symlinkMetadata resolved).mapError
    (filesystem.failure .capabilityError "cannot read adapter identity: ")
  if metadata.fileType ≠ .file ∧ metadata.fileType ≠ .directory then
    throw (.new .targetError "adapter identity target has an unexpected type")
  return targetIdentityFromMetadata metadata

/-- The kind of an entry. -/
def entryKind : FileType → EntryKind
  | .file => .file
  | .directory => .directory
  | .symlink => .symlink
  | .other => .other

/-- The loop body over the entries of a directory. -/
def listEntry (entry : Except IoErrorKind ListedEntry) : Except SysboostError DirectoryEntry := do
  let entry ← entry.mapError
    (filesystem.failure .capabilityError "cannot inspect adapter directory entry: ")
  let kind ← entry.fileType.mapError
    (filesystem.failure .capabilityError "cannot read adapter entry type: ")
  return ⟨entry.name, entryKind kind⟩

def list (path : Option RelativePath) : Except SysboostError (List DirectoryEntry) := do
  let directory ←
    match path with
    | some path => filesystem.resolveExisting path
    | none => pure filesystem.root
  -- A canonical path is no link, so following links changes nothing.
  let metadata ← (filesystem.tree.symlinkMetadata directory).mapError
    (filesystem.failure .targetError "cannot inspect adapter directory: ")
  if metadata.fileType ≠ .directory then
    throw (.new .targetError "adapter list target is not a directory")
  let entries ← (filesystem.tree.entries directory).mapError
    (filesystem.failure .capabilityError "cannot enumerate adapter directory: ")
  return Ordered.sortBy DirectoryEntry.name (← entries.mapM filesystem.listEntry)

/-- The adapter as a port. -/
def port : ReadOnlyFileSystem :=
  ⟨filesystem.read, filesystem.identity, filesystem.list⟩

/-! ## What the adapter accepts -/

variable {filesystem}

/-- The components of a checked path are names. -/
theorem isName_of_mem {path : RelativePath} {component : String}
    (member : component ∈ splitAll '/' path.asStr) : IsName component := by
  have single := not_mem_of_mem_splitAll member
  obtain ⟨symbols, listed, rfl⟩ := List.mem_map.mp member
  obtain ⟨nonempty, notHere, notAbove⟩ :=
    (validatePath_eq_ok_iff.mp path.valid).2.named symbols listed
  constructor
  · simpa [String.ext_iff] using nonempty
  · simpa [String.ext_iff] using notHere
  · simpa [String.ext_iff] using notAbove
  · exact single

/-- The walk down ends where it meets no symbolic link. -/
theorem descend_eq_ok_iff {candidate result : Path} {components : List String} :
    filesystem.descend candidate components = .ok result ↔
      Walkable filesystem.tree.symlinkMetadata candidate components ∧
        result = candidate ++ components := by
  induction components generalizing candidate with
  | nil => simp [descend, Walkable, pure, Except.pure, eq_comm]
  | cons component rest ih =>
      simp only [descend, bind_eq_ok_iff, mapError_eq_ok_iff, guard_eq_ok_iff, ih, Walkable,
        List.append_assoc, List.singleton_append]
      constructor
      · rintro ⟨metadata, shown, other, walkable, rfl⟩
        exact ⟨⟨⟨metadata, shown, other⟩, walkable⟩, rfl⟩
      · rintro ⟨⟨⟨metadata, shown, other⟩, walkable⟩, rfl⟩
        exact ⟨metadata, shown, other, walkable, rfl⟩

theorem resolveExisting_eq_ok_iff {path : RelativePath} {resolved : Path} :
    filesystem.resolveExisting path = .ok resolved ↔
      Walkable filesystem.tree.symlinkMetadata filesystem.root (splitAll '/' path.asStr) ∧
        resolved = filesystem.root ++ splitAll '/' path.asStr := by
  have canonical := filesystem.tree.canonical (splitAll '/' path.asStr) fun _ => isName_of_mem
  simp only [resolveExisting, bind_eq_ok_iff, mapError_eq_ok_iff, guard_eq_ok_iff,
    descend_eq_ok_iff]
  constructor
  · rintro ⟨_, ⟨walkable, rfl⟩, found, resolves, -, same⟩
    rw [canonical walkable] at resolves
    cases resolves
    cases same
    exact ⟨walkable, rfl⟩
  · rintro ⟨walkable, rfl⟩
    exact ⟨_, ⟨walkable, rfl⟩, _, canonical walkable, by simp, rfl⟩

theorem read_eq_ok_iff {path : RelativePath} {bytes : Bytes} :
    filesystem.read path = .ok bytes ↔
      Walkable filesystem.tree.symlinkMetadata filesystem.root (splitAll '/' path.asStr) ∧
        filesystem.tree.read (filesystem.root ++ splitAll '/' path.asStr) = .ok bytes := by
  simp only [read, bind_eq_ok_iff, mapError_eq_ok_iff, resolveExisting_eq_ok_iff]
  constructor
  · rintro ⟨_, ⟨walkable, rfl⟩, held⟩
    exact ⟨walkable, held⟩
  · rintro ⟨walkable, held⟩
    exact ⟨_, ⟨walkable, rfl⟩, held⟩

theorem identity_eq_ok {path : RelativePath} {identity : TargetIdentity}
    (ok : filesystem.identity path = .ok identity) :
    Walkable filesystem.tree.symlinkMetadata filesystem.root (splitAll '/' path.asStr) ∧
      ∃ metadata, filesystem.tree.symlinkMetadata
          (filesystem.root ++ splitAll '/' path.asStr) = .ok metadata ∧
        identity = targetIdentityFromMetadata metadata := by
  simp only [RootedFilesystem.identity, bind_eq_ok_iff, mapError_eq_ok_iff, guard_eq_ok_iff,
    resolveExisting_eq_ok_iff] at ok
  obtain ⟨_, ⟨walkable, rfl⟩, metadata, shown, -, same⟩ := ok
  cases same
  exact ⟨walkable, metadata, shown, rfl⟩

/-- What is listed are the entries of the directory that the path resolves to. -/
theorem list_eq_ok {path : Option RelativePath} {listing : List DirectoryEntry}
    (ok : filesystem.list path = .ok listing) :
    ∃ directory entries listed,
      path.elim (.ok filesystem.root) filesystem.resolveExisting = .ok directory ∧
        filesystem.tree.entries directory = .ok entries ∧
        entries.mapM filesystem.listEntry = .ok listed ∧
        listing = Ordered.sortBy DirectoryEntry.name listed := by
  cases path
  all_goals
    simp only [list, bind_eq_ok_iff, mapError_eq_ok_iff, guard_eq_ok_iff] at ok
    obtain ⟨directory, resolves, -, -, -, entries, listed, kinds, mapped, same⟩ := ok
    cases same
    exact ⟨directory, entries, kinds, resolves, listed, mapped, rfl⟩

end RootedFilesystem

end Sysboost.Linux
