import Sysboost.ByteCodec.BigEndian
import Sysboost.Interaction.Safety
import Mathlib.Data.List.AList

/-!
# A directory of files on a disk

A disk keeps the directory as it is now and every version of it since the last
time the directory was synchronised.  When the power fails, any of these
versions may be found; a file in it has the content it had when it was
synchronised, and an arbitrary content if it has not been synchronised since it
was written.  A rename replaces its target at once and completely.
-/

namespace Storage

open ByteCodec Interaction

/-- The name of a directory entry. -/
abbrev FileName := Bytes

inductive FileType where
  | file
  | directory
  | symlink
  | other
deriving DecidableEq

/-- What `stat` says of an object. -/
structure Metadata where
  fileType : FileType
  uid : UInt32
  gid : UInt32
  mode : UInt32
  nlink : Nat
deriving DecidableEq

/-- An object in the directory. -/
structure Node where
  metadata : Metadata
  content : Bytes
  /-- Whether the content has been synchronised since it was written. -/
  synced : Bool
deriving DecidableEq

/-- The entries of a directory, each name once. -/
abbrev Directory := AList fun _ : FileName => Node

namespace Directory

/-- Change the node of a name, if there is one. -/
def adjust (name : FileName) (change : Node → Node) (directory : Directory) : Directory :=
  match directory.lookup name with
  | some node => directory.insert name (change node)
  | none => directory

/-- Give a node another name; a node that had this name is gone. -/
def rename (source target : FileName) (directory : Directory) : Directory :=
  match directory.lookup source with
  | some node => (directory.erase source).insert target node
  | none => directory

end Directory

/-- The disk under one directory. -/
structure Disk where
  /-- The directory itself, unless it is missing. -/
  root : Option Metadata
  live : Directory
  /-- Its versions since it was last synchronised. -/
  older : List Directory

namespace Disk

/-- Change the entries of the directory. -/
def change (disk : Disk) (update : Directory → Directory) : Disk :=
  { disk with live := update disk.live, older := disk.live :: disk.older }

/-- Write a file.  Nothing is known any more of a file of this name in an
older version: it may be the same file. -/
def write (disk : Disk) (name : FileName) (content : Bytes) : Disk :=
  { disk with
    live := disk.live.adjust name fun node => { node with content, synced := false }
    older := disk.older.map (Directory.adjust name fun node => { node with synced := false }) }

/-- Synchronise a file. -/
def sync (disk : Disk) (name : FileName) : Disk :=
  { disk with live := disk.live.adjust name fun node => { node with synced := true } }

/-- Synchronise the directory. -/
def syncEntries (disk : Disk) : Disk :=
  { disk with older := [] }

end Disk

/-! ## What a failure of the power leaves -/

/-- What is found of a node afterwards. -/
structure Node.Settles (before after : Node) : Prop where
  metadata : after.metadata = before.metadata
  content : before.synced = true → after.content = before.content
  synced : after.synced = true

/-- What is found of a version of the directory afterwards. -/
def Directory.Settles (before after : Directory) : Prop :=
  ∀ name, Option.Rel Node.Settles (before.lookup name) (after.lookup name)

/-- The disk at a later time: as it is, or as it is found when the power has
failed. -/
def Disk.Later (disk later : Disk) : Prop :=
  later = disk ∨
    later.root = disk.root ∧ later.older = [] ∧
      ∃ version ∈ disk.live :: disk.older, version.Settles later.live

/-! ## Calls -/

inductive IoErrorKind where
  | permissionDenied
  | notFound
  | alreadyExists
  | other
deriving DecidableEq

/-- What a path names. -/
inductive Path where
  /-- The directory itself. -/
  | root
  | parent
  | entry (name : FileName)

/-- One call of a process.  An open file is named by the name it was opened
under. -/
inductive Call where
  | symlinkMetadata (path : Path)
  | createDirectory (mode : UInt32)
  /-- Open the parent directory and synchronise it. -/
  | syncParent
  /-- Open a file for writing that must not exist. -/
  | createNew (name : FileName) (mode : UInt32)
  /-- Open a file for reading, unless it is a symbolic link. -/
  | openFile (name : FileName)
  | fileMetadata (name : FileName)
  | writeAll (name : FileName) (content : Bytes)
  | syncAll (name : FileName)
  /-- Read an open file to its end, but at most so many bytes. -/
  | readToEnd (name : FileName) (limit : Nat)
  | rename (source target : FileName)
  | removeFile (name : FileName)
  | openDirectory
  | directoryMetadata
  | syncDirectory
  | readDirectory
  /-- The type of an object that the directory listed. -/
  | entryType (name : FileName)
  | processId
  /-- The nanoseconds since the epoch, unless the clock is set before it. -/
  | sinceEpoch

abbrev Answer : Call → Type
  | .symlinkMetadata _ => Except IoErrorKind Metadata
  | .createDirectory _ => Except IoErrorKind Unit
  | .syncParent => Except IoErrorKind Unit
  | .createNew _ _ => Except IoErrorKind Unit
  | .openFile _ => Except IoErrorKind Unit
  | .fileMetadata _ => Except IoErrorKind Metadata
  | .writeAll _ _ => Except IoErrorKind Unit
  | .syncAll _ => Except IoErrorKind Unit
  | .readToEnd _ _ => Except IoErrorKind Bytes
  | .rename _ _ => Except IoErrorKind Unit
  | .removeFile _ => Except IoErrorKind Unit
  | .openDirectory => Except IoErrorKind Unit
  | .directoryMetadata => Except IoErrorKind Metadata
  | .syncDirectory => Except IoErrorKind Unit
  | .readDirectory => Except IoErrorKind (List (Except IoErrorKind FileName))
  | .entryType _ => Except IoErrorKind FileType
  | .processId => UInt32
  | .sinceEpoch => Option (BitVec 128)

/-- Who makes the calls. -/
structure Process where
  pid : UInt32
  /-- The owner and the group that its files get. -/
  uid : UInt32
  gid : UInt32
  umask : UInt32
  pid_ne_zero : pid ≠ 0

/-- A file as it is created. -/
def Process.newFile (process : Process) (mode : UInt32) : Node :=
  ⟨⟨.file, process.uid, process.gid, mode &&& ~~~process.umask, 1⟩, [], false⟩

/-- The directory as it is created. -/
def Process.newDirectory (process : Process) (mode : UInt32) : Metadata :=
  ⟨.directory, process.uid, process.gid, mode &&& ~~~process.umask, 2⟩

/-! ## Laws -/

/-- The metadata of an entry. -/
def Disk.metadata (disk : Disk) (name : FileName) : Option Metadata :=
  (disk.live.lookup name).map Node.metadata

/-- What the calls do.  A call that reports an error has changed nothing, or
has taken effect, or has written a part of its data; only an object that is
missing is reported as not found. -/
def Law (process : Process) (disk : Disk) : (call : Call) → Answer call → Disk → Prop
  | .symlinkMetadata .root, .ok metadata, after => disk.root = some metadata ∧ after = disk
  | .symlinkMetadata .root, .error kind, after =>
      (kind = .notFound → disk.root = none) ∧ after = disk
  | .symlinkMetadata (.entry name), .ok metadata, after =>
      disk.metadata name = some metadata ∧ after = disk
  | .symlinkMetadata (.entry name), .error kind, after =>
      (kind = .notFound → disk.metadata name = none) ∧ after = disk
  | .createDirectory mode, .ok (), after =>
      disk.root = none ∧ after = { disk with root := some (process.newDirectory mode) }
  | .createDirectory mode, .error _, after =>
      after = disk ∨
        disk.root = none ∧ after = { disk with root := some (process.newDirectory mode) }
  | .createNew name mode, .ok (), after =>
      disk.metadata name = none ∧ after = disk.change (·.insert name (process.newFile mode))
  | .createNew name mode, .error _, after =>
      after = disk ∨ disk.metadata name = none ∧
        after = disk.change (·.insert name (process.newFile mode))
  | .openFile name, .ok (), after => (disk.metadata name).isSome ∧ after = disk
  | .openFile name, .error kind, after =>
      (kind = .notFound → disk.metadata name = none) ∧ after = disk
  | .fileMetadata name, .ok metadata, after => disk.metadata name = some metadata ∧ after = disk
  | .writeAll name content, .ok (), after => after = disk.write name content
  | .writeAll name content, .error _, after =>
      ∃ part, part <+: content ∧ after = disk.write name part
  | .syncAll name, .ok (), after => after = disk.sync name
  | .readToEnd name limit, .ok bytes, after =>
      (disk.live.lookup name).map (fun node => node.content.take limit) = some bytes ∧ after = disk
  | .rename source target, .ok (), after =>
      (disk.metadata source).isSome ∧ after = disk.change (Directory.rename source target)
  | .rename source target, .error _, after =>
      after = disk ∨
        (disk.metadata source).isSome ∧ after = disk.change (Directory.rename source target)
  | .removeFile name, .ok (), after =>
      (disk.metadata name).isSome ∧ after = disk.change (AList.erase name)
  | .removeFile name, .error kind, after =>
      (kind = .notFound → disk.metadata name = none) ∧
        (after = disk ∨ after = disk.change (AList.erase name))
  | .directoryMetadata, .ok metadata, after => disk.root = some metadata ∧ after = disk
  | .syncDirectory, .ok (), after => after = disk.syncEntries
  | .readDirectory, .ok entries, after =>
      (∃ names, names.Perm disk.live.keys ∧
        List.Forall₂ (fun entry name => ∀ read, entry = .ok read → read = name) entries names) ∧
        after = disk
  | .entryType name, .ok fileType, after =>
      (disk.metadata name).map Metadata.fileType = some fileType ∧ after = disk
  | .processId, pid, after => pid = process.pid ∧ after = disk
  | _, _, after => after = disk

end Storage
