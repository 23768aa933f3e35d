import Sysboost.Interaction.Reading
import Sysboost.Storage.Disk

/-!
# The file system calls of a process

Paths are lists of names from the root.  An open file is named by the path it
was opened under, and nothing is said here of what the calls answer: a kernel
interface may refuse any call, and a write to it may do anything.
-/

namespace Kernel

open ByteCodec Interaction
open Storage (FileType IoErrorKind)

abbrev Path := List String

/-- What `lstat` says of an object. -/
structure Metadata where
  fileType : FileType
  device : UInt64
  inode : UInt64
  readonly : Bool
deriving DecidableEq

/-- One call of a process. -/
inductive Call where
  | symlinkMetadata (path : Path)
  | canonicalize (path : Path)
  /-- Open a file for reading, unless it is a symbolic link. -/
  | openRead (path : Path)
  /-- Open a file for writing, unless it is a symbolic link. -/
  | openWrite (path : Path)
  | fileMetadata (path : Path)
  /-- Read an open file to its end, or at most so many bytes. -/
  | readToEnd (path : Path) (limit : Option Nat)
  | writeAll (path : Path) (content : Bytes)
  /-- List the names of a directory, each of which may be unreadable. -/
  | readDirectory (path : Path)
  | createDirectory (path : Path)
  | removeDirectory (path : Path)
  | getPriority (pid : Int32)
  | setPriority (pid : Int32) (nice : Int32)
deriving DecidableEq

abbrev Answer : Call → Type
  | .symlinkMetadata _ => Except IoErrorKind Metadata
  | .canonicalize _ => Except IoErrorKind Path
  | .openRead _ => Except IoErrorKind Unit
  | .openWrite _ => Except IoErrorKind Unit
  | .fileMetadata _ => Except IoErrorKind Metadata
  | .readToEnd _ _ => Except IoErrorKind Bytes
  | .writeAll _ _ => Except IoErrorKind Unit
  | .readDirectory _ => Except IoErrorKind (List (Except IoErrorKind Bytes))
  | .createDirectory _ => Except IoErrorKind Unit
  | .removeDirectory _ => Except IoErrorKind Unit
  | .getPriority _ => Except IoErrorKind Int32
  | .setPriority _ _ => Except IoErrorKind Unit

instance : Writing Call where
  writes
    | .openWrite _ | .writeAll _ _ | .createDirectory _ | .removeDirectory _ | .setPriority _ _ =>
        true
    | _ => false

end Kernel
