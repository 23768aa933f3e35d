import Sysboost.Interaction.Static
import Sysboost.Kernel.Files

/-!
# A tree that does not change

What the file system calls say of the objects below a root while nobody changes
them.  The root is canonical, so a path below it that meets no symbolic link is
canonical as well.
-/

namespace Kernel

open ByteCodec Interaction
open Storage (FileType IoErrorKind)

/-- A component that names an entry of a directory. -/
structure IsName (component : String) : Prop where
  nonempty : component ≠ ""
  notHere : component ≠ "."
  notAbove : component ≠ ".."
  single : '/' ∉ component.toList

/-- Nothing on the way down from a directory is missing or a symbolic link. -/
def Walkable (symlinkMetadata : Path → Except IoErrorKind Metadata) (current : Path) :
    List String → Prop
  | [] => True
  | component :: rest =>
      (∃ metadata, symlinkMetadata (current ++ [component]) = .ok metadata ∧
        metadata.fileType ≠ .symlink) ∧ Walkable symlinkMetadata (current ++ [component]) rest

/-- The way down to an entry of a directory. -/
theorem walkable_concat_iff {symlinkMetadata : Path → Except IoErrorKind Metadata} {current : Path}
    {front : List String} {last : String} :
    Walkable symlinkMetadata current (front ++ [last]) ↔
      Walkable symlinkMetadata current front ∧
        ∃ metadata, symlinkMetadata (current ++ front ++ [last]) = .ok metadata ∧
          metadata.fileType ≠ .symlink := by
  induction front generalizing current with
  | nil => simp [Walkable]
  | cons component rest ih => simp [Walkable, ih, and_assoc]

/-- One entry of a listed directory. -/
structure ListedEntry where
  name : String
  fileType : Except IoErrorKind FileType

structure Tree (root : Path) where
  symlinkMetadata : Path → Except IoErrorKind Metadata
  canonicalize : Path → Except IoErrorKind Path
  /-- Opening an object that is no symbolic link for reading. -/
  opens : Path → Except IoErrorKind Unit
  /-- What is read of an open object. -/
  content : Path → Except IoErrorKind Bytes
  entries : Path → Except IoErrorKind (List (Except IoErrorKind ListedEntry))
  canonical : ∀ components, (∀ component ∈ components, IsName component) →
    Walkable symlinkMetadata root components →
      canonicalize (root ++ components) = .ok (root ++ components)

namespace Tree

variable {root : Path} (tree : Tree root)

/-- Open an object that is no symbolic link, and read it to its end. -/
def read (path : Path) : Except IoErrorKind Bytes := do
  tree.opens path
  tree.content path

/-- The answers to the calls of a reader; it makes no others. -/
def answer : (request : Call) → Answer request
  | .symlinkMetadata path | .fileMetadata path => tree.symlinkMetadata path
  | .canonicalize path => tree.canonicalize path
  | .openRead path =>
      match tree.symlinkMetadata path with
      | .ok metadata =>
          if metadata.fileType = .symlink then .error .other else tree.opens path
      | .error error => .error error
  | .readToEnd path limit =>
      (tree.content path).map fun content => limit.elim content content.take
  | .openWrite _ | .writeAll _ _ | .createDirectory _ | .removeDirectory _ => .error .other
  | .readDirectory _ => .error .other
  | .getPriority _ => .error .other
  | .setPriority _ _ => .error .other

variable {tree} {path : Path}

theorem opens_of_openRead (opened : tree.answer (.openRead path) = .ok ()) :
    tree.opens path = .ok () := by
  simp only [answer] at opened
  split at opened
  · split at opened
    · cases opened
    · exact opened
  · cases opened

/-- A bounded read that stays below its bound has read everything. -/
theorem content_of_readToEnd {limit : Nat} {bytes : Bytes}
    (held : tree.answer (.readToEnd path (some limit)) = .ok bytes)
    (short : bytes.length < limit) : tree.content path = .ok bytes := by
  simp only [answer] at held
  cases content : tree.content path with
  | error error =>
      rw [content] at held
      cases held
  | ok all =>
      rw [content] at held
      cases held
      have whole : all.length ≤ limit := by
        simp only [Option.elim_some, List.length_take] at short
        omega
      exact congrArg Except.ok (List.take_of_length_le whole).symm

end Tree

end Kernel
