import Sysboost.Kernel.FileTree
import Sysboost.Linux.RootedFilesystem
import Sysboost.Results.Loops

/-!
# What a rooted adapter can reach

The adapter is opened on a file system whose symbolic links may stand anywhere
and point anywhere.  What it reads, identifies or lists is the object that stands
below its root where the components of the path lead, with no link on the way.
-/

namespace Sysboost.Linux

open Sysboost.Core Sysboost.Platform ByteCodec Kernel Results
open Storage (FileType IoErrorKind)

namespace RootedFilesystem

/-- Open an existing directory as a read-only adapter root. -/
def new (host : FileTree) (describe : IoErrorKind → String) (requested : Path) :
    Except SysboostError RootedFilesystem :=
  match found : host.realpath requested with
  | .error error =>
      .error (.new .targetError ("cannot resolve adapter root: " ++ describe error))
  | .ok root =>
      if (host.stat root).toOption.any fun metadata => metadata.fileType = .directory then
        .ok ⟨root, host.below root (FileTree.canonical_of_realpath found), describe⟩
      else .error (.new .targetError "adapter root is not a directory")

/-- The object stands below the root where the names lead, and no name on the
way is that of a link, so that its path is canonical. -/
structure Contained (host : FileTree) (root : Path) (names : List String) (object : Object) :
    Prop where
  stands : host.object (root ++ names) = some object
  plain : ∀ front, front <+: names → front ≠ [] →
    ∃ passed, host.object (root ++ front) = some passed ∧ passed.content.fileType ≠ .symlink
  canonicalRoot : host.realpath root = .ok root
  beneath : host.realpath (root ++ names) = .ok (root ++ names)

variable {host : FileTree} {describe : IoErrorKind → String} {requested root : Path}
  {filesystem : RootedFilesystem} {names : List String}

/-- An adapter that opened is rooted at the directory that was asked for. -/
theorem new_eq_ok (opened : new host describe requested = .ok filesystem) :
    ∃ root canonical, host.realpath requested = .ok root ∧
      filesystem = ⟨root, host.below root canonical, describe⟩ := by
  unfold new at opened
  split at opened
  · cases opened
  next root found =>
    split at opened
    · cases opened
      exact ⟨root, FileTree.canonical_of_realpath found, found, rfl⟩
    · cases opened

/-- Where a walk down from a canonical root ends, the object is contained. -/
theorem contained_of_walkable {object : Object} (canonical : host.Canonical root)
    (isNames : ∀ name ∈ names, IsName name) (walkable : Walkable host.lstat root names)
    (stands : host.object (root ++ names) = some object) :
    Contained host root names object := by
  have whole := FileTree.canonical_of_walkable canonical isNames walkable
  constructor
  · exact stands
  · rintro front ⟨back, rfl⟩ nonempty
    have passable := (FileTree.walkable_append.mp (FileTree.walkable_append.mp whole).2).1
    cases front using List.reverseRecOn with
    | nil => exact absurd rfl nonempty
    | append_singleton front last =>
        obtain ⟨-, metadata, shown, other⟩ := walkable_concat_iff.mp passable
        obtain ⟨passed, there, rfl⟩ := FileTree.shows_eq_ok_iff.mp shown
        rw [List.nil_append, List.append_assoc] at there
        exact ⟨passed, there, other⟩
  · exact canonical.realpath
  · exact whole.realpath

section Opened

variable {canonical : host.Canonical root} {path : RelativePath}

/-- The object of a path that the adapter resolves is contained. -/
theorem contained_of_walkable_components {object : Object} (canonical : host.Canonical root)
    (walkable : Walkable host.lstat root path.components)
    (stands : host.object (root ++ path.components) = some object) :
    Contained host root path.components object :=
  contained_of_walkable canonical (fun _ => isName_of_mem) walkable stands

theorem contained_of_read {bytes : Bytes}
    (ok : read ⟨root, host.below root canonical, describe⟩ path = .ok bytes) :
    ∃ object, Contained host root path.components object ∧ object.content = .file bytes := by
  obtain ⟨walkable, held⟩ := read_eq_ok_iff.mp ok
  obtain ⟨⟨⟩, -, held⟩ := bind_eq_ok_iff.mp held
  have whole := FileTree.canonical_of_walkable canonical (fun _ => isName_of_mem) walkable
  obtain ⟨object, stands, content⟩ := whole.file_of_readToEnd held
  exact ⟨object, contained_of_walkable_components canonical walkable stands, content⟩

theorem contained_of_identity {found : TargetIdentity}
    (ok : identity ⟨root, host.below root canonical, describe⟩ path = .ok found) :
    ∃ object, Contained host root path.components object ∧
      found = targetIdentityFromMetadata object.metadata := by
  obtain ⟨walkable, metadata, shown, same⟩ := identity_eq_ok ok
  have whole := FileTree.canonical_of_walkable canonical (fun _ => isName_of_mem) walkable
  obtain ⟨object, stands, rfl⟩ := FileTree.shows_eq_ok_iff.mp (whole.shows_of_lstat shown)
  exact ⟨object, contained_of_walkable_components canonical walkable stands, same⟩

/-- What is listed are the entries of the directory that the path leads to. -/
theorem contained_of_list {path : Option RelativePath} {listing : List DirectoryEntry}
    (ok : list ⟨root, host.below root canonical, describe⟩ path = .ok listing) :
    ∃ object entries,
      Contained host root (path.elim [] RelativePath.components) object ∧
        object.content = .directory entries ∧
        (Ordered.sortBy DirectoryEntry.name <$>
          entries.mapM (listEntry ⟨root, host.below root canonical, describe⟩)) = .ok listing := by
  obtain ⟨directory, entries, kinds, resolves, listed, mapped, rfl⟩ := list_eq_ok ok
  have walkable : Walkable host.lstat root (path.elim [] RelativePath.components) ∧
      directory = root ++ path.elim [] RelativePath.components := by
    cases path with
    | none =>
        cases resolves
        exact ⟨trivial, (List.append_nil root).symm⟩
    | some path => exact resolveExisting_eq_ok_iff.mp resolves
  obtain ⟨walkable, rfl⟩ := walkable
  have isNames : ∀ name ∈ path.elim [] RelativePath.components, IsName name := by
    cases path with
    | none => simp
    | some path => exact fun _ => isName_of_mem
  have whole := FileTree.canonical_of_walkable canonical isNames walkable
  obtain ⟨object, stands, content⟩ := whole.directory_of_readDirectory listed
  refine ⟨object, entries, contained_of_walkable canonical isNames walkable stands, content, ?_⟩
  rw [mapped]
  rfl

end Opened

/-- Whatever an opened adapter reads, identifies or lists under a joined path is
the object that stands where the joined path leads below the root. -/
theorem adapter_contained {value : String} {start path : RelativePath} {joins : List String}
    (opened : new host describe requested = .ok filesystem)
    (made : RelativePath.new value = .ok start) (joined : start.joinAll joins = .ok path) :
    host.realpath requested = .ok filesystem.root ∧
    (∀ bytes, filesystem.read path = .ok bytes →
      ∃ object, Contained host filesystem.root (splitAll '/' value ++ joins) object ∧
        object.content = .file bytes) ∧
    (∀ found, filesystem.identity path = .ok found →
      ∃ object, Contained host filesystem.root (splitAll '/' value ++ joins) object ∧
        found = targetIdentityFromMetadata object.metadata) ∧
    (∀ listing, filesystem.list (some path) = .ok listing →
      ∃ object entries, Contained host filesystem.root (splitAll '/' value ++ joins) object ∧
        object.content = .directory entries ∧
        (Ordered.sortBy DirectoryEntry.name <$> entries.mapM filesystem.listEntry) =
          .ok listing) ∧
    (∀ listing, filesystem.list none = .ok listing →
      ∃ object entries, Contained host filesystem.root [] object ∧
        object.content = .directory entries ∧
        (Ordered.sortBy DirectoryEntry.name <$> entries.mapM filesystem.listEntry) =
          .ok listing) := by
  have components : splitAll '/' value ++ joins = path.components := by
    rw [RelativePath.components_joinAll joined, RelativePath.components,
      RelativePath.asStr_of_new made]
  obtain ⟨root, canonical, found, rfl⟩ := new_eq_ok opened
  rw [components]
  exact ⟨found, fun _ => contained_of_read, fun _ => contained_of_identity,
    fun _ => contained_of_list, fun _ => contained_of_list⟩

/-- A link to the root of the adapter, and one out of it. -/
def linkedObjects : List (Path × Object) :=
  [([], ⟨.directory [], 1, 1, false⟩), (["sys"], ⟨.directory [], 1, 2, false⟩),
    (["link"], ⟨.symlink true ["sys"], 1, 3, false⟩),
    (["sys", "out"], ⟨.symlink false [".."], 1, 4, false⟩),
    (["sys", "cpu"], ⟨.directory [], 1, 5, false⟩),
    (["sys", "cpu", "online"], ⟨.file [48], 1, 6, false⟩)]

theorem linkedObjects_parent : ∀ entry ∈ linkedObjects, entry.1 ≠ [] →
    IsName (entry.1.getLastD "") ∧ ∃ object,
      linkedObjects.lookup entry.1.dropLast = some object ∧
        object.content.fileType = .directory := by
  simp only [linkedObjects, List.forall_mem_cons]
  constructor
  · exact fun top => absurd rfl top
  refine ⟨fun _ => ?_, fun _ => ?_, fun _ => ?_, fun _ => ?_, fun _ => ?_, nofun⟩
  all_goals exact ⟨⟨by decide, by decide, by decide, by decide⟩, _, rfl, rfl⟩

def linkedHost : FileTree where
  object path := linkedObjects.lookup path
  maxLinks := 40
  refuses _ := none
  top := ⟨_, rfl, rfl⟩
  parent path name child stands := by
    obtain ⟨front, back, listed, -⟩ := List.lookup_eq_some_iff.mp stands
    have member : (path ++ [name], child) ∈ linkedObjects := by simp [listed]
    simpa using linkedObjects_parent _ member (by simp)

theorem adapter_contained_linked :
    ∃ filesystem start path, new linkedHost (fun _ => "") ["link"] = .ok filesystem ∧
      RelativePath.new "cpu" = .ok start ∧ start.joinAll ["online"] = .ok path ∧
      filesystem.read path = .ok [48] ∧
      ∃ object, Contained linkedHost filesystem.root (splitAll '/' "cpu" ++ ["online"]) object ∧
        object.content = .file [48] := by
  have holds : ((new linkedHost (fun _ => "") ["link"]).toOption.any fun filesystem =>
      (RelativePath.new "cpu").toOption.any fun start =>
        (start.joinAll ["online"]).toOption.any fun path =>
          (filesystem.read path).toOption.any fun bytes => bytes = [48]) = true := by
    decide +kernel
  obtain ⟨filesystem, opened, holds⟩ := exists_ok_of_any holds
  obtain ⟨start, made, holds⟩ := exists_ok_of_any holds
  obtain ⟨path, joined, holds⟩ := exists_ok_of_any holds
  obtain ⟨bytes, held, same⟩ := exists_ok_of_any holds
  rw [of_decide_eq_true same] at held
  exact ⟨filesystem, start, path, opened, made, joined, held,
    (adapter_contained opened made joined).2.1 _ held⟩

end RootedFilesystem

end Sysboost.Linux
