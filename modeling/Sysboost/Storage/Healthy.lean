import Sysboost.Storage.Disk

/-!
# A disk without failures

Every call is answered by what is on the disk and takes effect at once.  These
answers obey the laws of the disk, so a program that runs with them has a run.
-/

namespace Storage

open ByteCodec Interaction

/-- The answer to a call for an object that may be missing. -/
def found {α : Type} : Option α → Except IoErrorKind α
  | some value => .ok value
  | none => .error .notFound

namespace Process

variable (process : Process) (disk : Disk)

def answer : (call : Call) → Answer call
  | .symlinkMetadata .root => found disk.root
  | .symlinkMetadata .parent => .ok ⟨.directory, 0, 0, 0o755, 2⟩
  | .symlinkMetadata (.entry name) => found (disk.metadata name)
  | .createDirectory _ => if disk.root.isNone then .ok () else .error .alreadyExists
  | .syncParent => .ok ()
  | .createNew name _ => if (disk.metadata name).isNone then .ok () else .error .alreadyExists
  | .openFile name =>
      match disk.metadata name with
      | some metadata => if metadata.fileType = .symlink then .error .other else .ok ()
      | none => .error .notFound
  | .fileMetadata name => found (disk.metadata name)
  | .writeAll _ _ => .ok ()
  | .syncAll _ => .ok ()
  | .readToEnd name limit => found ((disk.live.lookup name).map fun node => node.content.take limit)
  | .rename source _ => if (disk.metadata source).isSome then .ok () else .error .notFound
  | .removeFile name => if (disk.metadata name).isSome then .ok () else .error .notFound
  | .openDirectory => if disk.root.isSome then .ok () else .error .notFound
  | .directoryMetadata => found disk.root
  | .syncDirectory => .ok ()
  | .readDirectory => .ok (disk.live.keys.map .ok)
  | .entryType name => found ((disk.metadata name).map Metadata.fileType)
  | .processId => process.pid
  | .sinceEpoch => none

/-- The disk after a call. -/
def after : Call → Disk
  | .createDirectory mode =>
      if disk.root.isNone then { disk with root := some (process.newDirectory mode) } else disk
  | .createNew name mode =>
      if (disk.metadata name).isNone then disk.change (·.insert name (process.newFile mode))
      else disk
  | .writeAll name content => disk.write name content
  | .syncAll name => disk.sync name
  | .rename source target =>
      if (disk.metadata source).isSome then disk.change (Directory.rename source target) else disk
  | .removeFile name =>
      if (disk.metadata name).isSome then disk.change (AList.erase name) else disk
  | .syncDirectory => disk.syncEntries
  | _ => disk

def respond (call : Call) : Answer call × Disk :=
  (process.answer disk call, process.after disk call)

/-- A disk without failures obeys the laws. -/
theorem law (call : Call) :
    Law process disk call (process.respond disk call).1 (process.respond disk call).2 := by
  cases call with
  | symlinkMetadata path =>
      cases path with
      | root => cases root : disk.root <;> simp [respond, answer, after, found, Law, root]
      | parent => simp [respond, answer, after, Law]
      | entry name =>
          cases entry : disk.metadata name <;> simp [respond, answer, after, found, Law, entry]
  | createDirectory mode =>
      cases root : disk.root <;> simp [respond, answer, after, Law, root]
  | createNew name mode =>
      cases entry : disk.metadata name <;> simp [respond, answer, after, Law, entry]
  | openFile name =>
      cases entry : disk.metadata name with
      | none => simp [respond, answer, after, Law, entry]
      | some metadata =>
          by_cases link : metadata.fileType = .symlink <;>
            simp [respond, answer, after, Law, entry, link]
  | fileMetadata name =>
      cases entry : disk.metadata name <;> simp [respond, answer, after, found, Law, entry]
  | readToEnd name limit =>
      cases node : disk.live.lookup name <;> simp [respond, answer, after, found, Law, node]
  | rename source target =>
      cases entry : disk.metadata source <;> simp [respond, answer, after, Law, entry]
  | removeFile name =>
      cases entry : disk.metadata name <;> simp [respond, answer, after, Law, entry]
  | openDirectory => cases root : disk.root <;> simp [respond, answer, after, Law, root]
  | directoryMetadata => cases root : disk.root <;> simp [respond, answer, after, found, Law, root]
  | entryType name =>
      cases entry : disk.metadata name <;> simp [respond, answer, after, found, Law, entry]
  | readDirectory =>
      refine ⟨⟨disk.live.keys, .refl _, ?_⟩, rfl⟩
      rw [List.forall₂_map_left_iff, List.forall₂_same]
      rintro name - read same
      exact (Except.ok.inj same).symm
  | _ => simp [respond, answer, after, Law]

end Process

end Storage
