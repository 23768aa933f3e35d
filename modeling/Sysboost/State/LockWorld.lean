import Sysboost.Interaction.Runs
import Sysboost.State.FileSessionLock
import Sysboost.Storage.Healthy

/-!
# Acquirers of one lock path

A world has the lock files that were ever created, the one that the lock path
names, and the open files and guards of every acquirer.  Creating exclusively,
writing, reading, inspecting and unlinking are each one step; a new file may get
the identity of a file that is gone.
-/

namespace Sysboost.State

open Sysboost.Core Sysboost.Platform ByteCodec Interaction Storage

/-- A lock file, linked or not. -/
structure LockFile where
  metadata : Metadata
  identity : FileIdentity
  content : Bytes
deriving DecidableEq

structure LockWorld (Party : Type) where
  /-- The state root. -/
  disk : Disk
  /-- Every lock file, in the order of creation. -/
  files : List LockFile
  /-- The file that the lock path names. -/
  entry : Option Nat
  /-- The file that an acquirer has created and keeps open. -/
  created : Party → Option Nat
  /-- The file that it has opened for reading. -/
  opened : Party → Option Nat
  guards : Party → Option FileSessionLockGuard
  /-- `/proc/<pid>/stat` of the processes that live. -/
  stats : UInt32 → Option String

variable {Party : Type}

namespace LockWorld

variable (world : LockWorld Party)

/-- What `stat` says of a file; an unlinked one has no links. -/
def stat (object : Nat) : Option LockStat :=
  world.files[object]?.map fun file =>
    ⟨{ file.metadata with nlink := if world.entry = some object then 1 else 0 }, file.identity⟩

/-- Write the file of this number. -/
def fill (object : Option Nat) (content : Bytes) : LockWorld Party :=
  match object with
  | some object =>
      { world with files := world.files.modify object fun file => { file with content } }
  | none => world

section Acquirers

variable [DecidableEq Party] (party : Party)

/-- Create an empty file and name it by the lock path. -/
def create (metadata : Metadata) (identity : FileIdentity) : LockWorld Party :=
  { world with
    files := world.files ++ [⟨metadata, identity, []⟩]
    entry := some world.files.length
    created := Function.update world.created party (some world.files.length) }

def close : LockWorld Party :=
  { world with created := Function.update world.created party none }

def openEntry : LockWorld Party :=
  { world with opened := Function.update world.opened party world.entry }

/-- Set or clear the guard of an acquirer. -/
def hold (guard : Option FileSessionLockGuard) : LockWorld Party :=
  { world with guards := Function.update world.guards party guard }

/-- The acquirer dies. -/
def die (pid : UInt32) : LockWorld Party :=
  { world with
    created := Function.update world.created party none
    opened := Function.update world.opened party none
    guards := Function.update world.guards party none
    stats := Function.update world.stats pid none }

end Acquirers

end LockWorld

section Service

variable [DecidableEq Party]

/-- What the calls do.  A failing write may have written a part of its data, and
no other failing call has had an effect; only what is missing is reported as not
found, and only what is there as existing. -/
def LockLaw (processes : Party → Process) (party : Party) (world : LockWorld Party) :
    (call : LockCall) → LockAnswer call → LockWorld Party → Prop
  | .root call, answer, after =>
      ∃ disk, Storage.Law (processes party) world.disk call answer disk ∧
        after = { world with disk }
  | .createNew mode, .ok (), after =>
      world.entry = none ∧ ∃ identity,
        after = world.create party ((processes party).newFile mode).metadata identity
  | .createNew _, .error kind, after =>
      (kind = .alreadyExists → world.entry ≠ none) ∧ after = world
  | .createdMetadata, .ok stat, after =>
      (world.created party).bind world.stat = some stat ∧ after = world
  | .writeCreated content, .ok (), after => after = world.fill (world.created party) content
  | .writeCreated content, .error _, after =>
      ∃ part, part <+: content ∧ after = world.fill (world.created party) part
  | .closeCreated, (), after => after = world.close party
  | .symlinkMetadata, .ok stat, after => world.entry.bind world.stat = some stat ∧ after = world
  | .symlinkMetadata, .error kind, after => (kind = .notFound → world.entry = none) ∧ after = world
  | .openFile, .ok (), after => world.entry ≠ none ∧ after = world.openEntry party
  | .openedMetadata, .ok stat, after =>
      (world.opened party).bind world.stat = some stat ∧ after = world
  | .readOpened limit, .ok bytes, after =>
      (world.opened party).bind (fun object => world.files[object]?.map fun file =>
        file.content.take limit) = some bytes ∧ after = world
  | .removeFile, .ok (), after => world.entry ≠ none ∧ after = { world with entry := none }
  | .removeFile, .error kind, after => (kind = .notFound → world.entry = none) ∧ after = world
  | .processId, pid, after => pid = (processes party).pid ∧ after = world
  | .readStat pid, .ok stat, after => world.stats pid = some stat ∧ after = world
  | .readStat pid, .error kind, after =>
      (kind = .notFound → world.stats pid = none) ∧ after = world
  | _, _, after => after = world

/-- What an acquirer is asked to do. -/
inductive LockRequest where
  | acquire
  | drop (guard : FileSessionLockGuard)

abbrev LockReply := Except SysboostError (Option FileSessionLockGuard)

/-- Acquirers of one lock path.  An acquirer holds the guard that it was given
until it drops it or dies. -/
def lockService (lock : FileSessionLock) (processes : Party → Process) :
    Service LockAnswer Party LockRequest LockReply (LockWorld Party) where
  program
    | .acquire => lock.acquire.run >>= fun result => .ret (result.map some)
    | .drop guard => guard.drop >>= fun _ => .ret (.ok none)
  env := LockLaw processes
  issue party request world :=
    match request with
    | .acquire => world
    | .drop _ => world.hold party none
  reply party _ result world :=
    match result with
    | .ok (some guard) => world.hold party (some guard)
    | _ => world
  stop party world := world.die party (processes party).pid

/-! ## Without failures -/

/-- The answers without failures. -/
def lockAnswer (process : Process) (bootId : String) (party : Party) (world : LockWorld Party) :
    (call : LockCall) → LockAnswer call
  | .root call => process.answer world.disk call
  | .createNew _ => if world.entry.isNone then .ok () else .error .alreadyExists
  | .createdMetadata => found ((world.created party).bind world.stat)
  | .writeCreated _ => .ok ()
  | .syncCreated => .ok ()
  | .closeCreated => ()
  | .symlinkMetadata =>
      if world.entry.isNone then .error .notFound
      else match world.entry.bind world.stat with
        | some stat => .ok stat
        | none => .error .other
  | .openFile => if world.entry.isSome then .ok () else .error .notFound
  | .openedMetadata => found ((world.opened party).bind world.stat)
  | .readOpened limit =>
      found ((world.opened party).bind fun object => world.files[object]?.map fun file =>
        file.content.take limit)
  | .removeFile => if world.entry.isSome then .ok () else .error .notFound
  | .processId => process.pid
  | .readStat pid => found (world.stats pid)
  | .readBootId => .ok bootId

/-- The world after a call without a failure. -/
def lockAfter (process : Process) (party : Party) (world : LockWorld Party) :
    LockCall → LockWorld Party
  | .root call => { world with disk := process.after world.disk call }
  | .createNew mode =>
      if world.entry.isNone then
        world.create party (process.newFile mode).metadata ⟨1, UInt64.ofNat world.files.length⟩
      else world
  | .writeCreated content => world.fill (world.created party) content
  | .closeCreated => world.close party
  | .openFile => if world.entry.isSome then world.openEntry party else world
  | .removeFile => if world.entry.isSome then { world with entry := none } else world
  | _ => world

def lockRespond (process : Process) (bootId : String) (party : Party) (world : LockWorld Party)
    (call : LockCall) : LockAnswer call × LockWorld Party :=
  (lockAnswer process bootId party world call, lockAfter process party world call)

/-- Calls without failures obey the laws. -/
theorem lockRespond_law (processes : Party → Process) (bootId : String) (party : Party)
    (world : LockWorld Party) (call : LockCall) :
    LockLaw processes party world call (lockRespond (processes party) bootId party world call).1
      (lockRespond (processes party) bootId party world call).2 := by
  cases call with
  | root call => exact ⟨_, (processes party).law world.disk call, rfl⟩
  | createNew mode =>
      cases entry : world.entry with
      | none => simp [lockRespond, lockAnswer, lockAfter, LockLaw, entry]
      | some object => simp [lockRespond, lockAnswer, lockAfter, LockLaw, entry]
  | createdMetadata =>
      cases stat : (world.created party).bind world.stat <;>
        simp [lockRespond, lockAnswer, lockAfter, LockLaw, found, stat]
  | symlinkMetadata =>
      cases entry : world.entry with
      | none => simp [lockRespond, lockAnswer, lockAfter, LockLaw, entry]
      | some object =>
          cases stat : world.stat object <;>
            simp [lockRespond, lockAnswer, lockAfter, LockLaw, entry, stat]
  | openFile =>
      cases entry : world.entry <;> simp [lockRespond, lockAnswer, lockAfter, LockLaw, entry]
  | openedMetadata =>
      cases stat : (world.opened party).bind world.stat <;>
        simp [lockRespond, lockAnswer, lockAfter, LockLaw, found, stat]
  | readOpened limit =>
      cases bytes : (world.opened party).bind fun object => world.files[object]?.map fun file =>
          file.content.take limit <;>
        simp [lockRespond, lockAnswer, lockAfter, LockLaw, found, bytes]
  | removeFile =>
      cases entry : world.entry <;> simp [lockRespond, lockAnswer, lockAfter, LockLaw, entry]
  | readStat pid =>
      cases stat : world.stats pid <;>
        simp [lockRespond, lockAnswer, lockAfter, LockLaw, found, stat]
  | _ => simp [lockRespond, lockAnswer, lockAfter, LockLaw]

end Service

end Sysboost.State
