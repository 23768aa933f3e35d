import Sysboost.Interaction.Early
import Sysboost.State.FileStateStore
import Sysboost.State.LockOwner

/-!
# The file system lock

An acquirer creates the lock file exclusively and writes its own identity into
it.  If the file exists already, the owner in it is looked up, and the file of a
dead owner is removed by name after another look at its identity.  Unlike the
store, the lock is made for several processes at once, so its calls tell an open
file from the path.
-/

namespace Sysboost.State

open Sysboost.Core Sysboost.Platform ByteCodec Interaction Storage

/-- The device and the inode of a file. -/
structure FileIdentity where
  device : UInt64
  inode : UInt64
deriving DecidableEq

/-- What `stat` says of a lock file. -/
structure LockStat where
  metadata : Metadata
  identity : FileIdentity

/-- One call of an acquirer. -/
inductive LockCall where
  /-- A call about the state root itself. -/
  | root (call : Storage.Call)
  /-- Open the lock path for writing; it must not exist. -/
  | createNew (mode : UInt32)
  | createdMetadata
  | writeCreated (content : Bytes)
  | syncCreated
  | closeCreated
  | symlinkMetadata
  /-- Open the lock path for reading, unless it is a symbolic link. -/
  | openFile
  | openedMetadata
  | readOpened (limit : Nat)
  | removeFile
  | processId
  /-- Read `/proc/<pid>/stat`. -/
  | readStat (pid : UInt32)
  | readBootId

abbrev LockAnswer : LockCall → Type
  | .root call => Storage.Answer call
  | .createNew _ => Except IoErrorKind Unit
  | .createdMetadata => Except IoErrorKind LockStat
  | .writeCreated _ => Except IoErrorKind Unit
  | .syncCreated => Except IoErrorKind Unit
  | .closeCreated => Unit
  | .symlinkMetadata => Except IoErrorKind LockStat
  | .openFile => Except IoErrorKind Unit
  | .openedMetadata => Except IoErrorKind LockStat
  | .readOpened _ => Except IoErrorKind Bytes
  | .removeFile => Except IoErrorKind Unit
  | .processId => UInt32
  | .readStat _ => Except IoErrorKind String
  | .readBootId => Except IoErrorKind String

/-- Code of the lock that returns a `Result` with a domain error. -/
abbrev Locking := Early LockAnswer SysboostError

/-- Code about the state root. -/
def onRoot {ε α : Type} (program : ExceptT ε (Prog Storage.Answer) α) : Early LockAnswer ε α :=
  ExceptT.mk (program.run.embed LockCall.root fun _ answer => answer)

/-- `map_err(|error| io_error(ErrorCode::DurabilityError, error))`. -/
def lockDurably {α : Type} (program : Prog LockAnswer (Except IoErrorKind α)) : Locking α :=
  Early.attempt (ioError .durabilityError) program

/-! ## Processes -/

def readBootId : Locking (Block 16) := do
  let value ← Early.attempt
    (fun _ => .new .durabilityError "boot identity could not be inspected")
    (Prog.perform LockCall.readBootId)
  Early.check (parseBootId value)

/-- `probe_process`: nothing is returned for a process that is gone. -/
def probeProcess (pid : UInt32) : Locking (Option ProcessIdentity) := do
  match ← ExceptT.lift (Prog.perform (LockCall.readStat pid)) with
  | .error .notFound => return none
  | .error _ => throw (.new .durabilityError "process identity could not be inspected")
  | .ok stat =>
      match startTimeOf stat with
      | none => throw (.new .journalCorrupt "process identity metadata is malformed")
      | some generation =>
          let bootId ← readBootId
          return some (← Early.check (ProcessIdentity.withBootId pid generation bootId))

/-- `current_process_identity`. -/
def currentProcess : Locking ProcessIdentity := do
  let pid ← ExceptT.lift (Prog.perform LockCall.processId)
  match ← probeProcess pid with
  | some identity => return identity
  | none => throw (.new .durabilityError "current process identity disappeared")

/-! ## The lock file -/

/-- File lock provider. -/
structure FileSessionLock where
  /-- Whether the path of the state root has a parent. -/
  hasParent : Bool
  policy : RuntimeStatePolicy

/-- What an acquirer holds: the identity of its open file. -/
structure FileSessionLockGuard where
  identity : FileIdentity
deriving DecidableEq

/-- `remove_file_if_identity`. -/
def removeFileIfIdentity (expected : FileIdentity) : Early LockAnswer IoErrorKind Bool := do
  match ← ExceptT.lift (Prog.perform LockCall.symlinkMetadata) with
  | .error .notFound => return false
  | .error kind => throw kind
  | .ok stat =>
      if stat.metadata.fileType ≠ .file ∨ stat.identity ≠ expected then return false
      else do
        Early.attempt id (Prog.perform LockCall.removeFile)
        return true

/-- `is_stale` in `reclaim_stale_lock`: the owner is not the process that has its PID now. -/
def isStale (owner : ProcessIdentity) : Option ProcessIdentity → Bool
  | some current => !current.sameGeneration owner
  | none => true

namespace FileSessionLock

variable (lock : FileSessionLock)

/-- The state root as the store sees it. -/
def store : FileStateStore :=
  ⟨lock.hasParent, lock.policy⟩

/-- `validate_regular_path` or `validate_open_file` of the lock file. -/
def validated (stat : LockStat) (description : String) : Except SysboostError FileIdentity :=
  (validateRegularFile stat.metadata lock.policy description).map fun _ => stat.identity

/-- `read_verified_file` of the lock file. -/
def readVerifiedFile (maximum : Nat) : Locking Bytes := do
  lockDurably (Prog.perform LockCall.openFile)
  let stat ← lockDurably (Prog.perform LockCall.openedMetadata)
  let _ ← Early.check (lock.validated stat "runtime state file")
  let bytes ← lockDurably (Prog.perform (LockCall.readOpened (maximum + 1)))
  Early.refuseIf (bytes.length > maximum)
    (.new .journalCorrupt "runtime state file exceeds its decoder bound")
  return bytes

/-- Open the parent of the lock file and synchronise it; errors are ignored. -/
def syncParent : Prog LockAnswer Unit := do
  match ← Prog.perform (LockCall.root .openDirectory) with
  | .ok () => let _ ← Prog.perform (LockCall.root .syncDirectory)
  | .error _ => return ()

/-- `reclaim_stale_lock`. -/
def reclaimStaleLock : Locking Bool := do
  let stat ← lockDurably (Prog.perform LockCall.symlinkMetadata)
  let identity ← Early.check (lock.validated stat "lock file")
  let contents ← lock.readVerifiedFile 256
  let owner ← Early.check (parseLockOwner contents)
  let current ← probeProcess owner.pid
  if !isStale owner current then return false
  else do
    let removed ← Early.attempt (ioError .durabilityError) (removeFileIfIdentity identity).run
    if !removed then return false
    else do
      ExceptT.lift syncParent
      return true

/-! ## Acquiring -/

/-- Why an attempt failed, and the identity of the file it has created. -/
abbrev Failure := IoErrorKind × Option FileIdentity

/-- The steps of an attempt after the file has been created. -/
def fillCreated (owner : ProcessIdentity) : Early LockAnswer Failure FileIdentity := do
  let stat ← Early.attempt (fun _ => (.permissionDenied, none))
    (Prog.perform LockCall.createdMetadata)
  let identity ← Early.check
    ((lock.validated stat "lock file").mapError fun _ => (.permissionDenied, none))
  Early.attempt (fun kind => (kind, some identity))
    (Prog.perform (LockCall.writeCreated (encodeLockOwner owner)))
  Early.attempt (fun kind => (kind, some identity)) (Prog.perform LockCall.syncCreated)
  Early.attempt (fun kind => (kind, some identity)) (onRoot lock.store.syncDirectory).run
  return identity

/-- The body of the loop; a file that could not be completed is closed. -/
def tryCreate (owner : ProcessIdentity) : Early LockAnswer Failure FileIdentity := do
  Early.attempt (fun kind => (kind, none)) (Prog.perform (LockCall.createNew lock.policy.fileMode))
  Early.inspect (lock.fillCreated owner) fun
    | .ok identity => return identity
    | .error failure => do
        ExceptT.lift (Prog.perform LockCall.closeCreated)
        throw failure

def contended : SysboostError :=
  (SysboostError.new .authorizationError
    "another mutating session owns the exclusive lock").retryable .retry

/-- Remove the file that an attempt has created; errors are ignored. -/
def discardCreated : Option FileIdentity → Prog LockAnswer Unit
  | none => return ()
  | some identity => do
      let _ ← (removeFileIfIdentity identity).run
      return ()

def attempts (owner : ProcessIdentity) : Nat → Locking FileSessionLockGuard
  | 0 => throw contended
  | left + 1 => Early.inspect (lock.tryCreate owner) fun
      | .ok identity => return ⟨identity⟩
      | .error (.alreadyExists, _) => do
          if ← lock.reclaimStaleLock then attempts owner left else throw contended
      | .error (kind, created) => do
          ExceptT.lift (discardCreated created)
          throw (ioError .durabilityError kind)

def acquire : Locking FileSessionLockGuard := do
  onRoot lock.store.ensureRoot
  let owner ← currentProcess
  lock.attempts owner 2

end FileSessionLock

/-- The steps of `drop` after the file is closed. -/
def FileSessionLockGuard.unlink (guard : FileSessionLockGuard) : Prog LockAnswer Unit := do
  match ← Prog.perform LockCall.symlinkMetadata with
  | .error _ => return ()
  | .ok stat =>
      if stat.metadata.fileType = .file ∧ stat.identity = guard.identity then
        let _ ← Prog.perform LockCall.removeFile
      else return ()

/-- `FileSessionLockGuard::drop`. -/
def FileSessionLockGuard.drop (guard : FileSessionLockGuard) : Prog LockAnswer Unit := do
  Prog.perform LockCall.closeCreated
  guard.unlink

end Sysboost.State
