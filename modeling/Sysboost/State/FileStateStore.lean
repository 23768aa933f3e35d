import Sysboost.Core.Journal
import Sysboost.State.FileName
import Sysboost.Storage.Disk

/-!
# The file system store of session records

Every function is translated statement by statement.  A write goes to a new
temporary file, which is synchronised, checked and then renamed to the state
file; a reader accepts a directory only if it recognises every entry.
-/

namespace Sysboost.State

open Sysboost.Core ByteCodec Interaction Storage

/-- Required owner and mode policy for the private runtime-state directory. -/
structure RuntimeStatePolicy where
  ownerUid : UInt32
  ownerGid : UInt32
  /-- Exact permission bits for the state directory. -/
  directoryMode : UInt32
  /-- Exact permission bits for state and lock files. -/
  fileMode : UInt32

/-- Root-owned production policy for `/run/sysboost`. -/
def RuntimeStatePolicy.rootOwned : RuntimeStatePolicy :=
  ⟨0, 0, 0o700, 0o600⟩

/-- Filesystem-backed durable state store. -/
structure FileStateStore where
  /-- Whether the path of the state root has a parent. -/
  hasParent : Bool
  policy : RuntimeStatePolicy

/-- Code that returns an `io::Result`. -/
abbrev Io := ExceptT IoErrorKind (Prog Storage.Answer)

/-- Code that returns a `Result` with a domain error. -/
abbrev Stateful := ExceptT SysboostError (Prog Storage.Answer)

def ioError (code : ErrorCode) (error : IoErrorKind) : SysboostError :=
  .new code (match error with
    | .permissionDenied => "state I/O permission was denied"
    | .notFound => "state I/O target was not found"
    | .alreadyExists => "state I/O target already exists"
    | .other => "state I/O operation failed")

section Results

variable {α ε δ : Type}

/-- A call whose `io::Error` is returned. -/
def io (program : Prog Storage.Answer (Except IoErrorKind α)) : Io α :=
  ExceptT.mk program

/-- `Result::map_err`. -/
def mapErr (change : ε → δ) (program : ExceptT ε (Prog Storage.Answer) α) :
    ExceptT δ (Prog Storage.Answer) α :=
  ExceptT.mk (program.run >>= fun result => Prog.ret (result.mapError change))

/-- A step that makes no call; its error is returned. -/
def check (result : Except ε α) : ExceptT ε (Prog Storage.Answer) α :=
  ExceptT.mk (Prog.ret result)

/-- `map_err(|error| io_error(ErrorCode::DurabilityError, error))`. -/
def durably (program : Prog Storage.Answer (Except IoErrorKind α)) : Stateful α :=
  mapErr (ioError .durabilityError) (io program)

/-- `map_err(|_| io::Error::from(io::ErrorKind::PermissionDenied))`. -/
def permitted (program : Stateful α) : Io α :=
  mapErr (fun _ => .permissionDenied) program

end Results

/-! ## Validation -/

/-- The owner, mode and link checks of `validate_regular_metadata`. -/
def validateRegularMetadata (metadata : Metadata) (policy : RuntimeStatePolicy)
    (description : String) : Except SysboostError Unit :=
  if metadata.uid ≠ policy.ownerUid ∨ metadata.gid ≠ policy.ownerGid then
    .error (.new .authorizationError (description ++ " owner is not authorized"))
  else if metadata.mode &&& 0o7777 ≠ policy.fileMode then
    .error (.new .journalCorrupt (description ++ " permissions are not private"))
  else if metadata.nlink ≠ 1 then
    .error (.new .journalCorrupt (description ++ " has unexpected hard links"))
  else .ok ()

def validateDirectoryMetadata (metadata : Metadata) (policy : RuntimeStatePolicy)
    (description : String) : Except SysboostError Unit :=
  if metadata.fileType = .symlink ∨ metadata.fileType ≠ .directory then
    .error (.new .journalCorrupt (description ++ " is not a regular directory"))
  else if metadata.uid ≠ policy.ownerUid ∨ metadata.gid ≠ policy.ownerGid then
    .error (.new .authorizationError (description ++ " owner is not authorized"))
  else if metadata.mode &&& 0o7777 ≠ policy.directoryMode then
    .error (.new .journalCorrupt (description ++ " permissions are not private"))
  else .ok ()

/-- The type check in front of `validate_regular_metadata`. -/
def validateRegularFile (metadata : Metadata) (policy : RuntimeStatePolicy)
    (description : String) : Except SysboostError Unit :=
  if metadata.fileType ≠ .file then
    .error (.new .journalCorrupt (description ++ " is not a regular file"))
  else validateRegularMetadata metadata policy description

namespace FileStateStore

variable (store : FileStateStore)

/-- `validate_regular_path` of an entry. -/
def validateRegularPath (name : FileName) (description : String) : Stateful Unit := do
  let metadata ← durably (Prog.perform (Call.symlinkMetadata (.entry name)))
  check (validateRegularFile metadata store.policy description)

/-- `validate_open_file`. -/
def validateOpenFile (name : FileName) (description : String) : Stateful Unit := do
  let metadata ← durably (Prog.perform (Call.fileMetadata name))
  check (validateRegularFile metadata store.policy description)

def validateEntryMetadata (name : FileName) (fileType : FileType) (description : String) :
    Stateful Unit :=
  if fileType = .symlink ∨ fileType ≠ .file then
    throw (.new .journalCorrupt (description ++ " is not a regular file"))
  else store.validateRegularPath name description

/-- The branch of `ensure_runtime_root` for a root that is not found. -/
def createRuntimeRoot : Stateful Unit := do
  if !store.hasParent then
    throw (.new .durabilityError "runtime state root has no trusted parent")
  else
    let parent ← durably (Prog.perform (Call.symlinkMetadata .parent))
    if parent.fileType ≠ .directory then
      throw (.new .journalCorrupt "runtime state root parent is not a directory")
    else
      match ← ExceptT.lift (Prog.perform (Call.createDirectory store.policy.directoryMode)) with
      | .ok () => pure ()
      | .error .alreadyExists => pure ()
      | .error kind => throw (ioError .durabilityError kind)
      durably (Prog.perform Call.syncParent)
      let metadata ← durably (Prog.perform (Call.symlinkMetadata .root))
      check (validateDirectoryMetadata metadata store.policy "runtime state root")

/-- `ensure_runtime_root`. -/
def ensureRoot : Stateful Unit := do
  match ← ExceptT.lift (Prog.perform (Call.symlinkMetadata .root)) with
  | .ok metadata => check (validateDirectoryMetadata metadata store.policy "runtime state root")
  | .error .notFound => store.createRuntimeRoot
  | .error kind => throw (ioError .durabilityError kind)

def validateTargetForWrite (replace : Bool) (sessionId : SessionId) : Stateful Unit := do
  match ← ExceptT.lift (Prog.perform (Call.symlinkMetadata (.entry (stateName sessionId)))) with
  | .ok metadata =>
      if !replace then
        throw ((SysboostError.new .invariantViolation
          "session ID is already present in the durable state root").withSession sessionId)
      else
        mapErr (·.withSession sessionId)
          (store.validateRegularPath (stateName sessionId) "session state replacement target")
  | .error kind =>
      if kind = .notFound then
        if replace then
          throw ((SysboostError.new .durabilityError
            "session state replacement target is missing").withSession sessionId)
        else pure ()
      else throw ((ioError .durabilityError kind).withSession sessionId)

def syncDirectory : Io Unit := do
  io (Prog.perform Call.openDirectory)
  let metadata ← mapErr (fun _ => IoErrorKind.other) (io (Prog.perform Call.directoryMetadata))
  mapErr (fun _ => .permissionDenied)
    (check (validateDirectoryMetadata metadata store.policy "runtime state root"))
  io (Prog.perform Call.syncDirectory)

/-! ## Writing -/

/-- The path of a new temporary file. -/
def temporaryPath (sessionId : SessionId) : Prog Storage.Answer FileName := do
  let pid ← Prog.perform Call.processId
  let tick ← Prog.perform Call.sinceEpoch
  return temporaryName sessionId pid (tick.getD 0)

/-- The steps of `write_atomic` while `temporary_created` is set. -/
def fillTemporary (sessionId : SessionId) (temporary : FileName) (bytes : Bytes)
    (replace : Bool) : Io Unit := do
  permitted (store.validateOpenFile temporary "temporary state file")
  io (Prog.perform (Call.writeAll temporary bytes))
  io (Prog.perform (Call.syncAll temporary))
  permitted store.ensureRoot
  permitted (store.validateTargetForWrite replace sessionId)
  io (Prog.perform (Call.rename temporary (stateName sessionId)))

/-- The steps of `write_atomic` after the rename. -/
def settleTarget (sessionId : SessionId) : Io Unit := do
  permitted (store.validateRegularPath (stateName sessionId) "session state file")
  store.syncDirectory

/-- `write_result`, and the removal of a temporary file that is left. -/
def writeResult (sessionId : SessionId) (temporary : FileName) (bytes : Bytes)
    (replace : Bool) : Io Unit := do
  io (Prog.perform (Call.createNew temporary store.policy.fileMode))
  match ← ExceptT.lift (store.fillTemporary sessionId temporary bytes replace).run with
  | .ok () => store.settleTarget sessionId
  | .error kind =>
      let _ ← ExceptT.lift (Prog.perform (Call.removeFile temporary))
      throw kind

def writeAtomic (record : SessionRecord) (replace : Bool) : Stateful Unit := do
  store.ensureRoot
  let sessionId := record.sessionId
  store.validateTargetForWrite replace sessionId
  let bytes ← check record.encode
  let temporary ← ExceptT.lift (temporaryPath sessionId)
  mapErr (fun kind => (ioError .durabilityError kind).withSession sessionId)
    (store.writeResult sessionId temporary bytes replace)

def create (record : SessionRecord) : Stateful Unit :=
  store.writeAtomic record false

def replace (record : SessionRecord) : Stateful Unit :=
  store.writeAtomic record true

/-- The check in `remove` of a file that exists. -/
def validateRemoval (sessionId : SessionId) : Stateful Unit := do
  match ← ExceptT.lift (Prog.perform (Call.symlinkMetadata (.entry (stateName sessionId)))) with
  | .ok _ => store.validateRegularPath (stateName sessionId) "session state file"
  | .error _ => pure ()

def remove (sessionId : SessionId) : Stateful Unit := do
  store.ensureRoot
  store.validateRemoval sessionId
  match ← ExceptT.lift (Prog.perform (Call.removeFile (stateName sessionId))) with
  | .ok () => mapErr (ioError .durabilityError) store.syncDirectory
  | .error kind =>
      if kind = .notFound then pure ()
      else throw ((ioError .durabilityError kind).withSession sessionId)

/-! ## Reading -/

def readVerifiedFile (name : FileName) (maximum : Nat) : Stateful Bytes := do
  durably (Prog.perform (Call.openFile name))
  store.validateOpenFile name "runtime state file"
  let bytes ← durably (Prog.perform (Call.readToEnd name (maximum + 1)))
  if bytes.length > maximum then
    throw (.new .journalCorrupt "runtime state file exceeds its decoder bound")
  else return bytes

/-- `load_path` with an expected session ID; both callers give one. -/
def loadPath (name : FileName) (expected : SessionId) : Stateful SessionRecord := do
  let bytes ← store.readVerifiedFile name maxSessionRecordBytes
  let record ← check (SessionRecord.decode bytes)
  if record.sessionId ≠ expected then
    throw (.new .journalCorrupt "session state identity does not match its requested ID")
  else return record

def load (sessionId : SessionId) : Stateful SessionRecord := do
  store.ensureRoot
  store.loadPath (stateName sessionId) sessionId

/-- The part of the loop body of `load_unfinished` that depends on the name:
the record of a state file, and nothing for a file that is skipped. -/
def readEntry (name : FileName) (fileType : FileType) : Stateful (Option SessionRecord) := do
  if !isUtf8 name then
    throw (.new .journalCorrupt "runtime state contains a non-text object name")
  else if name = lockName then
    store.validateEntryMetadata name fileType "lock file"
    return none
  else if name.head? = some 46 ∧ temporaryMark <:+: name then
    if !isValidTemporaryName name then
      throw (.new .journalCorrupt "temporary runtime state filename is malformed")
    else
      store.validateEntryMetadata name fileType "temporary state file"
      return none
  else if ¬ stateSuffix <:+ name then
    throw (.new .journalCorrupt "runtime state contains an unexpected filesystem object")
  else if fileType ≠ .file then
    throw (.new .journalCorrupt "session state entry is not a regular file")
  else
    let sessionId ← mapErr
      (fun _ => SysboostError.new .journalCorrupt
        "session state filename is not a valid session ID")
      (check (SessionId.fromStr (trimEndMatches stateSuffix name)))
    let record ← store.loadPath name sessionId
    return some record

/-- The loop body of `load_unfinished`. -/
def scanEntry (records : List SessionRecord) (entry : Except IoErrorKind FileName) :
    Stateful (List SessionRecord) := do
  let name ← mapErr (ioError .durabilityError) (check entry)
  let fileType ← durably (Prog.perform (Call.entryType name))
  match ← store.readEntry name fileType with
  | some record =>
      if record.session.state = .restored then return records else return records ++ [record]
  | none => return records

def loadUnfinished : Stateful (List SessionRecord) := do
  store.ensureRoot
  let entries ← durably (Prog.perform Call.readDirectory)
  let records ← entries.foldlM store.scanEntry []
  return records.mergeSort fun first second => first.sessionId.le second.sessionId

end FileStateStore

end Sysboost.State
