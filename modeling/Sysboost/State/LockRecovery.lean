import Sysboost.State.LockExclusion

/-!
# A lock file that is left behind

Whatever has interrupted its writers, a lock file has the beginning of what one
of them writes.  A later acquirer reclaims the file of a dead owner exactly when
its metadata is accepted and no more than the final newline is missing; any
other file that is left is never removed.
-/

namespace Sysboost.State

open Sysboost.Core Sysboost.Platform ByteCodec Interaction Storage

variable {Party : Type} [DecidableEq Party] {lock : FileSessionLock}

/-! ## What the acquirers leave -/

/-- The beginning of what an acquirer writes. -/
def Begun (content : Bytes) : Prop :=
  ∃ owner : ProcessIdentity, owner.Strong ∧ content <+: encodeLockOwner owner

/-- Every lock file has been begun, and the path names one of them or none. -/
structure Left (world : LockWorld Party) : Prop where
  linked : ∀ object, world.entry = some object → object < world.files.length
  begun : ∀ file ∈ world.files, Begun file.content

theorem begun_nil : Begun [] :=
  ⟨⟨1, 1, .fill 16 1⟩, ⟨by decide, by decide, by decide⟩, List.nil_prefix⟩

theorem Begun.length_le {content : Bytes} (begun : Begun content) : content.length ≤ 256 := by
  obtain ⟨owner, -, begins⟩ := begun
  exact begins.length_le.trans (encodeLockOwner_length owner)

omit [DecidableEq Party] in
theorem Left.fill {world : LockWorld Party} (left : Left world) {object : Option Nat}
    {content : Bytes} (begun : Begun content) : Left (world.fill object content) := by
  cases object with
  | none => exact left
  | some object =>
      constructor
      · intro named entry
        simpa [LockWorld.fill] using left.linked named entry
      · intro file member
        obtain ⟨index, inside, rfl⟩ := List.getElem_of_mem member
        simp only [LockWorld.fill, List.getElem_modify]
        split
        · exact begun
        · exact left.begun _ (List.getElem_mem _)

theorem Left.create {world : LockWorld Party} (left : Left world) (party : Party)
    (metadata : Metadata) (identity : FileIdentity) :
    Left (world.create party metadata identity) := by
  constructor
  · rintro _ ⟨⟩
    simp [LockWorld.create]
  · intro file member
    rcases List.mem_append.mp member with old | new
    · exact left.begun file old
    · rw [List.mem_singleton.mp new]
      exact begun_nil

/-- No proper call breaks off otherwise. -/
theorem LockLaw.left {processes : Party → Process} {party : Party} {world after : LockWorld Party}
    {call : LockCall} {answer : LockAnswer call} (proper : call.Proper) (left : Left world)
    (law : LockLaw processes party world call answer after) : Left after := by
  have still (same : after = world) : Left after := same ▸ left
  cases call with
  | root call =>
      obtain ⟨disk, -, rfl⟩ := law
      exact ⟨left.linked, left.begun⟩
  | createNew mode =>
      cases answer with
      | ok _ =>
          obtain ⟨-, identity, rfl⟩ := law
          exact left.create ..
      | error kind => exact still law.2
  | createdMetadata =>
      cases answer with
      | ok stat => exact still law.2
      | error kind => exact still law
  | writeCreated content =>
      obtain ⟨owner, strong, rfl⟩ := proper
      cases answer with
      | ok _ =>
          obtain rfl : after = world.fill (world.created party) (encodeLockOwner owner) := law
          exact left.fill ⟨owner, strong, List.prefix_rfl⟩
      | error kind =>
          obtain ⟨part, begins, rfl⟩ := law
          exact left.fill ⟨owner, strong, begins⟩
  | syncCreated => exact still law
  | closeCreated =>
      obtain rfl : after = world.close party := law
      exact ⟨left.linked, left.begun⟩
  | symlinkMetadata =>
      cases answer with
      | ok stat => exact still law.2
      | error kind => exact still law.2
  | openFile =>
      cases answer with
      | ok _ =>
          obtain ⟨-, rfl⟩ := law
          exact ⟨left.linked, left.begun⟩
      | error kind => exact still law
  | openedMetadata =>
      cases answer with
      | ok stat => exact still law.2
      | error kind => exact still law
  | readOpened limit =>
      cases answer with
      | ok bytes => exact still law.2
      | error kind => exact still law
  | removeFile =>
      cases answer with
      | ok _ =>
          obtain ⟨-, rfl⟩ := law
          exact ⟨nofun, left.begun⟩
      | error kind => exact still law.2
  | processId => exact still law.2
  | readStat pid =>
      cases answer with
      | ok stat => exact still law.2
      | error kind => exact still law.2
  | readBootId => exact still law

theorem proper_safe {processes : Party → Process} {party : Party} {α : Type}
    {program : Prog LockAnswer α} (within : Within LockCall.Proper (fun _ => True) program)
    (world : LockWorld Party) :
    Safe (LockLaw processes party) (fun _ _ => True) (fun _ call => call.Proper)
      (fun _ _ => True) program world := by
  have safe : Safe (LockLaw processes party) (fun _ _ => True) (fun _ call => call.Proper)
      (fun _ _ => True ∧ True) program world :=
    within.safe (fun _ _ => trivial) (fun _ proper => ⟨proper, fun _ _ _ => trivial⟩) trivial
  exact safe.mono fun _ _ _ => trivial

theorem program_within {processes : Party → Process} (request : LockRequest) :
    Within LockCall.Proper (fun _ => True) ((lockService lock processes).program request) := by
  cases request with
  | acquire =>
      refine Within.seq lock.acquire_makes.calls fun _ _ => ?_
      trivial
  | drop guard =>
      refine Within.seq (drop_within guard) fun _ _ => ?_
      trivial

/-- Nobody relies on anything of the others. -/
def leftContract (lock : FileSessionLock) (processes : Party → Process) :
    Service.Contract (lockService lock processes) where
  invariant := Left
  idle _ _ := True
  rely _ _ _ := True
  guard _ _ call := call.Proper

/-- There is no lock file yet. -/
structure Unlocked (world : LockWorld Party) : Prop where
  files : world.files = []
  entry : world.entry = none

theorem leftContract_sound {processes : Party → Process} {initial : LockWorld Party}
    (unlocked : Unlocked initial) : (leftContract lock processes).Sound initial where
  rely_trans _ _ _ _ _ _ := trivial
  rely_refl _ _ := trivial
  idle_stable _ _ := trivial
  start := by
    refine ⟨⟨?_, ?_⟩, fun _ => trivial⟩
    · simp [unlocked.entry]
    · simp [unlocked.files]
  issue party request world left _ := by
    refine ⟨?_, proper_safe (program_within request) _⟩
    cases request with
    | acquire => exact left
    | drop guard => exact ⟨left.linked, left.begun⟩
  issue_rely _ _ _ := trivial
  law left proper law := ⟨law.left proper left, fun _ _ => trivial⟩
  reply {party request result world} left _ := by
    refine ⟨?_, fun _ _ => trivial⟩
    rcases result with error | _ | guard
    · exact left
    · exact left
    · exact ⟨left.linked, left.begun⟩
  stop party world left := ⟨⟨left.linked, left.begun⟩, trivial, fun _ _ => trivial⟩

/-! ## A later acquirer -/

/-- The type, the owner and the mode of a file are accepted. -/
structure Accepted (policy : RuntimeStatePolicy) (metadata : Metadata) : Prop where
  fileType : metadata.fileType = .file
  uid : metadata.uid = policy.ownerUid
  gid : metadata.gid = policy.ownerGid
  mode : metadata.mode &&& 0o7777 = policy.fileMode

/-- The state root is there and it is trusted. -/
def RootTrusted (lock : FileSessionLock) (root : Option Metadata) : Prop :=
  ∃ metadata, root = some metadata ∧
    validateDirectoryMetadata metadata lock.policy "runtime state root" = .ok ()

theorem validateRegularFile_linked {metadata : Metadata} {policy : RuntimeStatePolicy}
    {description : String} (linked : metadata.nlink = 1) :
    validateRegularFile metadata policy description = .ok () ↔ Accepted policy metadata := by
  unfold validateRegularFile validateRegularMetadata
  constructor
  · intro ok
    split at ok
    · cases ok
    · split at ok
      · cases ok
      · split at ok
        · cases ok
        · rename_i file owner mode
          obtain ⟨uid, gid⟩ := not_or.mp owner
          exact ⟨not_not.mp file, not_not.mp uid, not_not.mp gid, not_not.mp mode⟩
  · intro accepted
    simp [accepted.fileType, accepted.uid, accepted.gid, accepted.mode, linked]

namespace FileSessionLock

variable {stat : LockStat} {description : String}

theorem validated_accepted (linked : stat.metadata.nlink = 1)
    (accepted : Accepted lock.policy stat.metadata) :
    lock.validated stat description = .ok stat.identity := by
  rw [validated, (validateRegularFile_linked linked).mpr accepted]
  rfl

theorem validated_refused (linked : stat.metadata.nlink = 1)
    (refused : ¬Accepted lock.policy stat.metadata) :
    ∃ error, lock.validated stat description = .error error := by
  cases checked : validateRegularFile stat.metadata lock.policy description with
  | ok _ => exact absurd ((validateRegularFile_linked linked).mp checked) refused
  | error error => exact ⟨error, by rw [validated, checked]; rfl⟩

end FileSessionLock

/-! ### Without failures -/

section Healthy

variable {process : Process} {bootText : String} {party : Party} {world : LockWorld Party}

theorem onRoot_exec {ε α : Type} (program : ExceptT ε (Prog Storage.Answer) α) :
    (onRoot program).run.exec (lockRespond process bootText party) world =
      ((program.run.exec process.respond world.disk).1,
        { world with disk := (program.run.exec process.respond world.disk).2 }) := by
  let widen : Disk → LockWorld Party := fun disk => { world with disk }
  exact @Prog.exec_embed Storage.Call Storage.Answer _ _ process.respond LockCall LockAnswer _
    (lockRespond process bootText party) LockCall.root (fun _ answer => answer) widen
    (fun _ _ => ⟨rfl, rfl⟩) program.run world.disk

/-- The root is created or found. -/
theorem ensureRoot_exec {disk : Disk}
    (root : RootTrusted lock disk.root ∨ disk.root = none ∧ lock.hasParent = true ∧
      RootTrusted lock (some (process.newDirectory lock.policy.directoryMode))) :
    ∃ after, lock.store.ensureRoot.run.exec process.respond disk = (.ok (), after) ∧
      RootTrusted lock after.root := by
  rcases root with ⟨metadata, root, trusted⟩ | ⟨missing, parent, made⟩
  · refine ⟨disk, ?_, metadata, root, trusted⟩
    have answer : (Prog.perform (Call.symlinkMetadata .root)).exec process.respond disk =
        (.ok metadata, disk) := by
      simp [Prog.perform, Process.respond, Process.answer, Process.after, found, root]
    refine (Prog.exec_run_seq (Prog.exec_lift answer)).trans ?_
    change (validateDirectoryMetadata metadata lock.policy _, disk) = _
    rw [trusted]
  · obtain ⟨hasParent, policy⟩ := lock
    obtain ⟨root, live, older⟩ := disk
    obtain rfl : root = none := missing
    obtain rfl : hasParent = true := parent
    obtain ⟨_, ⟨⟩, trusted⟩ := made
    let after : Disk := ⟨some (process.newDirectory policy.directoryMode), live, older⟩
    have run : (FileStateStore.ensureRoot ⟨true, policy⟩).run.exec process.respond
        ⟨none, live, older⟩ = (validateDirectoryMetadata (process.newDirectory policy.directoryMode)
          policy "runtime state root", after) := rfl
    exact ⟨after, run.trans (by rw [trusted]), _, rfl, trusted⟩

theorem syncDirectory_exec {disk : Disk} (root : RootTrusted lock disk.root) :
    lock.store.syncDirectory.run.exec process.respond disk = (.ok (), disk.syncEntries) := by
  obtain ⟨metadata, found, trusted⟩ := root
  obtain ⟨_, live, older⟩ := disk
  obtain rfl := found
  have checked (disk : Disk) : (mapErr (fun _ => IoErrorKind.permissionDenied)
      (check (validateDirectoryMetadata metadata lock.policy "runtime state root"))).run.exec
        process.respond disk = (.ok (), disk) := by
    rw [trusted]
    rfl
  refine (Prog.exec_run_seq rfl).trans ?_
  refine (Prog.exec_run_seq rfl).trans ?_
  exact Prog.exec_run_seq (checked _)

/-! ### Processes -/

/-- What stands at a PID: nothing, or a process of this boot. -/
def processAt (bootId : Block 16) (stats : UInt32 → Option String) (pid : UInt32) :
    Option (Option ProcessIdentity) :=
  match stats pid with
  | none => some none
  | some stat => (startTimeOf stat).map fun generation => some ⟨pid, generation, bootId⟩

theorem probeProcess_exec {bootId : Block 16} (boot : parseBootId bootText = .ok bootId)
    {pid : UInt32} (positive : pid ≠ 0) {current : Option ProcessIdentity}
    (stands : processAt bootId world.stats pid = some current) :
    (probeProcess pid).run.exec (lockRespond process bootText party) world =
      (.ok current, world) := by
  unfold processAt at stands
  split at stands
  · rename_i gone
    obtain rfl := Option.some.inj stands
    have answer : (Prog.perform (LockCall.readStat pid)).exec (lockRespond process bootText party)
        world = (.error .notFound, world) := by
      simp [Prog.perform, lockRespond, lockAnswer, lockAfter, found, gone]
    exact Prog.exec_run_seq (Prog.exec_lift answer)
  · rename_i stat lives
    obtain ⟨generation, started, rfl⟩ := Option.map_eq_some_iff.mp stands
    have answer : (Prog.perform (LockCall.readStat pid)).exec (lockRespond process bootText party)
        world = (.ok stat, world) := by
      simp [Prog.perform, lockRespond, lockAnswer, lockAfter, found, lives]
    have booted : readBootId.run.exec (lockRespond process bootText party) world =
        (.ok bootId, world) := by
      refine (Prog.exec_run_seq rfl).trans ?_
      change (parseBootId bootText, world) = _
      rw [boot]
    have made : ProcessIdentity.withBootId pid generation bootId = .ok ⟨pid, generation, bootId⟩ :=
      ProcessIdentity.withBootId_eq_ok_iff.mpr
        ⟨rfl, positive, startTimeOf_ne_zero started, parseBootId_ne_zero boot⟩
    refine (Prog.exec_run_seq (Prog.exec_lift answer)).trans ?_
    simp only [started]
    refine (Prog.exec_run_seq booted).trans ?_
    rw [made]
    rfl

/-! ### The lock file -/

/-- What `stat` says of a file at the path. -/
def LockFile.linked (file : LockFile) : LockStat :=
  ⟨{ file.metadata with nlink := 1 }, file.identity⟩

omit [DecidableEq Party] in
theorem LockFile.accepted_linked {file : LockFile} :
    Accepted lock.policy file.linked.metadata ↔ Accepted lock.policy file.metadata :=
  ⟨fun accepted => ⟨accepted.fileType, accepted.uid, accepted.gid, accepted.mode⟩,
    fun accepted => ⟨accepted.fileType, accepted.uid, accepted.gid, accepted.mode⟩⟩

/-- The path names this file. -/
structure AtPath (world : LockWorld Party) (object : Nat) (file : LockFile) : Prop where
  entry : world.entry = some object
  file : world.files[object]? = some file

omit [DecidableEq Party] in
theorem AtPath.stat {object : Nat} {file : LockFile} (atPath : AtPath world object file) :
    world.stat object = some file.linked := by
  simp [LockWorld.stat, atPath.file, atPath.entry, LockFile.linked]

theorem AtPath.symlinkMetadata {object : Nat} {file : LockFile} (atPath : AtPath world object file) :
    (Prog.perform LockCall.symlinkMetadata).exec (lockRespond process bootText party) world =
      (.ok file.linked, world) := by
  simp [Prog.perform, lockRespond, lockAnswer, lockAfter, atPath.entry, atPath.stat]

/-- At a free path an attempt succeeds. -/
theorem tryCreate_exec {owner : ProcessIdentity} (root : RootTrusted lock world.disk.root)
    (fits : Accepted lock.policy (process.newFile lock.policy.fileMode).metadata)
    (free : world.entry = none) :
    ∃ identity after, (lock.tryCreate owner).run.exec (lockRespond process bootText party) world =
      (.ok identity, after) := by
  let file : LockFile := ⟨(process.newFile lock.policy.fileMode).metadata,
    ⟨1, UInt64.ofNat world.files.length⟩, []⟩
  let opened := world.create party file.metadata file.identity
  have atPath : AtPath opened world.files.length file := by
    constructor
    · rfl
    · simp [opened, LockWorld.create, file]
  have created : (Prog.perform (LockCall.createNew lock.policy.fileMode)).exec
      (lockRespond process bootText party) world = (.ok (), opened) := by
    simp [Prog.perform, lockRespond, lockAnswer, lockAfter, free, opened, file]
  have mine : opened.created party = some world.files.length := by
    simp [opened, LockWorld.create]
  have metadata : (Prog.perform LockCall.createdMetadata).exec
      (lockRespond process bootText party) opened = (.ok file.linked, opened) := by
    simp [Prog.perform, lockRespond, lockAnswer, lockAfter, mine, atPath.stat, found]
  let written := opened.fill (opened.created party) (encodeLockOwner owner)
  have sameRoot : written.disk = world.disk := by
    simp only [written, mine]
    rfl
  have filled : (lock.fillCreated owner).run.exec (lockRespond process bootText party) opened =
      (.ok file.identity, { written with disk := written.disk.syncEntries }) := by
    refine (Prog.exec_run_seq (Early.exec_attempt_ok metadata)).trans ?_
    have checked : lock.validated file.linked "lock file" = .ok file.identity :=
      lock.validated_accepted rfl (LockFile.accepted_linked.mpr fits)
    rw [checked]
    refine (Prog.exec_run_seq rfl).trans ?_
    refine (Prog.exec_run_seq rfl).trans ?_
    refine (Prog.exec_run_seq rfl).trans ?_
    have synced : (onRoot lock.store.syncDirectory).run.exec (lockRespond process bootText party)
        written = (.ok (), { written with disk := written.disk.syncEntries }) := by
      rw [onRoot_exec, syncDirectory_exec (sameRoot ▸ root)]
    exact Prog.exec_run_seq (Early.exec_attempt_ok synced)
  refine ⟨file.identity, { written with disk := written.disk.syncEntries }, ?_⟩
  refine (Prog.exec_run_seq (Early.exec_attempt_ok created)).trans ?_
  change Prog.exec _ ((lock.fillCreated owner).run >>= _) _ = _
  rw [Prog.exec_bind, filled]
  rfl

/-! ### Reclaiming -/

/-- The owner is gone: its PID is free or that of another process. -/
def Dead (bootId : Block 16) (stats : UInt32 → Option String) (owner : ProcessIdentity) : Prop :=
  ∃ current, processAt bootId stats owner.pid = some current ∧ isStale owner current = true

section Reclaim

variable {object : Nat} {file : LockFile}

/-- A lock file that is begun is read in full. -/
theorem readVerifiedFile_exec (atPath : AtPath world object file) (begun : Begun file.content)
    (accepted : Accepted lock.policy file.metadata) :
    (lock.readVerifiedFile 256).run.exec (lockRespond process bootText party) world =
      (.ok file.content, world.openEntry party) := by
  have readable : AtPath (world.openEntry party) object file := ⟨atPath.entry, atPath.file⟩
  have openFile : (Prog.perform LockCall.openFile).exec (lockRespond process bootText party) world =
      (.ok (), world.openEntry party) := by
    simp [Prog.perform, lockRespond, lockAnswer, lockAfter, atPath.entry]
  have mine : (world.openEntry party).opened party = some object := by
    simp [LockWorld.openEntry, atPath.entry]
  have metadata : (Prog.perform LockCall.openedMetadata).exec (lockRespond process bootText party)
      (world.openEntry party) = (.ok file.linked, world.openEntry party) := by
    simp [Prog.perform, lockRespond, lockAnswer, lockAfter, mine, readable.stat, found]
  have bytes : (Prog.perform (LockCall.readOpened 257)).exec (lockRespond process bootText party)
      (world.openEntry party) = (.ok file.content, world.openEntry party) := by
    have whole : file.content.take 257 = file.content :=
      List.take_of_length_le (Nat.le_succ_of_le begun.length_le)
    simp [Prog.perform, lockRespond, lockAnswer, lockAfter, mine, readable.file, found, whole]
  have checked : lock.validated file.linked "runtime state file" = .ok file.identity :=
    lock.validated_accepted rfl (LockFile.accepted_linked.mpr accepted)
  refine (Prog.exec_run_seq (Early.exec_attempt_ok openFile)).trans ?_
  refine (Prog.exec_run_seq (Early.exec_attempt_ok metadata)).trans ?_
  rw [checked]
  refine (Prog.exec_run_seq rfl).trans ?_
  refine (Prog.exec_run_seq (Early.exec_attempt_ok bytes)).trans ?_
  have bounded : decide (file.content.length > 256) = false :=
    decide_eq_false (Nat.not_lt.mpr begun.length_le)
  rw [bounded]
  rfl

/-- The lock file of a dead owner is removed. -/
theorem reclaimStaleLock_exec {owner : ProcessIdentity} {bootId : Block 16}
    (boot : parseBootId bootText = .ok bootId) (root : RootTrusted lock world.disk.root)
    (atPath : AtPath world object file) (begun : Begun file.content)
    (accepted : Accepted lock.policy file.metadata)
    (strong : owner.Strong) (names : Names owner file.content)
    (dead : Dead bootId world.stats owner) :
    ∃ after, lock.reclaimStaleLock.run.exec (lockRespond process bootText party) world =
      (.ok true, after) ∧ after.entry = none ∧ after.disk.root = world.disk.root := by
  obtain ⟨current, stands, stale⟩ := dead
  have checked : lock.validated file.linked "lock file" = .ok file.identity :=
    lock.validated_accepted rfl (LockFile.accepted_linked.mpr accepted)
  let reading := world.openEntry party
  have readable : AtPath reading object file := ⟨atPath.entry, atPath.file⟩
  let removed : LockWorld Party := { reading with entry := none }
  have unlinked : (removeFileIfIdentity file.identity).run.exec
      (lockRespond process bootText party) reading = (.ok true, removed) := by
    refine (Prog.exec_run_seq (Prog.exec_lift readable.symlinkMetadata)).trans ?_
    have same : ¬(file.linked.metadata.fileType ≠ .file ∨ file.linked.identity ≠ file.identity) :=
      not_or.mpr ⟨not_not.mpr accepted.fileType, not_not.mpr rfl⟩
    simp only [if_neg same]
    have unlink : (Prog.perform LockCall.removeFile).exec (lockRespond process bootText party)
        reading = (.ok (), removed) := by
      simp [Prog.perform, lockRespond, lockAnswer, lockAfter, readable.entry, removed]
    exact Prog.exec_run_seq (Early.exec_attempt_ok unlink)
  have synced : FileSessionLock.syncParent.exec (lockRespond process bootText party) removed =
      ((), { removed with disk := removed.disk.syncEntries }) := by
    obtain ⟨metadata, rooted, -⟩ := root
    have there : removed.disk.root = some metadata := rooted
    simp [FileSessionLock.syncParent, lockRespond, lockAnswer, lockAfter, Process.answer,
      Process.after, there]
  refine ⟨{ removed with disk := removed.disk.syncEntries }, ?_, rfl, rfl⟩
  refine (Prog.exec_run_seq (Early.exec_attempt_ok atPath.symlinkMetadata)).trans ?_
  rw [checked]
  refine (Prog.exec_run_seq rfl).trans ?_
  refine (Prog.exec_run_seq (readVerifiedFile_exec atPath begun accepted)).trans ?_
  rw [parseLockOwner_of_names strong names]
  refine (Prog.exec_run_seq rfl).trans ?_
  have standing : processAt bootId (world.openEntry party).stats owner.pid = some current := stands
  refine (Prog.exec_run_seq (probeProcess_exec boot strong.pid standing)).trans ?_
  simp only [stale]
  refine (Prog.exec_run_seq (Early.exec_attempt_ok unlinked)).trans ?_
  exact Prog.exec_run_seq (Prog.exec_lift synced)

/-- Any other lock file stays. -/
theorem reclaimStaleLock_refuses (atPath : AtPath world object file) (begun : Begun file.content)
    (left : ¬(Accepted lock.policy file.metadata ∧
      ∃ owner : ProcessIdentity, owner.Strong ∧ Names owner file.content)) :
    ∃ error opened, lock.reclaimStaleLock.run.exec (lockRespond process bootText party) world =
      (.error error, { world with opened }) := by
  by_cases accepted : Accepted lock.policy file.metadata
  · have checked : lock.validated file.linked "lock file" = .ok file.identity :=
      lock.validated_accepted rfl (LockFile.accepted_linked.mpr accepted)
    have unread : ∃ error, parseLockOwner file.content = .error error := by
      cases read : parseLockOwner file.content with
      | error error => exact ⟨error, rfl⟩
      | ok other =>
          obtain ⟨owner, strong, begins⟩ := begun
          exact absurd ⟨accepted, owner, strong, names_of_parseLockOwner begins read⟩ left
    obtain ⟨error, unread⟩ := unread
    refine ⟨error, (world.openEntry party).opened, ?_⟩
    refine (Prog.exec_run_seq (Early.exec_attempt_ok atPath.symlinkMetadata)).trans ?_
    rw [checked]
    refine (Prog.exec_run_seq rfl).trans ?_
    refine (Prog.exec_run_seq (readVerifiedFile_exec atPath begun accepted)).trans ?_
    rw [unread]
    rfl
  · obtain ⟨error, refused⟩ : ∃ error, lock.validated file.linked "lock file" = .error error :=
      lock.validated_refused rfl fun linked => accepted (LockFile.accepted_linked.mp linked)
    refine ⟨error, world.opened, ?_⟩
    refine (Prog.exec_run_seq (Early.exec_attempt_ok atPath.symlinkMetadata)).trans ?_
    rw [refused]
    rfl

end Reclaim

/-! ### Acquiring -/

/-- What a later acquirer can make use of: a free path, or a lock file that it
accepts and that names an owner. -/
def Reclaimable (lock : FileSessionLock) (world : LockWorld Party) : Prop :=
  world.entry = none ∨ ∃ object file, AtPath world object file ∧
    Accepted lock.policy file.metadata ∧
      ∃ owner : ProcessIdentity, owner.Strong ∧ Names owner file.content

/-- An acquirer that nothing else stands in the way of: the state root is there
or can be created, its new files are accepted, and it can be identified. -/
structure Ready (lock : FileSessionLock) (process : Process) (bootText : String)
    (bootId : Block 16) (world : LockWorld Party) : Prop where
  root : RootTrusted lock world.disk.root ∨ world.disk.root = none ∧ lock.hasParent = true ∧
    RootTrusted lock (some (process.newDirectory lock.policy.directoryMode))
  file : Accepted lock.policy (process.newFile lock.policy.fileMode).metadata
  boot : parseBootId bootText = .ok bootId
  itself : ∃ current, processAt bootId world.stats process.pid = some (some current)

/-- The owners that a lock file names are dead. -/
def OwnersDead (bootId : Block 16) (world : LockWorld Party) : Prop :=
  ∀ object file (owner : ProcessIdentity), AtPath world object file → owner.Strong →
    Names owner file.content → Dead bootId world.stats owner

section Attempts

variable {owner : ProcessIdentity} {bootId : Block 16}

theorem attempts_free (left : Nat) (root : RootTrusted lock world.disk.root)
    (fits : Accepted lock.policy (process.newFile lock.policy.fileMode).metadata)
    (free : world.entry = none) :
    ∃ guard after, (lock.attempts owner (left + 1)).run.exec (lockRespond process bootText party)
      world = (.ok guard, after) := by
  obtain ⟨identity, after, run⟩ : ∃ identity after,
      (lock.tryCreate owner).run.exec (lockRespond process bootText party) world =
        (.ok identity, after) := tryCreate_exec root fits free
  refine ⟨⟨identity⟩, after, ?_⟩
  change Prog.exec _ ((lock.tryCreate owner).run >>= _) _ = _
  rw [Prog.exec_bind, run]
  rfl

theorem tryCreate_taken (taken : world.entry ≠ none) :
    (lock.tryCreate owner).run.exec (lockRespond process bootText party) world =
      (.error (.alreadyExists, none), world) := by
  have present : (Prog.perform (LockCall.createNew lock.policy.fileMode)).exec
      (lockRespond process bootText party) world = (.error .alreadyExists, world) := by
    simp [Prog.perform, lockRespond, lockAnswer, lockAfter, taken]
  exact Prog.exec_run_stop (Early.exec_attempt_error present)

/-- A lock file that can be reclaimed makes room for the second attempt. -/
theorem attempts_reclaim {object : Nat} {file : LockFile} {other : ProcessIdentity}
    (boot : parseBootId bootText = .ok bootId) (root : RootTrusted lock world.disk.root)
    (fits : Accepted lock.policy (process.newFile lock.policy.fileMode).metadata)
    (atPath : AtPath world object file) (begun : Begun file.content)
    (accepted : Accepted lock.policy file.metadata) (strong : other.Strong)
    (names : Names other file.content) (dead : Dead bootId world.stats other) :
    ∃ guard after, (lock.attempts owner 2).run.exec (lockRespond process bootText party)
      world = (.ok guard, after) := by
  obtain ⟨freed, run, free, same⟩ : ∃ freed,
      lock.reclaimStaleLock.run.exec (lockRespond process bootText party) world =
        (.ok true, freed) ∧ freed.entry = none ∧ freed.disk.root = world.disk.root :=
    reclaimStaleLock_exec boot root atPath begun accepted strong names dead
  obtain ⟨guard, after, again⟩ : ∃ guard after,
      (lock.attempts owner 1).run.exec (lockRespond process bootText party) freed =
        (.ok guard, after) := attempts_free 0 (same ▸ root) fits free
  refine ⟨guard, after, ?_⟩
  change Prog.exec _ ((lock.tryCreate owner).run >>= _) _ = _
  rw [Prog.exec_bind, tryCreate_taken (by simp [atPath.entry])]
  refine (Prog.exec_run_seq run).trans ?_
  exact again

theorem attempts_refused {object : Nat} {file : LockFile} (atPath : AtPath world object file)
    (begun : Begun file.content) (left : ¬(Accepted lock.policy file.metadata ∧
      ∃ owner : ProcessIdentity, owner.Strong ∧ Names owner file.content)) :
    ∃ error opened, (lock.attempts owner 2).run.exec (lockRespond process bootText party) world =
      (.error error, { world with opened }) := by
  obtain ⟨error, opened, run⟩ : ∃ error opened,
      lock.reclaimStaleLock.run.exec (lockRespond process bootText party) world =
        (.error error, { world with opened }) := reclaimStaleLock_refuses atPath begun left
  refine ⟨error, opened, ?_⟩
  change Prog.exec _ ((lock.tryCreate owner).run >>= _) _ = _
  rw [Prog.exec_bind, tryCreate_taken (by simp [atPath.entry])]
  exact Prog.exec_run_stop run

end Attempts

theorem currentProcess_exec {bootId : Block 16} (boot : parseBootId bootText = .ok bootId)
    {current : ProcessIdentity}
    (stands : processAt bootId world.stats process.pid = some (some current)) :
    currentProcess.run.exec (lockRespond process bootText party) world = (.ok current, world) := by
  have pid : (Prog.perform LockCall.processId).exec (lockRespond process bootText party) world =
      (process.pid, world) := rfl
  refine (Prog.exec_run_seq (Prog.exec_lift pid)).trans ?_
  exact Prog.exec_run_seq (probeProcess_exec boot process.pid_ne_zero stands)

variable (party) in
/-- A ready acquirer reaches the attempts with nothing changed but the state root. -/
theorem acquire_prefix {bootId : Block 16} (ready : Ready lock process bootText bootId world) :
    ∃ disk owner, RootTrusted lock disk.root ∧
      lock.acquire.run.exec (lockRespond process bootText party) world =
        (lock.attempts owner 2).run.exec (lockRespond process bootText party)
          { world with disk } := by
  obtain ⟨disk, rooted, trusted⟩ := ensureRoot_exec ready.root
  obtain ⟨current, stands⟩ := ready.itself
  refine ⟨disk, current, trusted, ?_⟩
  have first : (onRoot lock.store.ensureRoot).run.exec (lockRespond process bootText party) world =
      (.ok (), { world with disk }) := by
    rw [onRoot_exec, rooted]
  have standing : processAt bootId { world with disk }.stats process.pid = some (some current) :=
    stands
  refine (Prog.exec_run_seq first).trans ?_
  exact Prog.exec_run_seq (currentProcess_exec ready.boot standing)

/-- What can be made use of is made use of. -/
theorem acquire_succeeds {bootId : Block 16} (ready : Ready lock process bootText bootId world)
    (begun : Left world) (dead : OwnersDead bootId world) (usable : Reclaimable lock world) :
    ∃ guard after, lock.acquire.run.exec (lockRespond process bootText party) world =
      (.ok guard, after) := by
  obtain ⟨disk, owner, trusted, run⟩ := acquire_prefix party ready
  rw [run]
  rcases usable with free | ⟨object, file, atPath, accepted, other, strong, names⟩
  · exact attempts_free 1 trusted ready.file free
  · have known : Begun file.content := begun.begun file (List.mem_of_getElem? atPath.file)
    exact attempts_reclaim ready.boot trusted ready.file ⟨atPath.entry, atPath.file⟩ known accepted
      strong names (dead object file other atPath strong names)

/-- What cannot is left as it is. -/
theorem acquire_fails {bootId : Block 16} (ready : Ready lock process bootText bootId world)
    (begun : Left world) (stuck : ¬Reclaimable lock world) :
    ∃ error disk opened, RootTrusted lock disk.root ∧
      lock.acquire.run.exec (lockRespond process bootText party) world =
        (.error error, { world with disk, opened }) := by
  obtain ⟨disk, owner, trusted, run⟩ := acquire_prefix party ready
  obtain ⟨object, taken⟩ := Option.ne_none_iff_exists'.mp (not_or.mp stuck).1
  have inside := begun.linked object taken
  have atPath : AtPath { world with disk } object world.files[object] :=
    ⟨taken, List.getElem?_eq_getElem inside⟩
  have left : ¬(Accepted lock.policy world.files[object].metadata ∧
      ∃ owner : ProcessIdentity, owner.Strong ∧ Names owner world.files[object].content) :=
    fun usable => stuck (.inr ⟨object, _, ⟨atPath.entry, atPath.file⟩, usable⟩)
  obtain ⟨error, opened, refused⟩ : ∃ error opened,
      (lock.attempts owner 2).run.exec (lockRespond process bootText party) { world with disk } =
        (.error error, { world with disk, opened }) :=
    attempts_refused atPath (begun.begun _ (List.getElem_mem _)) left
  exact ⟨error, disk, opened, trusted, run.trans refused⟩

/-- The world after some more acquisitions. -/
def acquiredAgain (lock : FileSessionLock) (process : Process) (bootText : String) (party : Party) :
    Nat → LockWorld Party → LockWorld Party
  | 0, world => world
  | more + 1, world => acquiredAgain lock process bootText party more
      (lock.acquire.run.exec (lockRespond process bootText party) world).2

/-- A lock file that cannot be made use of is in the way for ever. -/
theorem acquire_fails_again {bootId : Block 16} (ready : Ready lock process bootText bootId world)
    (begun : Left world) (stuck : ¬Reclaimable lock world) (more : Nat) :
    ∃ error, (lock.acquire.run.exec (lockRespond process bootText party)
      (acquiredAgain lock process bootText party more world)).1 = .error error := by
  induction more generalizing world with
  | zero =>
      obtain ⟨error, disk, opened, -, run⟩ := acquire_fails ready begun stuck
      exact ⟨error, by rw [acquiredAgain, run]⟩
  | succ more ih =>
      obtain ⟨error, disk, opened, trusted, run⟩ := acquire_fails ready begun stuck
      rw [acquiredAgain, run]
      refine ih ⟨.inl trusted, ready.file, ready.boot, ready.itself⟩ ⟨begun.linked, begun.begun⟩ ?_
      rintro (free | ⟨object, file, atPath, usable⟩)
      · exact stuck (.inl free)
      · exact stuck (.inr ⟨object, file, ⟨atPath.entry, atPath.file⟩, usable⟩)

/-- Wherever acquirers have stopped and all owners are dead, a ready acquirer
succeeds if and only if the path is free or its file names an owner completely. -/
theorem reacquire_iff {processes : Party → Process} {initial : LockWorld Party}
    (unlocked : Unlocked initial)
    {state : Service.Concurrent LockAnswer Party LockRequest LockReply (LockWorld Party)}
    (reachable : Service.ConcurrentReachable (lockService lock processes) initial state)
    {bootId : Block 16} (ready : Ready lock process bootText bootId state.world)
    (dead : OwnersDead bootId state.world) :
    (∃ guard, (lock.acquire.run.exec (lockRespond process bootText party) state.world).1 =
      .ok guard) ↔ Reclaimable lock state.world := by
  have begun : Left state.world := ((leftContract_sound unlocked).reachable reachable).1
  constructor
  · rintro ⟨guard, acquired⟩
    by_contra stuck
    obtain ⟨error, disk, opened, -, run⟩ : ∃ error disk opened, RootTrusted lock disk.root ∧
        lock.acquire.run.exec (lockRespond process bootText party) state.world =
          (.error error, { state.world with disk, opened }) := acquire_fails ready begun stuck
    rw [run] at acquired
    cases acquired
  · intro usable
    obtain ⟨guard, after, run⟩ := acquire_succeeds ready begun dead usable
    exact ⟨guard, by rw [run]⟩

end Healthy

/-! ## A file left empty -/

namespace Abandoned

open Overtaken

def bootId : Block 16 :=
  ⟨[0x5d, 0x0c, 0x1e, 0x9a, 0x7f, 0x3b, 0x4c, 0x52, 0x9c, 0x11, 0x0a, 0x6b, 0x2f, 0x4e, 0x8d, 0x37],
    rfl⟩

theorem fresh_unlocked : Unlocked fresh :=
  ⟨rfl, rfl⟩

theorem quick_ready {world : LockWorld Acquirer} (root : world.disk.root = fresh.disk.root)
    (stats : world.stats 13 = fresh.stats 13) :
    Ready sharedLock (process .quick) bootText bootId world where
  root := by
    rw [root]
    exact .inl ⟨_, rfl, rfl⟩
  file := ⟨rfl, rfl, rfl, rfl⟩
  boot := by decide +kernel
  itself := by
    refine ⟨⟨13, 3120, bootId⟩, ?_⟩
    change processAt bootId world.stats 13 = _
    rw [processAt, stats]
    decide +kernel

/-- The owner has died while it held the lock. -/
def orphaned : LockWorld Acquirer :=
  owned.die .gone 11

/-- The lock file that it has left. -/
def orphanedFile : LockFile :=
  ⟨⟨.file, 0, 0, 0o600, 1⟩, ⟨1, 0⟩, encodeLockOwner ⟨11, 3120, bootId⟩⟩

theorem orphaned_atPath : AtPath orphaned 0 orphanedFile := by
  constructor
  · decide +kernel
  · decide +kernel

theorem orphaned_dead : OwnersDead bootId orphaned := by
  intro object file owner atPath strong names
  obtain rfl : 0 = object := by
    have entry := orphaned_atPath.entry.symm.trans atPath.entry
    exact Option.some.inj entry
  obtain rfl : orphanedFile = file := by
    have same := orphaned_atPath.file.symm.trans atPath.file
    exact Option.some.inj same
  have read : parseLockOwner orphanedFile.content = .ok ⟨11, 3120, bootId⟩ := by decide +kernel
  rw [parseLockOwner_of_names strong names] at read
  obtain rfl := Except.ok.inj read
  exact ⟨none, by decide +kernel, rfl⟩

/-- What the owner has left is reclaimed. -/
theorem reacquire_iff_orphaned :
    ∃ guard, (sharedLock.acquire.run.exec (respond .quick) orphaned).1 = .ok guard := by
  have first : Service.ConcurrentReachable (lockService sharedLock process) fresh
      ⟨owned, fun _ => none⟩ :=
    .serve rfl .refl (.exec (fun world call => (refuse_spares .gone world call).1) _ _)
  have reachable : Service.ConcurrentReachable (lockService sharedLock process) fresh
      ⟨orphaned, fun _ => none⟩ := first.leave rfl
  have ready : Ready sharedLock (process .quick) bootText bootId orphaned :=
    quick_ready (by decide +kernel) (by decide +kernel)
  have usable : Reclaimable sharedLock orphaned :=
    .inr ⟨0, orphanedFile, orphaned_atPath, ⟨rfl, rfl, rfl, rfl⟩, ⟨11, 3120, bootId⟩,
      ⟨by decide, by decide, by decide⟩, .inl rfl⟩
  exact (reacquire_iff fresh_unlocked reachable ready orphaned_dead).mpr usable

/-- The owner has died before it has written anything. -/
def abandoned : LockWorld Acquirer :=
  (acquiring.advance (respond .gone) 5 fresh).2.die .gone 11

theorem abandoned_reachable :
    Service.ConcurrentReachable (lockService sharedLock process) fresh
      ⟨abandoned, fun _ => none⟩ := by
  have idle : Service.ConcurrentReachable (lockService sharedLock process) fresh
      ⟨fresh, fun _ => none⟩ := .refl
  have begun := (idle.start .gone rfl .acquire).advance (respond_law .gone) 5
  exact begun.abandon rfl

/-- Its empty lock file keeps every later acquirer out. -/
theorem abandoned_never_acquired :
    Service.ConcurrentReachable (lockService sharedLock process) fresh
        ⟨abandoned, fun _ => none⟩ ∧
      abandoned.stats 11 = none ∧
      ∀ more, ∃ error, (sharedLock.acquire.run.exec (respond .quick)
        (acquiredAgain sharedLock (process .quick) bootText .quick more abandoned)).1 =
          .error error := by
  have ready : Ready sharedLock (process .quick) bootText bootId abandoned :=
    quick_ready (by decide +kernel) (by decide +kernel)
  have begun : Left abandoned :=
    ((leftContract_sound fresh_unlocked).reachable abandoned_reachable).1
  have entry : abandoned.entry = some 0 := by decide +kernel
  have empty : abandoned.files[0]?.map LockFile.content = some [] := by decide +kernel
  refine ⟨abandoned_reachable, by decide +kernel, acquire_fails_again ready begun ?_⟩
  rintro (free | ⟨object, file, atPath, -, owner, strong, names⟩)
  · rw [entry] at free
    cases free
  · obtain rfl := Option.some.inj (entry.symm.trans atPath.entry)
    rw [atPath.file] at empty
    have read := parseLockOwner_of_names strong names
    rw [Option.some.inj empty] at read
    cases read

end Abandoned

end Sysboost.State
