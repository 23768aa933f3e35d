import Sysboost.Interaction.Refinement
import Sysboost.State.StoreReading

/-!
# Runs of the store

Processes use the store one after another.  Each of them can end between any two
calls, and the power can fail then.  The log tells which values a session may have:
all that were begun since the last write that succeeded.
-/

namespace Sysboost.State

open Sysboost.Core ByteCodec Interaction Storage

/-! ## An empty store -/

/-- A process of the superuser. -/
def rootProcess : Process :=
  ⟨1, 0, 0, 0o22, by decide⟩

theorem rootProcess_conforms : Process.Conforms rootProcess .rootOwned :=
  ⟨rfl, rfl, by decide⟩

/-- A private state root without any file. -/
def emptyRoot : Disk :=
  ⟨some ⟨.directory, 0, 0, 0o700, 2⟩, ∅, []⟩

theorem emptyRoot_rooted : Rooted .rootOwned emptyRoot :=
  ⟨_, rfl, rfl, rfl, rfl, by decide⟩

theorem Held.of_empty {policy : RuntimeStatePolicy} {disk : Disk} (rooted : Rooted policy disk)
    (empty : disk.live = ∅) (settled : disk.older = []) :
    Held policy disk (fun _ => none) {fun _ => none} where
  rooted := rooted
  live := by
    rw [empty]
    exact .empty policy
  older _ member := by
    rw [settled] at member
    cases member
  now := rfl

/-! ## One write -/

namespace FileStateStore

/-- The store can be read, and shows these records. -/
def Readable (store : FileStateStore) (disk : Disk) (files : Files) : Prop :=
  ∀ reader : Process,
    (∃ records, store.loadUnfinished.run.exec reader.respond disk = (.ok records, disk) ∧
      Lists files records) ∧
    ∀ sessionId record, files sessionId = some record →
      (store.load sessionId).run.exec reader.respond disk = (.ok record, disk)

theorem readable_of_held {store : FileStateStore} {disk : Disk} {files : Files}
    {possible : Set Files} (held : Held store.policy disk files possible) :
    store.Readable disk files :=
  fun reader => ⟨loadUnfinished_healthy reader held.rooted held.live,
    fun _ _ stored => load_healthy reader held.rooted held.live stored⟩

/-- **Atomic writes.**  Stop a write at any call, and let the power fail: the disk
can be read, and shows what it could have shown before or the same with the whole
new record in place of the old one. -/
theorem write_is_atomic (store : FileStateStore) (process : Process) (record : SessionRecord)
    (replace : Bool) (disk after found : Disk) (current : Files) (possible : Set Files)
    (rest : Prog Storage.Answer (Except SysboostError Unit))
    (conforms : Process.Conforms process store.policy) (checked : record.Checked)
    (held : Held store.policy disk current possible)
    (stops : Stops (Law process) (store.writeAtomic record replace).run disk rest after)
    (later : after.Later found) :
    ∃ files, (files ∈ possible ∨ Admits current record replace ∧ files = written current record) ∧
      store.Readable found files := by
  have attempted := stops.assertion (writeAtomic_concludes conforms checked held)
    fun _ _ known => known.attempted
  rcases attempted with held | ⟨admits, held⟩
  · rcases held.later later with rfl | ⟨files, known, held'⟩
    · exact ⟨current, .inl held.now, readable_of_held held⟩
    · exact ⟨files, .inl known, readable_of_held held'⟩
  · rcases held.later later with rfl | ⟨files, known, held'⟩
    · exact ⟨_, .inr ⟨admits, rfl⟩, readable_of_held held⟩
    · rcases known with rfl | known
      · exact ⟨_, .inr ⟨admits, rfl⟩, readable_of_held held'⟩
      · exact ⟨files, .inl known, readable_of_held held'⟩

/-- A write that is stopped between the rename and the synchronisation of the
directory. -/
theorem write_is_atomic_renamed :
    ∃ rest after, Stops (Law rootProcess)
        (FileStateStore.writeAtomic ⟨true, .rootOwned⟩ governorRecord false).run emptyRoot rest
        after ∧
      ∃ files, (files ∈ ({fun _ => none} : Set Files) ∨
          Admits (fun _ => none) governorRecord false ∧
            files = written (fun _ => none) governorRecord) ∧
        FileStateStore.Readable ⟨true, .rootOwned⟩ after files := by
  have stops := Stops.advance rootProcess.law 11
    (FileStateStore.writeAtomic ⟨true, .rootOwned⟩ governorRecord false).run emptyRoot
  exact ⟨_, _, stops, write_is_atomic ⟨true, .rootOwned⟩ rootProcess governorRecord false
    emptyRoot _ _ _ _ _ rootProcess_conforms governorRecord_checked
    (Held.of_empty emptyRoot_rooted rfl rfl) stops (.inl rfl)⟩

end FileStateStore

/-! ## Users of the store -/

/-- A record whose values were made by checked constructors, as every record is. -/
abbrev CheckedRecord := {record : SessionRecord // record.Checked}

/-- The methods of the store. -/
inductive StoreRequest where
  | create (record : CheckedRecord)
  | replace (record : CheckedRecord)
  | remove (sessionId : SessionId)
  | load (sessionId : SessionId)
  | loadUnfinished

/-- What they return. -/
inductive StoreReply where
  | done (result : Except SysboostError Unit)
  | loaded (result : Except SysboostError SessionRecord)
  | listed (result : Except SysboostError (List SessionRecord))

/-- The program of a method. -/
def StoreRequest.program (store : FileStateStore) :
    StoreRequest → Prog Storage.Answer StoreReply
  | .create record => do return .done (← (store.create record.val).run)
  | .replace record => do return .done (← (store.replace record.val).run)
  | .remove sessionId => do return .done (← (store.remove sessionId).run)
  | .load sessionId => do return .loaded (← (store.load sessionId).run)
  | .loadUnfinished => do return .listed (← store.loadUnfinished.run)

/-- One entry of the log. -/
inductive StoreEntry where
  | began (request : StoreRequest)
  | ended (request : StoreRequest) (reply : StoreReply)

/-- The disk, and what has happened, newest first. -/
structure Shelf where
  disk : Disk
  log : List StoreEntry

/-- A process that uses the store, and what is found on the disk when it ends. -/
structure User (policy : RuntimeStatePolicy) where
  process : Process
  conforms : Process.Conforms process policy
  found : Disk → Disk
  later : ∀ disk : Disk, disk.Later (found disk)

/-- Users of a store, one after another. -/
def storeService (store : FileStateStore) :
    Service Storage.Answer (User store.policy) StoreRequest StoreReply Shelf where
  program := StoreRequest.program store
  env user before call answer after :=
    Law user.process before.disk call answer after.disk ∧ after.log = before.log
  issue _ request shelf := { shelf with log := .began request :: shelf.log }
  reply _ request reply shelf := { shelf with log := .ended request reply :: shelf.log }
  stop user shelf := { shelf with disk := user.found shelf.disk }

/-! ## What the log tells -/

/-- The value of a session that a write has begun with. -/
def StoreRequest.writes : StoreRequest → Option (SessionId × Option SessionRecord)
  | .create record => some (record.val.sessionId, some record.val)
  | .replace record => some (record.val.sessionId, some record.val)
  | .remove sessionId => some (sessionId, none)
  | _ => none

/-- Whether the method is known to have happened for good.  A removal that found
nothing has synchronised nothing. -/
def StoreRequest.settles : StoreRequest → StoreReply → Bool
  | .create _, .done (.ok ()) => true
  | .replace _, .done (.ok ()) => true
  | _, _ => false

/-- The values that a session may have. -/
def values (sessionId : SessionId) : List StoreEntry → Set (Option SessionRecord)
  | [] => {none}
  | .began request :: older =>
      match request.writes with
      | some (written, value) =>
          if written = sessionId then insert value (values sessionId older)
          else values sessionId older
      | none => values sessionId older
  | .ended request reply :: older =>
      match request.writes with
      | some (written, value) =>
          if written = sessionId ∧ request.settles reply then {value}
          else values sessionId older
      | none => values sessionId older

/-- What was read is what the log allows. -/
def StoreEntry.Explained (older : List StoreEntry) : StoreEntry → Prop
  | .ended (.load sessionId) (.loaded (.ok record)) => some record ∈ values sessionId older
  | .ended .loadUnfinished (.listed (.ok records)) =>
      (records.map SessionRecord.sessionId).Nodup ∧
        records.Pairwise (fun first second => first.sessionId.le second.sessionId = true) ∧
        (∀ record ∈ records, record.session.state ≠ .restored ∧
          some record ∈ values record.sessionId older) ∧
        ∀ sessionId record, values sessionId older = {some record} →
          record.session.state ≠ .restored → record ∈ records
  | _ => True

/-- Everything that was read is explained. -/
def AllExplained : List StoreEntry → Prop
  | [] => True
  | entry :: older => entry.Explained older ∧ AllExplained older

section Values

variable {sessionId written : SessionId} {request : StoreRequest} {reply : StoreReply}
  {older : List StoreEntry} {value : Option SessionRecord}

theorem values_began (writes : request.writes = some (written, value)) :
    values sessionId (.began request :: older) =
      if written = sessionId then insert value (values sessionId older)
      else values sessionId older := by
  rw [values, writes]

theorem values_ended (writes : request.writes = some (written, value)) :
    values sessionId (.ended request reply :: older) =
      if written = sessionId ∧ request.settles reply then {value}
      else values sessionId older := by
  rw [values, writes]

/-- Nothing becomes impossible when a method begins. -/
theorem values_subset_began (request : StoreRequest) :
    values sessionId older ⊆ values sessionId (.began request :: older) := by
  cases writes : request.writes with
  | none =>
      rw [values, writes]
  | some write =>
      rw [values_began writes]
      split
      · exact Set.subset_insert _ _
      · exact Set.Subset.refl _

theorem values_ended_of_unsettled (unsettled : request.settles reply = false) :
    values sessionId (.ended request reply :: older) = values sessionId older := by
  cases writes : request.writes with
  | none => rw [values, writes]
  | some write => rw [values_ended writes, unsettled, if_neg (by simp)]

/-- The files show nothing but what the log allows. -/
def Allowed (log : List StoreEntry) (files : Files) : Prop :=
  ∀ sessionId, files sessionId ∈ values sessionId log

variable {files : Files}

theorem Allowed.began (allowed : Allowed older files) (request : StoreRequest) :
    Allowed (.began request :: older) files :=
  fun sessionId => values_subset_began request (allowed sessionId)

/-- The files that a method in progress may lead to. -/
theorem Allowed.update (allowed : Allowed older files)
    (writes : request.writes = some (written, value)) :
    Allowed (.began request :: older) (Function.update files written value) := by
  intro sessionId
  rw [values_began writes]
  by_cases same : written = sessionId
  · subst same
    rw [if_pos rfl, Function.update_self]
    exact Set.mem_insert _ _
  · rw [if_neg same, Function.update_of_ne (Ne.symm same)]
    exact allowed sessionId

theorem Allowed.ended (allowed : Allowed older files)
    (unsettled : request.settles reply = false) :
    Allowed (.ended request reply :: older) files := by
  intro sessionId
  rw [values_ended_of_unsettled unsettled]
  exact allowed sessionId

/-- A method that has happened for good. -/
theorem Allowed.settled (allowed : Allowed older (Function.update files written value))
    (writes : request.writes = some (written, value)) :
    Allowed (.ended request reply :: older) (Function.update files written value) := by
  intro sessionId
  rw [values_ended writes]
  split
  next settled =>
    rw [← settled.1, Function.update_self]
    rfl
  next => exact allowed sessionId

end Values

/-! ## The invariant -/

/-- What a failure of the power may reveal is what the log allows, and so is what
was read. -/
structure Accounts (policy : RuntimeStatePolicy) (shelf : Shelf) : Prop where
  held : ∃ current possible, Held policy shelf.disk current possible ∧
    ∀ files ∈ possible, Allowed shelf.log files
  explained : AllExplained shelf.log

namespace Accounts

variable {store : FileStateStore} {disk : Disk} {log : List StoreEntry}
  {request : StoreRequest} {current : Files} {possible : Set Files} {written : SessionId}
  {value : Option SessionRecord} {admitted : Prop}

theorem of_held (held : Held store.policy disk current possible)
    (allowed : ∀ files ∈ possible, Allowed log files) (explained : AllExplained log) :
    Accounts store.policy ⟨disk, log⟩ :=
  ⟨⟨current, possible, held, allowed⟩, explained⟩

/-- The invariant while an update is in progress. -/
theorem of_attempted
    (attempted : Attempted store.policy current (Function.update current written value) possible
      admitted disk)
    (allowed : ∀ files ∈ possible, Allowed log files)
    (now : current ∈ possible) (explained : AllExplained log)
    (writes : request.writes = some (written, value)) :
    Accounts store.policy ⟨disk, .began request :: log⟩ := by
  rcases attempted with held | ⟨-, held⟩
  · exact of_held held (fun files known => (allowed files known).began request)
      ⟨trivial, explained⟩
  · refine of_held held ?_ ⟨trivial, explained⟩
    rintro files (rfl | known)
    · exact (allowed current now).update writes
    · exact (allowed files known).began request

/-- An update that is not known to have happened ends. -/
theorem ended {reply : StoreReply} (accounts : Accounts store.policy ⟨disk, log⟩)
    (unsettled : request.settles reply = false)
    (explained : StoreEntry.Explained log (.ended request reply)) :
    Accounts store.policy ⟨disk, .ended request reply :: log⟩ := by
  rcases accounts with ⟨⟨current, possible, held, allowed⟩, before⟩
  exact of_held held (fun files known => (allowed files known).ended unsettled)
    ⟨explained, before⟩

/-- A write that has returned without an error ends. -/
theorem settled {reply : StoreReply}
    (held : Held store.policy disk (Function.update current written value)
      {Function.update current written value})
    (allowed : Allowed log current) (explained : AllExplained log)
    (writes : request.writes = some (written, value))
    (fine : StoreEntry.Explained (.began request :: log) (.ended request reply)) :
    Accounts store.policy ⟨disk, .ended request reply :: .began request :: log⟩ := by
  refine of_held held ?_ ⟨fine, trivial, explained⟩
  rintro files rfl
  exact (allowed.update writes).settled writes

end Accounts

section Requests

variable {store : FileStateStore} {user : User store.policy}

/-- A program that is safe on the disk leaves the log alone. -/
theorem storeService_view {α : Type} {assertion : Disk → Prop} {post : α → Disk → Prop}
    {program : Prog Storage.Answer α} {disk : Disk} (log : List StoreEntry)
    (safe : Always user.process assertion post program disk) :
    Alone ((storeService store).env user)
      (fun now _ => assertion now.disk ∧ now.log = log)
      (fun value now => post value now.disk ∧ now.log = log) program ⟨disk, log⟩ := by
  have viewed : Alone ((storeService store).env user) (fun now _ => assertion now.disk)
      (fun value now => post value now.disk) program ⟨disk, log⟩ := by
    have lifted : Always user.process assertion post program (Shelf.disk ⟨disk, log⟩) := safe
    apply Alone.view Shelf.disk _ lifted
    exact fun _ _ _ _ law => law.1
  apply viewed.carry
  · rintro before _ rfl same
    exact same
  · exact fun same _ law => law.2.trans same
  · rfl

/-- The obligation for a method: the invariant holds while it is served, and its
result can be entered into the log. -/
theorem storeService_serves {α : Type} {assertion : Disk → Prop} {post : α → Disk → Prop}
    {program : Prog Storage.Answer α} {answer : α → StoreReply} {request : StoreRequest}
    {disk : Disk} {log : List StoreEntry}
    (serves : StoreRequest.program store request = program >>= fun result => .ret (answer result))
    (safe : Always user.process assertion post program disk)
    (kept : ∀ now, assertion now → Accounts store.policy ⟨now, .began request :: log⟩)
    (returned : ∀ result now, post result now →
      Accounts store.policy ⟨now, .began request :: log⟩ ∧
        Accounts store.policy ⟨now, .ended request (answer result) :: .began request :: log⟩) :
    (storeService store).SerialGood (Accounts store.policy) (fun _ _ _ => True)
      ⟨(storeService store).issue user request ⟨disk, log⟩,
        some (user, request, (storeService store).program request)⟩ := by
  rw [Service.serialGood_serving_iff]
  change Alone _ _ _ (StoreRequest.program store request) _
  rw [serves]
  have viewed := storeService_view (.began request :: log) safe
  apply Alone.seq (viewed.weaken (fun _ _ _ _ _ law => law) ?_)
  · rintro result ⟨now, entries⟩ ⟨known, rfl⟩
    exact Alone.ret_iff.mpr (returned result now known)
  · rintro ⟨now, entries⟩ made ⟨holds, rfl⟩
    exact ⟨kept now holds, trivial⟩

variable {disk : Disk} {log : List StoreEntry} {current : Files} {possible : Set Files}

theorem storeWrite_good {request : StoreRequest} {record : CheckedRecord} (replace : Bool)
    (serves : StoreRequest.program store request =
      (store.writeAtomic record.val replace).run >>= fun result => .ret (.done result))
    (writes : request.writes = some (record.val.sessionId, some record.val))
    (settles : ∀ result, request.settles (.done result) = true ↔ result = .ok ())
    (explained : ∀ older result, StoreEntry.Explained older (.ended request (.done result)))
    (held : Held store.policy disk current possible)
    (allowed : ∀ files ∈ possible, Allowed log files) (before : AllExplained log) :
    (storeService store).SerialGood (Accounts store.policy) (fun _ _ _ => True)
      ⟨(storeService store).issue user request ⟨disk, log⟩,
        some (user, request, (storeService store).program request)⟩ := by
  apply storeService_serves serves
    (FileStateStore.writeAtomic_concludes user.conforms record.property held)
  · exact fun now attempted => .of_attempted attempted allowed held.now before writes
  · intro result now known
    have kept : Accounts store.policy ⟨now, .began request :: log⟩ :=
      .of_attempted known.attempted allowed held.now before writes
    refine ⟨kept, ?_⟩
    by_cases ok : result = .ok ()
    · exact .settled (known.done ok).2 (allowed current held.now) before writes
        (explained _ result)
    · apply kept.ended _ (explained _ result)
      rw [Bool.eq_false_iff, ne_eq, settles]
      exact ok

theorem storeRemove_good {sessionId : SessionId}
    (held : Held store.policy disk current possible)
    (allowed : ∀ files ∈ possible, Allowed log files) (before : AllExplained log) :
    (storeService store).SerialGood (Accounts store.policy) (fun _ _ _ => True)
      ⟨(storeService store).issue user (.remove sessionId) ⟨disk, log⟩,
        some (user, .remove sessionId, (storeService store).program (.remove sessionId))⟩ := by
  have serves : StoreRequest.program store (.remove sessionId) =
      (store.remove sessionId).run >>= fun result => .ret (.done result) :=
    rfl
  apply storeService_serves serves (FileStateStore.remove_concludes held)
  · exact fun now attempted => .of_attempted attempted allowed held.now before rfl
  · rintro result now ⟨-, attempted⟩
    have kept : Accounts store.policy ⟨now, .began (.remove sessionId) :: log⟩ :=
      .of_attempted attempted allowed held.now before rfl
    exact ⟨kept, kept.ended rfl trivial⟩

theorem storeLoad_good {sessionId : SessionId} (held : Held store.policy disk current possible)
    (allowed : ∀ files ∈ possible, Allowed log files) (before : AllExplained log) :
    (storeService store).SerialGood (Accounts store.policy) (fun _ _ _ => True)
      ⟨(storeService store).issue user (.load sessionId) ⟨disk, log⟩,
        some (user, .load sessionId, (storeService store).program (.load sessionId))⟩ := by
  have kept : Accounts store.policy ⟨disk, .began (.load sessionId) :: log⟩ :=
    .of_held held allowed ⟨trivial, before⟩
  have serves : StoreRequest.program store (.load sessionId) =
      (store.load sessionId).run >>= fun result => .ret (.loaded result) :=
    rfl
  have safe : Always user.process (· = disk) _ (store.load sessionId).run disk :=
    FileStateStore.load_finds held.rooted held.live rfl
  apply storeService_serves serves safe
  · rintro now rfl
    exact kept
  · rintro result now ⟨found, rfl⟩
    refine ⟨kept, kept.ended rfl ?_⟩
    cases result with
    | error error => trivial
    | ok record =>
        have stored := allowed current held.now sessionId
        rw [found record rfl] at stored
        exact stored

theorem storeList_good (held : Held store.policy disk current possible)
    (allowed : ∀ files ∈ possible, Allowed log files) (before : AllExplained log) :
    (storeService store).SerialGood (Accounts store.policy) (fun _ _ _ => True)
      ⟨(storeService store).issue user .loadUnfinished ⟨disk, log⟩,
        some (user, .loadUnfinished, (storeService store).program .loadUnfinished)⟩ := by
  have kept : Accounts store.policy ⟨disk, .began .loadUnfinished :: log⟩ :=
    .of_held held allowed ⟨trivial, before⟩
  have serves : StoreRequest.program store .loadUnfinished =
      store.loadUnfinished.run >>= fun result => .ret (.listed result) :=
    rfl
  have safe : Always user.process (· = disk) _ store.loadUnfinished.run disk :=
    FileStateStore.loadUnfinished_lists held.rooted held.live rfl
  apply storeService_serves serves safe
  · rintro now rfl
    exact kept
  · rintro result now ⟨found, rfl⟩
    refine ⟨kept, kept.ended rfl ?_⟩
    cases result with
    | error error => trivial
    | ok records =>
        have lists := found records rfl
        refine ⟨lists.distinct, lists.sorted, ?_, ?_⟩
        · intro record member
          rcases (lists.mem_iff record).mp member with ⟨stored, unfinished⟩
          have allowed := allowed current held.now record.sessionId
          rw [stored] at allowed
          exact ⟨unfinished, allowed⟩
        · intro sessionId record only unfinished
          have stored := allowed current held.now sessionId
          change current sessionId ∈ values sessionId log at stored
          rw [show values sessionId log = {some record} from only] at stored
          obtain rfl := held.live.own stored
          exact (lists.mem_iff record).mpr ⟨stored, unfinished⟩

theorem storeRequest_good {request : StoreRequest} {shelf : Shelf}
    (accounts : Accounts store.policy shelf) :
    (storeService store).SerialGood (Accounts store.policy) (fun _ _ _ => True)
      ⟨(storeService store).issue user request shelf,
        some (user, request, (storeService store).program request)⟩ := by
  rcases shelf with ⟨disk, log⟩
  rcases accounts with ⟨⟨current, possible, held, allowed⟩, before⟩
  cases request with
  | create record =>
      exact storeWrite_good false rfl rfl
        (by rintro (_ | ⟨⟩) <;> simp [StoreRequest.settles]) (fun _ _ => trivial) held allowed
        before
  | replace record =>
      exact storeWrite_good true rfl rfl
        (by rintro (_ | ⟨⟩) <;> simp [StoreRequest.settles]) (fun _ _ => trivial) held allowed
        before
  | remove sessionId => exact storeRemove_good held allowed before
  | load sessionId => exact storeLoad_good held allowed before
  | loadUnfinished => exact storeList_good held allowed before

end Requests

/-- When a user ends, what is found is what was possible. -/
theorem Accounts.stop {store : FileStateStore} {shelf : Shelf} (user : User store.policy)
    (accounts : Accounts store.policy shelf) :
    Accounts store.policy { shelf with disk := user.found shelf.disk } := by
  rcases accounts with ⟨⟨current, possible, held, allowed⟩, before⟩
  rcases held.later (user.later shelf.disk) with same | ⟨files, known, held'⟩
  · rw [same]
    exact .of_held held allowed before
  · refine .of_held held' ?_ before
    rintro files' rfl
    exact allowed files' known

/-- The superuser, whose processes end without a failure of the power. -/
def rootUser : User .rootOwned :=
  ⟨rootProcess, rootProcess_conforms, id, fun _ => .inl rfl⟩

/-- A call that does not fail. -/
def rootRespond (shelf : Shelf) (call : Call) : Answer call × Shelf :=
  ((rootProcess.respond shelf.disk call).1, ⟨(rootProcess.respond shelf.disk call).2, shelf.log⟩)

theorem rootRespond_law (shelf : Shelf) (call : Call) :
    (storeService ⟨true, .rootOwned⟩).env rootUser shelf call (rootRespond shelf call).1
      (rootRespond shelf call).2 :=
  ⟨rootProcess.law shelf.disk call, rfl⟩

/-- A request to store the record of the fixture. -/
def createdRequest : StoreRequest :=
  .create ⟨governorRecord, governorRecord_checked⟩

end Sysboost.State
