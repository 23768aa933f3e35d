import Sysboost.Interaction.Holding
import Sysboost.State.StoreContents

/-!
# Writing to the store

A disk holds the records that a reader finds now, and all that a reader may find
after a failure of the power.  An update that is stopped at any of its calls has
either happened or not; one that has returned without an error has happened, and
a failure of the power does not undo it.
-/

namespace Sysboost.State

open Sysboost.Core ByteCodec Interaction Storage

/-! ## What a disk holds -/

/-- The state root exists and only its owner can use it. -/
def Rooted (policy : RuntimeStatePolicy) (disk : Disk) : Prop :=
  ∃ metadata, disk.root = some metadata ∧ policy.PrivateRoot metadata

/-- A reader finds the current records; after a failure of the power it finds
one of the possible ones. -/
structure Held (policy : RuntimeStatePolicy) (disk : Disk) (current : Files)
    (possible : Set Files) : Prop where
  rooted : Rooted policy disk
  live : Stores policy disk.live current
  older : ∀ version ∈ disk.older, ∃ files ∈ possible, Stores policy version files
  now : current ∈ possible

namespace Held

variable {policy : RuntimeStatePolicy} {disk : Disk} {current next : Files}
  {possible more : Set Files}

theorem mono (held : Held policy disk current possible) (subset : possible ⊆ more) :
    Held policy disk current more where
  rooted := held.rooted
  live := held.live
  older version member := by
    rcases held.older version member with ⟨files, known, stores⟩
    exact ⟨files, subset known, stores⟩
  now := subset held.now

/-- The directory is changed; its version so far becomes an older one. -/
theorem change {update : Directory → Directory} (held : Held policy disk current possible)
    (stores : Stores policy (update disk.live) next) :
    Held policy (disk.change update) next (insert next possible) where
  rooted := held.rooted
  live := stores
  older version member := by
    rcases List.mem_cons.mp member with rfl | member
    · exact ⟨current, Set.mem_insert_of_mem next held.now, held.live⟩
    · rcases held.older version member with ⟨files, known, stores⟩
      exact ⟨files, Set.mem_insert_of_mem next known, stores⟩
  now := Set.mem_insert next possible

/-- The directory is changed, but not its records. -/
theorem tidy {update : Directory → Directory} (held : Held policy disk current possible)
    (stores : Stores policy (update disk.live) current) :
    Held policy (disk.change update) current possible :=
  (held.change stores).mono (Set.insert_subset held.now (Set.Subset.refl possible))

theorem write (held : Held policy disk current possible) {name : FileName}
    (skipped : Skipped name) (content : Bytes) :
    Held policy (disk.write name content) current possible where
  rooted := held.rooted
  live := held.live.adjust skipped fun _ => rfl
  older version member := by
    rcases List.mem_map.mp member with ⟨before, kept, rfl⟩
    rcases held.older before kept with ⟨files, known, stores⟩
    exact ⟨files, known, stores.adjust skipped fun _ => rfl⟩
  now := held.now

theorem sync (held : Held policy disk current possible) {name : FileName}
    (skipped : Skipped name) : Held policy (disk.sync name) current possible where
  rooted := held.rooted
  live := held.live.adjust skipped fun _ => rfl
  older := held.older
  now := held.now

/-- Once the directory is synchronised, nothing else is possible. -/
theorem syncEntries (held : Held policy disk current possible) :
    Held policy disk.syncEntries current {current} where
  rooted := held.rooted
  live := held.live
  older _ member := nomatch member
  now := rfl

/-- What is found later holds what was possible. -/
theorem later {found : Disk} (held : Held policy disk current possible)
    (later : disk.Later found) :
    found = disk ∨ ∃ files ∈ possible, Held policy found files {files} := by
  rcases later with same | ⟨root, none, version, member, settles⟩
  · exact .inl same
  · right
    have known : ∃ files ∈ possible, Stores policy version files := by
      rcases List.mem_cons.mp member with rfl | member
      · exact ⟨current, held.now, held.live⟩
      · exact held.older version member
    rcases known with ⟨files, known, stores⟩
    refine ⟨files, known, ?_, stores.settle settles, ?_, rfl⟩
    · rcases held.rooted with ⟨metadata, exists_, owned⟩
      exact ⟨metadata, root.trans exists_, owned⟩
    · intro version member
      rw [none] at member
      cases member

end Held

/-! ## Following a program -/

/-- The assertion holds before every call, and `post` of the result. -/
abbrev Always (process : Process) (assertion : Disk → Prop) {α : Type} (post : α → Disk → Prop)
    (program : Prog Storage.Answer α) (disk : Disk) : Prop :=
  Alone (Law process) (fun now _ => assertion now) post program disk

/-- Calls that change nothing. -/
def Inspects : Call → Prop
  | .symlinkMetadata _ => True
  | .openFile _ => True
  | .fileMetadata _ => True
  | .readToEnd _ _ => True
  | .openDirectory => True
  | .directoryMetadata => True
  | .readDirectory => True
  | .entryType _ => True
  | .processId => True
  | .sinceEpoch => True
  | _ => False

theorem Inspects.same {process : Process} {disk after : Disk} {call : Call}
    {answer : Answer call} (inspects : Inspects call) (law : Law process disk call answer after) :
    after = disk := by
  cases call with
  | symlinkMetadata path =>
      cases path with
      | parent => exact law
      | _ =>
          cases answer with
          | error kind => exact law.2
          | ok metadata => exact law.2
  | openFile name =>
      cases answer with
      | error kind => exact law.2
      | ok _ => exact law.2
  | fileMetadata name =>
      cases answer with
      | error kind => exact law
      | ok metadata => exact law.2
  | readToEnd name limit =>
      cases answer with
      | error kind => exact law
      | ok bytes => exact law.2
  | openDirectory => exact law
  | directoryMetadata =>
      cases answer with
      | error kind => exact law
      | ok metadata => exact law.2
  | readDirectory =>
      cases answer with
      | error kind => exact law
      | ok entries => exact law.2
  | entryType name =>
      cases answer with
      | error kind => exact law
      | ok fileType => exact law.2
  | processId => exact law.2
  | sinceEpoch => exact law
  | _ => exact inspects.elim

theorem keeping_inspects {process : Process} {assertion : Disk → Prop} {disk : Disk}
    (holds : assertion disk) :
    Keeping (Law process) (fun now _ => assertion now) id disk Inspects := by
  rintro world request rfl inspects
  exact ⟨holds, fun answer after law => inspects.same law⟩

section Rules

variable {α β ε δ : Type} {process : Process} {assertion : Disk → Prop} {disk : Disk}

theorem Always.mapErr {change : ε → δ} {program : ExceptT ε (Prog Storage.Answer) α}
    {post : Except δ α → Disk → Prop}
    (safe : Always process assertion (fun result after => post (result.mapError change) after)
      program.run disk) : Always process assertion post (State.mapErr change program).run disk :=
  Alone.seq safe fun _ _ known => Alone.ret_iff.mpr known

/-- Go on after calls that change nothing. -/
theorem Always.inspect {program : ExceptT ε (Prog Storage.Answer) α}
    {next : α → ExceptT ε (Prog Storage.Answer) β} {post : Except ε β → Disk → Prop}
    (holds : assertion disk) (inspects : Within Inspects (fun _ => True) program.run)
    (early : ∀ error, post (.error error) disk)
    (later : ∀ value, Always process assertion post (next value).run disk) :
    Always process assertion post (program >>= next).run disk := by
  apply Keeping.seq (keeping_inspects holds) inspects rfl
  · rintro error after rfl
    exact early error
  · rintro value after rfl
    exact later value

theorem Always.perform {request : Call} {post : Answer request → Disk → Prop}
    (holds : assertion disk)
    (answered : ∀ answer after, Law process disk request answer after → post answer after) :
    Always process assertion post (Prog.perform request) disk :=
  Alone.call_iff.mpr ⟨holds, fun answer after law => Alone.ret_iff.mpr (answered answer after law)⟩

end Rules

/-! ## Inspecting -/

namespace FileStateStore

variable {store : FileStateStore} {process : Process} {assertion : Disk → Prop} {disk : Disk}

theorem validateRegularPath_inspects (name : FileName) (description : String) :
    Within Inspects (fun _ => True) (store.validateRegularPath name description).run := by
  apply Within.run_seq (m := fun _ => True)
  · exact ⟨trivial, fun _ => trivial⟩
  · exact fun _ _ => trivial
  · exact fun _ _ => trivial

theorem validateOpenFile_inspects (name : FileName) (description : String) :
    Within Inspects (fun _ => True) (store.validateOpenFile name description).run := by
  apply Within.run_seq (m := fun _ => True)
  · exact ⟨trivial, fun _ => trivial⟩
  · exact fun _ _ => trivial
  · exact fun _ _ => trivial

theorem validateRemoval_inspects (sessionId : SessionId) :
    Within Inspects (fun _ => True) (store.validateRemoval sessionId).run := by
  apply Within.lift_seq (m := fun _ => True)
  · exact ⟨trivial, fun _ => trivial⟩
  rintro (kind | metadata) -
  · trivial
  · exact store.validateRegularPath_inspects _ _

/-- A root that exists is not created. -/
theorem ensureRoot_inspects (rooted : Rooted store.policy disk) (holds : assertion disk) :
    Always process assertion (fun _ after => after = disk) store.ensureRoot.run disk := by
  apply Alone.lift_seq (m := fun answer after => answer ≠ .error .notFound ∧ after = disk)
  · apply Always.perform holds
    rintro (kind | metadata) after law
    · refine ⟨?_, law.2⟩
      rintro ⟨⟩
      rcases rooted with ⟨metadata, exists_, -⟩
      rw [law.1 rfl] at exists_
      cases exists_
    · exact ⟨nofun, law.2⟩
  · rintro (kind | metadata) after ⟨different, rfl⟩
    · cases kind with
      | notFound => exact absurd rfl different
      | _ => exact Alone.ret_iff.mpr rfl
    · exact Alone.ret_iff.mpr rfl

/-- Whether there is a record is as the caller expects it. -/
theorem validateTargetForWrite_inspects {current : Files} {replace : Bool}
    {sessionId : SessionId} (stores : Stores store.policy disk.live current)
    (holds : assertion disk) :
    Always process assertion
      (fun result after =>
        (result = .ok () → (replace = true ↔ (current sessionId).isSome)) ∧ after = disk)
      (store.validateTargetForWrite replace sessionId).run disk := by
  apply Alone.lift_seq (m := fun answer after =>
    Law process disk (.symlinkMetadata (.entry (stateName sessionId))) answer after)
  · exact Always.perform holds fun _ _ law => law
  · rintro (kind | metadata) after law
    · obtain ⟨absent, rfl⟩ := law
      by_cases missing : kind = .notFound
      · subst missing
        have gone : current sessionId = none := by
          rw [← stores.lookup_eq_none_iff]
          exact Option.map_eq_none_iff.mp (absent rfl)
        cases replace with
        | true => exact Alone.ret_iff.mpr ⟨nofun, rfl⟩
        | false => exact Alone.ret_iff.mpr ⟨fun _ => by simp [gone], rfl⟩
      · simp only [if_neg missing]
        exact Alone.ret_iff.mpr ⟨nofun, rfl⟩
    · obtain ⟨known, rfl⟩ := law
      have there : (current sessionId).isSome := by
        rw [Option.isSome_iff_ne_none, ne_eq, ← stores.lookup_eq_none_iff]
        intro absent
        rw [Disk.metadata, absent] at known
        cases known
      cases replace with
      | false => exact Alone.ret_iff.mpr ⟨nofun, rfl⟩
      | true =>
          apply Always.mapErr
          have quiet : Always process assertion
              (Holds id after fun _ => True)
              (store.validateRegularPath (stateName sessionId)
                "session state replacement target").run after :=
            (keeping_inspects holds).holds
              ((store.validateRegularPath_inspects _ _).mono fun _ _ _ _ => trivial) rfl
          exact Safe.mono quiet fun _ _ known => ⟨fun _ => by simp [there], known.2⟩

end FileStateStore

/-! ## Updating -/

/-- An update that may be stopped: it has not happened, or it was admitted and
has happened. -/
def Attempted (policy : RuntimeStatePolicy) (current next : Files) (possible : Set Files)
    (admitted : Prop) (disk : Disk) : Prop :=
  Held policy disk current possible ∨ admitted ∧ Held policy disk next (insert next possible)

/-- A process whose files are private. -/
structure Process.Conforms (process : Process) (policy : RuntimeStatePolicy) : Prop where
  uid : process.uid = policy.ownerUid
  gid : process.gid = policy.ownerGid
  mode : (policy.fileMode &&& ~~~process.umask) &&& 0o7777 = policy.fileMode

theorem Process.Conforms.newFile {process : Process} {policy : RuntimeStatePolicy}
    (conforms : Process.Conforms process policy) :
    policy.Private (process.newFile policy.fileMode).metadata :=
  ⟨rfl, conforms.uid, conforms.gid, conforms.mode, rfl⟩

namespace FileStateStore

variable {store : FileStateStore} {process : Process} {disk : Disk} {current : Files}
  {possible : Set Files}

section Synchronising

variable {assertion : Disk → Prop}

/-- A success has synchronised the directory, and a failure has changed nothing
else. -/
theorem syncDirectory_settles (holds : assertion disk) :
    Always process assertion
      (fun result after => (result = .ok () → after = disk.syncEntries) ∧
        (after = disk ∨ after = disk.syncEntries))
      store.syncDirectory.run disk := by
  apply Always.inspect holds
  · exact ⟨trivial, fun _ => trivial⟩
  · exact fun _ => ⟨nofun, .inl rfl⟩
  rintro ⟨⟩
  apply Always.inspect holds
  · exact ⟨trivial, fun _ => trivial⟩
  · exact fun _ => ⟨nofun, .inl rfl⟩
  intro metadata
  apply Always.inspect holds
  · trivial
  · exact fun _ => ⟨nofun, .inl rfl⟩
  rintro ⟨⟩
  apply Always.perform holds
  rintro (kind | ⟨⟩) after law
  · exact ⟨nofun, .inl law⟩
  · exact ⟨fun _ => law, .inr law⟩

end Synchronising

section Writing

variable {record : SessionRecord} {replace : Bool} {bytes : Bytes} {temporary : FileName}

/-- A record may be written when there is one exactly if one is replaced. -/
def Admits (current : Files) (record : SessionRecord) (replace : Bool) : Prop :=
  (replace = true ↔ (current record.sessionId).isSome) ∧ ∃ bytes, record.encode = .ok bytes

/-- The records once one has been written. -/
def written (current : Files) (record : SessionRecord) : Files :=
  Function.update current record.sessionId (some record)

/-- The file that is renamed to the state file. -/
def Staged (policy : RuntimeStatePolicy) (record : SessionRecord) (temporary : FileName)
    (disk : Disk) : Prop :=
  ∃ node, disk.live.lookup temporary = some node ∧ Keeps policy record.sessionId node record

theorem lookup_write {content : Bytes} {node : Node}
    (found : disk.live.lookup temporary = some node) :
    (disk.write temporary content).live.lookup temporary =
      some { node with content, synced := false } := by
  rw [Disk.write, Directory.lookup_adjust_self, found]
  rfl

theorem lookup_sync {node : Node} (found : disk.live.lookup temporary = some node) :
    (disk.sync temporary).live.lookup temporary = some { node with synced := true } := by
  rw [Disk.sync, Directory.lookup_adjust_self, found]
  rfl

/-- The rename has taken effect. -/
theorem Staged.renamed (staged : Staged store.policy record temporary disk)
    (skipped : Skipped temporary) (held : Held store.policy disk current possible) :
    Held store.policy (disk.change (Directory.rename temporary (stateName record.sessionId)))
      (written current record) (insert (written current record) possible) := by
  rcases staged with ⟨node, found, keeps⟩
  exact held.change (held.live.rename skipped found keeps)

/-- What a write has done when it has not failed before the directory is
synchronised. -/
def Renames (store : FileStateStore) (current : Files) (possible : Set Files)
    (record : SessionRecord) (replace : Bool) (result : Except IoErrorKind Unit) (disk : Disk) :
    Prop :=
  match result with
  | .ok () => Admits current record replace ∧
      Held store.policy disk (written current record) (insert (written current record) possible)
  | .error _ => Attempted store.policy current (written current record) possible
      (Admits current record replace) disk

/-- The last checks and the rename of a finished temporary file. -/
theorem rename_attempts (skipped : Skipped temporary) (encoded : record.encode = .ok bytes)
    (held : Held store.policy disk current possible)
    (staged : Staged store.policy record temporary disk) :
    Always process
      (Attempted store.policy current (written current record) possible
        (Admits current record replace))
      (store.Renames current possible record replace)
      (do
        permitted store.ensureRoot
        permitted (store.validateTargetForWrite replace record.sessionId)
        io (Prog.perform (Call.rename temporary (stateName record.sessionId))) : Io Unit).run
      disk := by
  apply Alone.run_seq (m := fun _ after => after = disk)
  · exact Always.mapErr (ensureRoot_inspects held.rooted (.inl held))
  · rintro _ after rfl
    exact .inl held
  rintro _ disk rfl
  apply Alone.run_seq (m := fun result after => (result = .ok () →
    (replace = true ↔ (current record.sessionId).isSome)) ∧ after = disk)
  · apply Always.mapErr
    apply Safe.mono (validateTargetForWrite_inspects held.live (.inl held))
    rintro (error | ⟨⟩) after ⟨admits, rfl⟩
    · exact ⟨nofun, rfl⟩
    · exact ⟨fun _ => admits rfl, rfl⟩
  · rintro _ after ⟨-, rfl⟩
    exact .inl held
  rintro _ after ⟨presence, rfl⟩
  have admits : Admits current record replace := ⟨presence rfl, bytes, encoded⟩
  apply Always.perform (.inl held)
  rintro (kind | ⟨⟩) after law
  · rcases law with rfl | ⟨-, rfl⟩
    · exact .inl held
    · exact .inr ⟨admits, staged.renamed skipped held⟩
  · obtain ⟨-, rfl⟩ := law
    exact ⟨admits, staged.renamed skipped held⟩

theorem fillTemporary_attempts (skipped : Skipped temporary) (checked : record.Checked)
    (encoded : record.encode = .ok bytes) (held : Held store.policy disk current possible)
    {node : Node} (found : disk.live.lookup temporary = some node)
    (owned : store.policy.Private node.metadata) :
    Always process
      (Attempted store.policy current (written current record) possible
        (Admits current record replace))
      (store.Renames current possible record replace)
      (store.fillTemporary record.sessionId temporary bytes replace).run disk := by
  apply Always.inspect (.inl held)
  · exact (store.validateOpenFile_inspects temporary _).seq fun _ _ => trivial
  · exact fun _ => .inl held
  rintro ⟨⟩
  apply Alone.run_seq (m := fun result after => Held store.policy after current possible ∧
    (result = .ok () → after = disk.write temporary bytes))
  · apply Always.perform (.inl held)
    rintro (kind | ⟨⟩) after law
    · rcases law with ⟨part, -, rfl⟩
      exact ⟨held.write skipped part, nofun⟩
    · subst law
      exact ⟨held.write skipped bytes, fun _ => rfl⟩
  · exact fun _ after known => .inl known.1
  rintro _ after ⟨held, full⟩
  obtain rfl := full rfl
  apply Alone.run_seq (m := fun result after => Held store.policy after current possible ∧
    (result = .ok () → after = (disk.write temporary bytes).sync temporary))
  · apply Always.perform (.inl held)
    rintro (kind | ⟨⟩) after law
    · subst law
      exact ⟨held, nofun⟩
    · subst law
      exact ⟨held.sync skipped, fun _ => rfl⟩
  · exact fun _ after known => .inl known.1
  rintro _ after ⟨held, full⟩
  obtain rfl := full rfl
  have staged : Staged store.policy record temporary
      ((disk.write temporary bytes).sync temporary) :=
    ⟨_, lookup_sync (lookup_write found), owned, rfl, encoded, checked, rfl⟩
  exact rename_attempts skipped encoded held staged

/-- The checks and the synchronisation after the rename. -/
theorem settleTarget_settles {assertion : Disk → Prop} {sessionId : SessionId}
    (holds : assertion disk) :
    Always process assertion
      (fun result after => (result = .ok () → after = disk.syncEntries) ∧
        (after = disk ∨ after = disk.syncEntries))
      (store.settleTarget sessionId).run disk := by
  apply Always.inspect holds
  · exact (store.validateRegularPath_inspects _ _).seq fun _ _ => trivial
  · exact fun _ => ⟨nofun, .inl rfl⟩
  rintro ⟨⟩
  exact syncDirectory_settles holds

/-- What is known of an update once it has returned. -/
structure Concludes (policy : RuntimeStatePolicy) (current next : Files) (possible : Set Files)
    (admitted : Prop) {ε : Type} (result : Except ε Unit) (disk : Disk) : Prop where
  done : result = .ok () → admitted ∧ Held policy disk next {next}
  attempted : Attempted policy current next possible admitted disk

theorem writeResult_concludes (skipped : Skipped temporary) (checked : record.Checked)
    (encoded : record.encode = .ok bytes) (conforms : Process.Conforms process store.policy)
    (held : Held store.policy disk current possible) :
    Always process
      (Attempted store.policy current (written current record) possible
        (Admits current record replace))
      (Concludes store.policy current (written current record) possible
        (Admits current record replace))
      (store.writeResult record.sessionId temporary bytes replace).run disk := by
  have made : Held store.policy (disk.change (·.insert temporary
      (process.newFile store.policy.fileMode))) current possible :=
    held.tidy (held.live.insert skipped conforms.newFile)
  apply Alone.run_seq (m := fun result after => Held store.policy after current possible ∧
    (result = .ok () →
      after = disk.change (·.insert temporary (process.newFile store.policy.fileMode))))
  · apply Always.perform (.inl held)
    rintro (kind | ⟨⟩) after law
    · rcases law with rfl | ⟨-, rfl⟩
      · exact ⟨held, nofun⟩
      · exact ⟨made, nofun⟩
    · obtain ⟨-, rfl⟩ := law
      exact ⟨made, fun _ => rfl⟩
  · exact fun _ after known => ⟨nofun, .inl known.1⟩
  rintro _ after ⟨-, same⟩
  obtain rfl := same rfl
  have found : (disk.change (·.insert temporary
      (process.newFile store.policy.fileMode))).live.lookup temporary =
      some (process.newFile store.policy.fileMode) :=
    AList.lookup_insert disk.live
  apply Alone.lift_seq
    (fillTemporary_attempts skipped checked encoded made found conforms.newFile)
  rintro (kind | ⟨⟩) after known
  · apply Alone.lift_seq (m := fun _ after =>
      Attempted store.policy current (written current record) possible
        (Admits current record replace) after)
    · apply Always.perform known
      intro answer final law
      have either : final = after ∨ final = after.change (AList.erase temporary) := by
        cases answer with
        | error kind => exact law.2
        | ok _ => exact .inr law.2
      rcases either with rfl | rfl
      · exact known
      · rcases known with held | ⟨admits, held⟩
        · exact .inl (held.tidy (held.live.erase skipped))
        · exact .inr ⟨admits, held.tidy (held.live.erase skipped)⟩
    · exact fun _ after known => Alone.ret_iff.mpr ⟨nofun, known⟩
  · obtain ⟨admits, held⟩ := known
    apply Safe.mono (settleTarget_settles (.inr ⟨admits, held⟩))
    rintro result final ⟨done, either⟩
    constructor
    · intro ok
      rw [done ok]
      exact ⟨admits, held.syncEntries⟩
    · rcases either with rfl | rfl
      · exact .inr ⟨admits, held⟩
      · exact .inr ⟨admits, held.syncEntries.mono (by simp)⟩

theorem temporaryPath_skipped {assertion : Disk → Prop} {sessionId : SessionId}
    (holds : assertion disk) :
    Always process assertion (fun name after => Skipped name ∧ after = disk)
      (temporaryPath sessionId) disk := by
  apply Alone.perform_bind_iff.mpr
  refine ⟨holds, ?_⟩
  rintro _ after ⟨rfl, rfl⟩
  apply Alone.perform_bind_iff.mpr
  refine ⟨holds, ?_⟩
  rintro tick after rfl
  exact Alone.ret_iff.mpr ⟨.temporary sessionId _ process.pid_ne_zero, rfl⟩

/-- A write that is stopped has happened or not, and one that has returned without
an error has happened for good. -/
theorem writeAtomic_concludes (conforms : Process.Conforms process store.policy)
    (checked : record.Checked) (held : Held store.policy disk current possible) :
    Always process
      (Attempted store.policy current (written current record) possible
        (Admits current record replace))
      (Concludes store.policy current (written current record) possible
        (Admits current record replace))
      (store.writeAtomic record replace).run disk := by
  apply Alone.run_seq (m := fun _ after => after = disk)
  · exact ensureRoot_inspects held.rooted (.inl held)
  · rintro _ after rfl
    exact ⟨nofun, .inl held⟩
  rintro _ disk rfl
  apply Alone.run_seq (m := fun _ after => after = disk)
  · exact Safe.mono (validateTargetForWrite_inspects held.live (.inl held)) fun _ _ known =>
      known.2
  · rintro _ after rfl
    exact ⟨nofun, .inl held⟩
  rintro _ disk rfl
  cases encoded : record.encode with
  | error error => exact Alone.ret_iff.mpr ⟨nofun, .inl held⟩
  | ok bytes =>
      apply Alone.lift_seq (temporaryPath_skipped (.inl held))
      rintro temporary after ⟨skipped, rfl⟩
      apply Always.mapErr
      apply Safe.mono (writeResult_concludes skipped checked encoded conforms held)
      rintro (kind | ⟨⟩) after known
      · exact ⟨nofun, known.attempted⟩
      · exact ⟨fun _ => known.done rfl, known.attempted⟩

end Writing

/-! ## Removing -/

section Removing

variable {sessionId : SessionId}

/-- The records once one has been removed. -/
def removed (current : Files) (sessionId : SessionId) : Files :=
  Function.update current sessionId none

theorem removed_of_none (absent : current sessionId = none) : removed current sessionId = current := by
  rw [removed, ← absent, Function.update_eq_self]

/-- A removal may find that there is nothing to remove; it synchronises nothing
then. -/
theorem remove_concludes (held : Held store.policy disk current possible) :
    Always process (Attempted store.policy current (removed current sessionId) possible True)
      (fun result after =>
        (result = .ok () → Held store.policy after (removed current sessionId)
            {removed current sessionId} ∨
          current sessionId = none ∧ Held store.policy after current possible) ∧
        Attempted store.policy current (removed current sessionId) possible True after)
      (store.remove sessionId).run disk := by
  apply Alone.run_seq (m := fun _ after => after = disk)
  · exact ensureRoot_inspects held.rooted (.inl held)
  · rintro _ after rfl
    exact ⟨nofun, .inl held⟩
  rintro _ disk rfl
  apply Always.inspect (.inl held) (store.validateRemoval_inspects sessionId)
  · exact fun _ => ⟨nofun, .inl held⟩
  rintro ⟨⟩
  have gone : Held store.policy (disk.change (AList.erase (stateName sessionId)))
      (removed current sessionId) (insert (removed current sessionId) possible) :=
    held.change (held.live.remove sessionId)
  apply Alone.lift_seq (m := fun answer after =>
    Law process disk (.removeFile (stateName sessionId)) answer after)
  · exact Always.perform (.inl held) fun _ _ law => law
  rintro (kind | ⟨⟩) after law
  · obtain ⟨absent, either⟩ := law
    have attempted : Attempted store.policy current (removed current sessionId) possible True
        after := by
      rcases either with rfl | rfl
      · exact .inl held
      · exact .inr ⟨trivial, gone⟩
    by_cases missing : kind = .notFound
    · subst missing
      have none : current sessionId = none := by
        rw [← held.live.lookup_eq_none_iff]
        exact Option.map_eq_none_iff.mp (absent rfl)
      refine Alone.ret_iff.mpr ⟨fun _ => .inr ⟨none, ?_⟩, attempted⟩
      rcases either with rfl | rfl
      · exact held
      · rw [removed_of_none none] at gone
        exact gone.mono (Set.insert_subset held.now (Set.Subset.refl possible))
    · simp only [if_neg missing]
      exact Alone.ret_iff.mpr ⟨nofun, attempted⟩
  · obtain ⟨-, rfl⟩ := law
    apply Always.mapErr
    apply Safe.mono (syncDirectory_settles (.inr ⟨trivial, gone⟩))
    rintro result final ⟨done, either⟩
    constructor
    · intro ok
      left
      cases result with
      | error kind => cases ok
      | ok _ =>
          rw [done rfl]
          exact gone.syncEntries
    · rcases either with rfl | rfl
      · exact .inr ⟨trivial, gone⟩
      · exact .inr ⟨trivial, gone.syncEntries.mono (by simp)⟩

end Removing

end FileStateStore

end Sysboost.State
