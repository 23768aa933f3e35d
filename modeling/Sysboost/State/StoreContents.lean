import Sysboost.State.FileStateStore

/-!
# What a directory stores

The state root holds a file for each record, and beside these the lock file and
temporary files, which a reader skips.  Such a directory stores one map from
sessions to records.  Of the steps of a write only the rename changes that map.
-/

namespace Storage

open ByteCodec

namespace Directory

variable {directory : Directory} {name other : FileName}

theorem lookup_adjust_of_ne {change : Node → Node} (different : other ≠ name) :
    (directory.adjust name change).lookup other = directory.lookup other := by
  unfold adjust
  cases directory.lookup name with
  | none => rfl
  | some node => exact AList.lookup_insert_ne different

theorem lookup_adjust_self {change : Node → Node} :
    (directory.adjust name change).lookup name = (directory.lookup name).map change := by
  unfold adjust
  cases found : directory.lookup name with
  | none => exact found
  | some node => exact AList.lookup_insert directory

end Directory

end Storage

namespace Sysboost.State

open Sysboost.Core ByteCodec Storage

/-! ## Private files -/

/-- A regular file that only its owner can use. -/
structure RuntimeStatePolicy.Private (policy : RuntimeStatePolicy) (metadata : Metadata) :
    Prop where
  fileType : metadata.fileType = .file
  uid : metadata.uid = policy.ownerUid
  gid : metadata.gid = policy.ownerGid
  mode : metadata.mode &&& 0o7777 = policy.fileMode
  nlink : metadata.nlink = 1

/-- A directory that only its owner can use. -/
structure RuntimeStatePolicy.PrivateRoot (policy : RuntimeStatePolicy) (metadata : Metadata) :
    Prop where
  fileType : metadata.fileType = .directory
  uid : metadata.uid = policy.ownerUid
  gid : metadata.gid = policy.ownerGid
  mode : metadata.mode &&& 0o7777 = policy.directoryMode

section Validation

variable {metadata : Metadata} {policy : RuntimeStatePolicy} {description : String}

theorem validateRegularFile_eq_ok_iff :
    validateRegularFile metadata policy description = .ok () ↔ policy.Private metadata := by
  unfold validateRegularFile validateRegularMetadata
  constructor
  · intro valid
    by_cases fileType : metadata.fileType = .file
    · by_cases owner : metadata.uid ≠ policy.ownerUid ∨ metadata.gid ≠ policy.ownerGid
      · simp [fileType, owner] at valid
      · by_cases mode : metadata.mode &&& 0o7777 = policy.fileMode
        · by_cases links : metadata.nlink = 1
          · push Not at owner
            exact ⟨fileType, owner.1, owner.2, mode, links⟩
          · simp [fileType, owner, mode, links] at valid
        · simp [fileType, owner, mode] at valid
    · simp [fileType] at valid
  · rintro ⟨fileType, uid, gid, mode, links⟩
    simp [fileType, uid, gid, mode, links]

theorem validateDirectoryMetadata_eq_ok_iff :
    validateDirectoryMetadata metadata policy description = .ok () ↔
      policy.PrivateRoot metadata := by
  unfold validateDirectoryMetadata
  constructor
  · intro valid
    by_cases fileType : metadata.fileType = .directory
    · by_cases owner : metadata.uid ≠ policy.ownerUid ∨ metadata.gid ≠ policy.ownerGid
      · simp [fileType, owner] at valid
      · by_cases mode : metadata.mode &&& 0o7777 = policy.directoryMode
        · push Not at owner
          exact ⟨fileType, owner.1, owner.2, mode⟩
        · simp [fileType, owner, mode] at valid
    · simp [fileType] at valid
  · rintro ⟨fileType, uid, gid, mode⟩
    simp [fileType, uid, gid, mode]

end Validation

/-! ## The map of a directory -/

/-- The record of every session that has one. -/
abbrev Files := SessionId → Option SessionRecord

/-- The names that a reader of the directory skips. -/
inductive Skipped : FileName → Prop
  | lock : Skipped lockName
  | temporary (sessionId : SessionId) {pid : UInt32} (tick : BitVec 128) (nonzero : pid ≠ 0) :
      Skipped (temporaryName sessionId pid tick)

theorem Skipped.ne_stateName {name : FileName} (skipped : Skipped name) (sessionId : SessionId) :
    stateName sessionId ≠ name := by
  cases skipped with
  | lock => exact stateName_ne_lockName sessionId
  | temporary other tick nonzero => exact stateName_ne_temporaryName sessionId _ tick other

/-- The complete file of a record. -/
structure Keeps (policy : RuntimeStatePolicy) (sessionId : SessionId) (node : Node)
    (record : SessionRecord) : Prop where
  metadata : policy.Private node.metadata
  synced : node.synced = true
  encoded : record.encode = .ok node.content
  checked : record.Checked
  own : record.sessionId = sessionId

theorem Keeps.decode {policy : RuntimeStatePolicy} {sessionId : SessionId} {node : Node}
    {record : SessionRecord} (keeps : Keeps policy sessionId node record) :
    SessionRecord.decode node.content = .ok record :=
  SessionRecord.decode_of_encode keeps.checked keeps.encoded

theorem Keeps.length_le {policy : RuntimeStatePolicy} {sessionId : SessionId} {node : Node}
    {record : SessionRecord} (keeps : Keeps policy sessionId node record) :
    node.content.length ≤ maxSessionRecordBytes := by
  rcases SessionRecord.encode_eq_ok_iff.mp keeps.encoded with ⟨-, payload, -, small, framed⟩
  rw [framed, frame_length]
  exact small

/-- The directory holds the files of these records, and files to skip. -/
structure Stores (policy : RuntimeStatePolicy) (directory : Directory) (files : Files) :
    Prop where
  records : ∀ sessionId, Option.Rel (Keeps policy sessionId)
    (directory.lookup (stateName sessionId)) (files sessionId)
  others : ∀ name node, directory.lookup name = some node →
    (∃ sessionId, name = stateName sessionId) ∨ Skipped name ∧ policy.Private node.metadata

namespace Stores

variable {policy : RuntimeStatePolicy} {directory : Directory} {files : Files}

theorem empty (policy : RuntimeStatePolicy) : Stores policy ∅ fun _ => none where
  records _ := .none
  others _ _ found := by cases found

/-- What a session's file holds. -/
theorem lookup_of_some (stores : Stores policy directory files) {sessionId : SessionId}
    {record : SessionRecord} (stored : files sessionId = some record) :
    ∃ node, directory.lookup (stateName sessionId) = some node ∧
      Keeps policy sessionId node record := by
  have related := stores.records sessionId
  rw [stored] at related
  cases found : directory.lookup (stateName sessionId) with
  | none =>
      rw [found] at related
      cases related
  | some node =>
      rw [found] at related
      exact ⟨node, rfl, Option.rel_some_some.mp related⟩

theorem exists_of_lookup (stores : Stores policy directory files) {sessionId : SessionId}
    {node : Node} (found : directory.lookup (stateName sessionId) = some node) :
    ∃ record, files sessionId = some record ∧ Keeps policy sessionId node record := by
  have related := stores.records sessionId
  rw [found] at related
  cases stored : files sessionId with
  | none =>
      rw [stored] at related
      cases related
  | some record =>
      rw [stored] at related
      exact ⟨record, rfl, Option.rel_some_some.mp related⟩

theorem lookup_eq_none_iff (stores : Stores policy directory files) {sessionId : SessionId} :
    directory.lookup (stateName sessionId) = none ↔ files sessionId = none := by
  constructor
  · intro absent
    cases stored : files sessionId with
    | none => rfl
    | some record =>
        obtain ⟨node, found, -⟩ := stores.lookup_of_some stored
        rw [absent] at found
        cases found
  · intro absent
    cases found : directory.lookup (stateName sessionId) with
    | none => rfl
    | some node =>
        obtain ⟨record, stored, -⟩ := stores.exists_of_lookup found
        rw [absent] at stored
        cases stored

/-- A record is stored under its own session. -/
theorem own (stores : Stores policy directory files) {sessionId : SessionId}
    {record : SessionRecord} (stored : files sessionId = some record) :
    record.sessionId = sessionId := by
  rcases stores.lookup_of_some stored with ⟨node, -, keeps⟩
  exact keeps.own

/-- A directory stores one map only. -/
theorem unique {other : Files} (stores : Stores policy directory files)
    (stores' : Stores policy directory other) : files = other := by
  funext sessionId
  cases found : directory.lookup (stateName sessionId) with
  | none => rw [stores.lookup_eq_none_iff.mp found, stores'.lookup_eq_none_iff.mp found]
  | some node =>
      obtain ⟨record, stored, keeps⟩ := stores.exists_of_lookup found
      obtain ⟨record', stored', keeps'⟩ := stores'.exists_of_lookup found
      have same : record = record' :=
        Except.ok.inj (keeps.decode.symm.trans keeps'.decode)
      rw [stored, stored', same]

/-! ### Steps -/

/-- Only names to skip are touched. -/
theorem skip {after : Directory} (stores : Stores policy directory files)
    (same : ∀ name, ¬Skipped name → after.lookup name = directory.lookup name)
    (owned : ∀ name node, Skipped name → after.lookup name = some node →
      policy.Private node.metadata) : Stores policy after files where
  records sessionId := by
    rw [same _ fun skipped => skipped.ne_stateName sessionId rfl]
    exact stores.records sessionId
  others name node found := by
    by_cases skipped : Skipped name
    · exact .inr ⟨skipped, owned name node skipped found⟩
    · rw [same name skipped] at found
      exact stores.others name node found

theorem metadata_of_skipped (stores : Stores policy directory files) {name : FileName}
    (skipped : Skipped name) {node : Node} (found : directory.lookup name = some node) :
    policy.Private node.metadata := by
  rcases stores.others name node found with ⟨sessionId, rfl⟩ | ⟨-, owned⟩
  · exact absurd rfl (skipped.ne_stateName sessionId)
  · exact owned

theorem insert (stores : Stores policy directory files) {name : FileName}
    (skipped : Skipped name) {node : Node} (owned : policy.Private node.metadata) :
    Stores policy (AList.insert name node directory) files := by
  apply stores.skip
  · intro other kept
    exact AList.lookup_insert_ne fun same => kept (same ▸ skipped)
  · intro other found skipped' known
    by_cases same : other = name
    · subst same
      rw [AList.lookup_insert] at known
      obtain ⟨⟩ := known
      exact owned
    · rw [AList.lookup_insert_ne same] at known
      exact stores.metadata_of_skipped skipped' known

theorem erase (stores : Stores policy directory files) {name : FileName}
    (skipped : Skipped name) : Stores policy (AList.erase name directory) files := by
  apply stores.skip
  · intro other kept
    exact AList.lookup_erase_ne fun same => kept (same ▸ skipped)
  · intro other node skipped' known
    by_cases same : other = name
    · subst same
      rw [AList.lookup_erase] at known
      cases known
    · rw [AList.lookup_erase_ne same] at known
      exact stores.metadata_of_skipped skipped' known

theorem adjust (stores : Stores policy directory files) {name : FileName}
    (skipped : Skipped name) {change : Node → Node}
    (keeps : ∀ node, (change node).metadata = node.metadata) :
    Stores policy (directory.adjust name change) files := by
  apply stores.skip
  · intro other kept
    exact Directory.lookup_adjust_of_ne fun same => kept (same ▸ skipped)
  · intro other node skipped' known
    by_cases same : other = name
    · subst same
      rw [Directory.lookup_adjust_self, Option.map_eq_some_iff] at known
      obtain ⟨old, known, rfl⟩ := known
      rw [keeps]
      exact stores.metadata_of_skipped skipped' known
    · rw [Directory.lookup_adjust_of_ne same] at known
      exact stores.metadata_of_skipped skipped' known

/-- The file of a session is replaced or made. -/
theorem put (stores : Stores policy directory files) {sessionId : SessionId} {node : Node}
    {record : SessionRecord} (keeps : Keeps policy sessionId node record) :
    Stores policy (AList.insert (stateName sessionId) node directory)
      (Function.update files sessionId (some record)) where
  records other := by
    by_cases same : other = sessionId
    · subst same
      rw [AList.lookup_insert, Function.update_self]
      exact .some keeps
    · rw [AList.lookup_insert_ne fun names => same (stateName_injective names),
        Function.update_of_ne same]
      exact stores.records other
  others name found known := by
    by_cases same : name = stateName sessionId
    · exact .inl ⟨sessionId, same⟩
    · rw [AList.lookup_insert_ne same] at known
      exact stores.others name found known

/-- The file of a session is removed. -/
theorem remove (stores : Stores policy directory files) (sessionId : SessionId) :
    Stores policy (AList.erase (stateName sessionId) directory)
      (Function.update files sessionId none) where
  records other := by
    by_cases same : other = sessionId
    · subst same
      rw [AList.lookup_erase, Function.update_self]
      exact .none
    · rw [AList.lookup_erase_ne fun names => same (stateName_injective names),
        Function.update_of_ne same]
      exact stores.records other
  others name found known := by
    by_cases same : name = stateName sessionId
    · exact .inl ⟨sessionId, same⟩
    · rw [AList.lookup_erase_ne same] at known
      exact stores.others name found known

/-- A finished temporary file takes the place of a state file. -/
theorem rename (stores : Stores policy directory files) {name : FileName}
    (skipped : Skipped name) {sessionId : SessionId} {node : Node} {record : SessionRecord}
    (found : directory.lookup name = some node) (keeps : Keeps policy sessionId node record) :
    Stores policy (directory.rename name (stateName sessionId))
      (Function.update files sessionId (some record)) := by
  rw [Directory.rename, found]
  exact (stores.erase skipped).put keeps

/-- Records survive a failure of the power: their files have been synchronised. -/
theorem settle {after : Directory} (stores : Stores policy directory files)
    (settles : directory.Settles after) : Stores policy after files where
  records sessionId := by
    have related := settles (stateName sessionId)
    cases found : directory.lookup (stateName sessionId) with
    | none =>
        rw [found] at related
        rw [stores.lookup_eq_none_iff.mp found]
        cases known : after.lookup (stateName sessionId) with
        | none => exact .none
        | some node =>
            rw [known] at related
            cases related
    | some node =>
        obtain ⟨record, stored, keeps⟩ := stores.exists_of_lookup found
        rw [found] at related
        rw [stored]
        cases known : after.lookup (stateName sessionId) with
        | none =>
            rw [known] at related
            cases related
        | some left =>
            rw [known] at related
            obtain ⟨metadata, content, synced⟩ := Option.rel_some_some.mp related
            refine .some ⟨metadata ▸ keeps.metadata, synced, ?_, keeps.checked, keeps.own⟩
            rw [content keeps.synced]
            exact keeps.encoded
  others name node known := by
    have related := settles name
    rw [known] at related
    cases found : directory.lookup name with
    | none =>
        rw [found] at related
        cases related
    | some old =>
        rw [found] at related
        have same := (Option.rel_some_some.mp related).metadata
        rcases stores.others name old found with own | ⟨skipped, owned⟩
        · exact .inl own
        · exact .inr ⟨skipped, same ▸ owned⟩

end Stores

end Sysboost.State
