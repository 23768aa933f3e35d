import Sysboost.State.StoreWriting
import Sysboost.Storage.Healthy

/-!
# Reading from the store

Whatever a reader returns is what the directory stores.  Where no call fails the
reader does return: a state file is complete, and the lock file and temporary
files that are left behind are recognised and skipped.
-/

namespace Sysboost.State

open Sysboost.Core ByteCodec Interaction Storage

namespace FileStateStore

variable {store : FileStateStore} {process : Process} {assertion : Disk → Prop} {disk : Disk}
  {current : Files}

/-! ## One file -/

section File

variable {name : FileName} {sessionId : SessionId}

/-- The whole content of the file is read. -/
theorem readVerifiedFile_reads {maximum : Nat} (holds : assertion disk) :
    Always process assertion
      (fun result after => (∀ bytes, result = .ok bytes →
        ∃ node, disk.live.lookup name = some node ∧ node.content = bytes) ∧ after = disk)
      (store.readVerifiedFile name maximum).run disk := by
  apply Always.inspect holds
  · exact ⟨trivial, fun _ => trivial⟩
  · exact fun _ => ⟨nofun, rfl⟩
  rintro ⟨⟩
  apply Always.inspect holds (store.validateOpenFile_inspects name "runtime state file")
  · exact fun _ => ⟨nofun, rfl⟩
  rintro ⟨⟩
  apply Alone.run_seq (m := fun result after => (∀ bytes, result = .ok bytes →
    (disk.live.lookup name).map (fun node => node.content.take (maximum + 1)) = some bytes) ∧
      after = disk)
  · apply Always.mapErr
    apply Always.perform holds
    rintro (kind | bytes) after law
    · exact ⟨nofun, law⟩
    · refine ⟨?_, law.2⟩
      rintro _ ⟨⟩
      exact law.1
  · exact fun _ after known => ⟨nofun, known.2⟩
  rintro bytes after ⟨read, rfl⟩
  by_cases large : bytes.length > maximum
  · simp only [if_pos large]
    exact Alone.ret_iff.mpr ⟨nofun, rfl⟩
  · simp only [if_neg large]
    refine Alone.ret_iff.mpr ⟨?_, rfl⟩
    rintro _ ⟨⟩
    rcases Option.map_eq_some_iff.mp (read bytes rfl) with ⟨node, found, rfl⟩
    refine ⟨node, found, (List.take_of_length_le ?_).symm⟩
    rw [List.length_take] at large
    omega

theorem loadPath_reads (holds : assertion disk) :
    Always process assertion
      (fun result after => (∀ record, result = .ok record →
        ∃ node, disk.live.lookup name = some node ∧
          SessionRecord.decode node.content = .ok record ∧ record.sessionId = sessionId) ∧
        after = disk)
      (store.loadPath name sessionId).run disk := by
  apply Alone.run_seq (readVerifiedFile_reads holds)
  · exact fun _ after known => ⟨nofun, known.2⟩
  rintro bytes after ⟨read, rfl⟩
  rcases read bytes rfl with ⟨node, found, rfl⟩
  cases decoded : SessionRecord.decode node.content with
  | error error => exact Alone.ret_iff.mpr ⟨nofun, rfl⟩
  | ok record =>
      by_cases other : record.sessionId ≠ sessionId
      · change Alone _ _ _ (ExceptT.run (if record.sessionId ≠ sessionId then _ else _)) _
        rw [if_pos other]
        exact Alone.ret_iff.mpr ⟨nofun, rfl⟩
      · change Alone _ _ _ (ExceptT.run (if record.sessionId ≠ sessionId then _ else _)) _
        rw [if_neg other]
        refine Alone.ret_iff.mpr ⟨?_, rfl⟩
        rintro _ ⟨⟩
        exact ⟨node, found, decoded, not_not.mp other⟩

/-- What is read from a session's file is its record. -/
theorem loadPath_finds (stores : Stores store.policy disk.live current)
    (holds : assertion disk) :
    Always process assertion
      (fun result after => (∀ record, result = .ok record → current sessionId = some record) ∧
        after = disk)
      (store.loadPath (stateName sessionId) sessionId).run disk := by
  apply Safe.mono (loadPath_reads holds)
  rintro result after ⟨read, same⟩
  refine ⟨?_, same⟩
  intro record ok
  rcases read record ok with ⟨node, found, decoded, -⟩
  rcases stores.exists_of_lookup found with ⟨record', stored, keeps⟩
  rw [stored]
  exact congrArg some (Except.ok.inj (keeps.decode.symm.trans decoded))

theorem load_finds (rooted : Rooted store.policy disk)
    (stores : Stores store.policy disk.live current) (holds : assertion disk) :
    Always process assertion
      (fun result after => (∀ record, result = .ok record → current sessionId = some record) ∧
        after = disk)
      (store.load sessionId).run disk := by
  apply Alone.run_seq (ensureRoot_inspects rooted holds)
  · exact fun _ after same => ⟨nofun, same⟩
  rintro _ disk rfl
  exact loadPath_finds stores holds

end File

/-! ## One entry -/

section Entry

variable {fileType : FileType}

theorem validateEntryMetadata_inspects (name : FileName) (description : String) :
    Within Inspects (fun _ => True)
      (store.validateEntryMetadata name fileType description).run := by
  unfold validateEntryMetadata
  split
  · trivial
  · exact store.validateRegularPath_inspects name description

theorem temporaryName_head (sessionId : SessionId) (pid : UInt32) (tick : BitVec 128) :
    (temporaryName sessionId pid tick).head? = some 46 :=
  rfl

theorem lockName_not_temporary : ¬temporaryMark <:+: lockName := by
  decide

theorem stateName_head_ne (sessionId : SessionId) : (stateName sessionId).head? ≠ some 46 := by
  rcases stateName_head sessionId with ⟨digit, rest, name, different⟩
  rw [name]
  intro same
  exact different (Option.some.inj same)

/-- A state file is read. -/
theorem readEntry_stateName (sessionId : SessionId) :
    store.readEntry (stateName sessionId) fileType =
      if fileType ≠ .file then
        throw (.new .journalCorrupt "session state entry is not a regular file")
      else some <$> store.loadPath (stateName sessionId) sessionId := by
  have suffix : stateSuffix <:+ stateName sessionId := ⟨sessionId.toHex, rfl⟩
  by_cases kind : fileType = .file
  · simp only [readEntry, isUtf8_stateName, stateName_ne_lockName, stateName_head_ne,
      trimEndMatches_stateName, SessionId.fromStr_toHex, suffix, kind]
    simp only [Bool.not_true, Bool.false_eq_true, if_false, false_and, not_true_eq_false, ne_eq]
    rfl
  · simp [readEntry, isUtf8_stateName, stateName_ne_lockName, stateName_head_ne, suffix, kind]

variable (store fileType) in
/-- The lock file and temporary files are skipped. -/
theorem readEntry_skipped {name : FileName} (skipped : Skipped name) :
    ∃ description, store.readEntry name fileType =
      (do
        store.validateEntryMetadata name fileType description
        return none) := by
  cases skipped with
  | lock =>
      refine ⟨"lock file", ?_⟩
      simp [readEntry, isUtf8_lockName]
  | @temporary sessionId pid tick nonzero =>
      refine ⟨"temporary state file", ?_⟩
      have other : temporaryName sessionId pid tick ≠ lockName := by
        intro same
        exact lockName_not_temporary (same ▸ temporaryMark_infix_temporaryName sessionId pid tick)
      simp [readEntry, isUtf8_temporaryName, other, temporaryName_head,
        temporaryMark_infix_temporaryName, isValidTemporaryName_temporaryName, nonzero]

/-- What an entry of the directory has to show. -/
def Shows (current : Files) (name : FileName) (found : Option SessionRecord) : Prop :=
  (∃ sessionId, name = stateName sessionId ∧ found = current sessionId) ∨
    Skipped name ∧ found = none

theorem readEntry_finds {name : FileName} {node : Node}
    (stores : Stores store.policy disk.live current) (holds : assertion disk)
    (listed : disk.live.lookup name = some node) :
    Always process assertion
      (fun result after => (∀ found, result = .ok found → Shows current name found) ∧
        after = disk)
      (store.readEntry name fileType).run disk := by
  rcases stores.others name node listed with ⟨sessionId, rfl⟩ | ⟨skipped, -⟩
  · rcases stores.exists_of_lookup listed with ⟨stored, known, -⟩
    rw [readEntry_stateName]
    by_cases kind : fileType ≠ .file
    · rw [if_pos kind]
      exact Alone.ret_iff.mpr ⟨nofun, rfl⟩
    · rw [if_neg kind]
      apply Alone.run_seq (loadPath_finds stores holds)
      · exact fun _ after known => ⟨nofun, known.2⟩
      rintro record after ⟨found, rfl⟩
      refine Alone.ret_iff.mpr ⟨?_, rfl⟩
      rintro _ ⟨⟩
      exact .inl ⟨sessionId, rfl, (found record rfl).symm⟩
  · rcases readEntry_skipped store fileType skipped with ⟨description, same⟩
    rw [same]
    apply Always.inspect holds (validateEntryMetadata_inspects name description)
    · exact fun _ => ⟨nofun, rfl⟩
    rintro ⟨⟩
    refine Alone.ret_iff.mpr ⟨?_, rfl⟩
    rintro _ ⟨⟩
    exact .inr ⟨skipped, rfl⟩

end Entry

/-! ## All entries -/

section Entries

/-- The unfinished records of the names read so far. -/
structure Scanned (current : Files) (names : List FileName) (records : List SessionRecord) :
    Prop where
  distinct : (records.map SessionRecord.sessionId).Nodup
  mem_iff : ∀ record, record ∈ records ↔ stateName record.sessionId ∈ names ∧
    current record.sessionId = some record ∧ record.session.state ≠ .restored

/-- The records after one more entry. -/
def collect (records : List SessionRecord) : Option SessionRecord → List SessionRecord
  | some record => if record.session.state = .restored then records else records ++ [record]
  | none => records

namespace Scanned

variable {names : List FileName} {records : List SessionRecord} {name : FileName}

theorem nil : Scanned current [] [] where
  distinct := .nil
  mem_iff := by simp

theorem skip (scanned : Scanned current names records)
    (nothing : ∀ record : SessionRecord, stateName record.sessionId = name →
      current record.sessionId = some record → record.session.state = .restored) :
    Scanned current (names ++ [name]) records where
  distinct := scanned.distinct
  mem_iff record := by
    rw [scanned.mem_iff, List.mem_append, List.mem_singleton]
    constructor
    · rintro ⟨member, stored, open_⟩
      exact ⟨.inl member, stored, open_⟩
    · rintro ⟨member | same, stored, open_⟩
      · exact ⟨member, stored, open_⟩
      · exact absurd (nothing record same stored) open_

theorem push (scanned : Scanned current names records) {record : SessionRecord}
    (fresh : stateName record.sessionId ∉ names)
    (stored : current record.sessionId = some record)
    (unfinished : record.session.state ≠ .restored) :
    Scanned current (names ++ [stateName record.sessionId]) (records ++ [record]) where
  distinct := by
    rw [List.map_append, List.nodup_append]
    refine ⟨scanned.distinct, by simp, ?_⟩
    rintro _ known _ last rfl
    rcases List.mem_map.mp known with ⟨other, member, same⟩
    rw [List.map_singleton, List.mem_singleton] at last
    have seen := ((scanned.mem_iff other).mp member).1
    rw [same, last] at seen
    exact fresh seen
  mem_iff other := by
    rw [List.mem_append, List.mem_singleton, scanned.mem_iff, List.mem_append,
      List.mem_singleton]
    constructor
    · rintro (⟨member, known⟩ | rfl)
      · exact ⟨.inl member, known⟩
      · exact ⟨.inr rfl, stored, unfinished⟩
    · rintro ⟨member | same, known, open_⟩
      · exact .inl ⟨member, known, open_⟩
      · right
        rw [stateName_injective same, stored] at known
        exact (Option.some.inj known).symm

/-- One more entry has been read. -/
theorem collect (scanned : Scanned current names records)
    (own : ∀ sessionId record, current sessionId = some record → record.sessionId = sessionId)
    (fresh : name ∉ names) {found : Option SessionRecord} (shows : Shows current name found) :
    Scanned current (names ++ [name]) (FileStateStore.collect records found) := by
  rcases shows with ⟨sessionId, rfl, rfl⟩ | ⟨skipped, rfl⟩
  · cases stored : current sessionId with
    | none =>
        apply scanned.skip
        intro record same known
        rw [stateName_injective same, stored] at known
        cases known
    | some record =>
        obtain rfl := own sessionId record stored
        by_cases restored : record.session.state = .restored
        · rw [FileStateStore.collect, if_pos restored]
          apply scanned.skip
          intro other same known
          rw [stateName_injective same, stored] at known
          cases known
          exact restored
        · rw [FileStateStore.collect, if_neg restored]
          exact scanned.push fresh stored restored
  · apply scanned.skip
    intro record same
    exact absurd same (skipped.ne_stateName record.sessionId)

end Scanned

theorem scanEntry_scans {names : List FileName} {records : List SessionRecord}
    {name : FileName} {entry : Except IoErrorKind FileName}
    (stores : Stores store.policy disk.live current) (holds : assertion disk)
    (listed : name ∈ disk.live.keys) (read : ∀ listed, entry = .ok listed → listed = name)
    (fresh : name ∉ names) (scanned : Scanned current names records) :
    Always process assertion
      (fun result after =>
        (∀ records, result = .ok records → Scanned current (names ++ [name]) records) ∧
          after = disk)
      (store.scanEntry records entry).run disk := by
  cases entry with
  | error kind => exact Alone.ret_iff.mpr ⟨nofun, rfl⟩
  | ok known =>
      obtain rfl := read known rfl
      rcases Option.isSome_iff_exists.mp (AList.lookup_isSome.mpr listed) with ⟨node, found⟩
      change Always process assertion _
        (durably (Prog.perform (Call.entryType known)) >>= _).run disk
      apply Always.inspect holds
      · exact ⟨trivial, fun _ => trivial⟩
      · exact fun _ => ⟨nofun, rfl⟩
      intro fileType
      apply Alone.run_seq (readEntry_finds stores holds found)
      · exact fun _ after known => ⟨nofun, known.2⟩
      rintro entry after ⟨shown, rfl⟩
      have collected := scanned.collect (fun _ _ => stores.own) fresh (shown entry rfl)
      cases entry with
      | none =>
          refine Alone.ret_iff.mpr ⟨?_, rfl⟩
          rintro _ ⟨⟩
          exact collected
      | some record =>
          rw [collect] at collected
          by_cases restored : record.session.state = .restored
          · simp only [if_pos restored] at collected ⊢
            refine Alone.ret_iff.mpr ⟨?_, rfl⟩
            rintro _ ⟨⟩
            exact collected
          · simp only [if_neg restored] at collected ⊢
            refine Alone.ret_iff.mpr ⟨?_, rfl⟩
            rintro _ ⟨⟩
            exact collected

theorem scanEntries_scan {front names : List FileName} {records : List SessionRecord}
    {entries : List (Except IoErrorKind FileName)}
    (stores : Stores store.policy disk.live current) (holds : assertion disk)
    (listed : ∀ name ∈ names, name ∈ disk.live.keys) (distinct : (front ++ names).Nodup)
    (read : List.Forall₂ (fun entry name => ∀ read, entry = .ok read → read = name) entries names)
    (scanned : Scanned current front records) :
    Always process assertion
      (fun result after =>
        (∀ records, result = .ok records → Scanned current (front ++ names) records) ∧
          after = disk)
      (entries.foldlM store.scanEntry records).run disk := by
  induction read generalizing front records with
  | nil =>
      refine Alone.ret_iff.mpr ⟨?_, rfl⟩
      rintro _ ⟨⟩
      rw [List.append_nil]
      exact scanned
  | @cons entry name entries names first _ ih =>
      rw [List.foldlM_cons]
      rw [List.append_cons] at distinct ⊢
      have fresh : name ∉ front := by
        have front_distinct := (List.nodup_append.mp distinct).1
        rw [List.nodup_append] at front_distinct
        exact fun member => front_distinct.2.2 name member name List.mem_cons_self rfl
      rw [List.forall_mem_cons] at listed
      apply Alone.run_seq (scanEntry_scans stores holds listed.1 first fresh scanned)
      · exact fun _ after known => ⟨nofun, known.2⟩
      rintro records after ⟨known, rfl⟩
      exact ih listed.2 distinct (known records rfl)

/-- The unfinished records of the store, in the order of their sessions. -/
structure Lists (current : Files) (records : List SessionRecord) : Prop where
  distinct : (records.map SessionRecord.sessionId).Nodup
  sorted : records.Pairwise fun first second => first.sessionId.le second.sessionId = true
  mem_iff : ∀ record, record ∈ records ↔
    current record.sessionId = some record ∧ record.session.state ≠ .restored

/-- Every name has been read. -/
theorem Scanned.lists {names : List FileName} {records : List SessionRecord}
    (stores : Stores store.policy disk.live current) (all : names.Perm disk.live.keys)
    (scanned : Scanned current names records) :
    Lists current (records.mergeSort fun first second => first.sessionId.le second.sessionId) where
  distinct := by
    rw [((List.mergeSort_perm _ _).map _).nodup_iff]
    exact scanned.distinct
  sorted := by
    apply List.pairwise_mergeSort
    · intro first second third below above
      rw [SessionId.le, decide_eq_true_eq] at below above ⊢
      exact List.le_trans below above
    · intro first second
      rw [SessionId.le, SessionId.le, Bool.or_eq_true, decide_eq_true_eq, decide_eq_true_eq]
      exact List.le_total _ _
  mem_iff record := by
    rw [List.mem_mergeSort, scanned.mem_iff, all.mem_iff]
    constructor
    · exact fun known => known.2
    · intro known
      rcases stores.lookup_of_some known.1 with ⟨node, found, -⟩
      refine ⟨?_, known⟩
      exact AList.lookup_isSome.mp (by rw [found]; rfl)

theorem loadUnfinished_lists (rooted : Rooted store.policy disk)
    (stores : Stores store.policy disk.live current) (holds : assertion disk) :
    Always process assertion
      (fun result after => (∀ records, result = .ok records → Lists current records) ∧
        after = disk)
      store.loadUnfinished.run disk := by
  apply Alone.run_seq (ensureRoot_inspects rooted holds)
  · exact fun _ after same => ⟨nofun, same⟩
  rintro _ disk rfl
  apply Alone.run_seq (m := fun result after => (∀ entries, result = .ok entries →
    ∃ names, names.Perm disk.live.keys ∧
      List.Forall₂ (fun entry name => ∀ read, entry = .ok read → read = name) entries names) ∧
      after = disk)
  · apply Always.mapErr
    apply Always.perform holds
    rintro (kind | entries) after law
    · exact ⟨nofun, law⟩
    · refine ⟨?_, law.2⟩
      rintro _ ⟨⟩
      exact law.1
  · exact fun _ after known => ⟨nofun, known.2⟩
  rintro entries after ⟨listed, rfl⟩
  rcases listed entries rfl with ⟨names, all, read⟩
  have distinct : ([] ++ names).Nodup := by
    rw [List.nil_append, all.nodup_iff]
    exact after.live.keys_nodup
  apply Alone.run_seq (scanEntries_scan stores holds (fun name => all.mem_iff.mp) distinct read
    Scanned.nil)
  · exact fun _ after known => ⟨nofun, known.2⟩
  rintro records after ⟨scanned, rfl⟩
  refine Alone.ret_iff.mpr ⟨?_, rfl⟩
  rintro _ ⟨⟩
  exact (scanned records rfl).lists stores all

end Entries

/-! ## Where no call fails -/

section Healthy

theorem exec_durably {α : Type} {program : Prog Storage.Answer (Except IoErrorKind α)} {value : α}
    (known : program.exec process.respond disk = (.ok value, disk)) :
    (durably program).run.exec process.respond disk = (.ok value, disk) :=
  Early.exec_attempt_ok known

variable (process) in
theorem ensureRoot_healthy (rooted : Rooted store.policy disk) :
    store.ensureRoot.run.exec process.respond disk = (.ok (), disk) := by
  rcases rooted with ⟨metadata, root, owned⟩
  have answered : (Prog.perform (Call.symlinkMetadata .root)).exec process.respond disk =
      (.ok metadata, disk) := by
    simp [Prog.perform, Process.respond, Process.answer, Process.after, root, found]
  apply (Prog.exec_run_seq (Prog.exec_lift answered)).trans
  change (Prog.ret (validateDirectoryMetadata metadata store.policy _)).exec _ _ = _
  rw [validateDirectoryMetadata_eq_ok_iff.mpr owned]
  rfl

section Opened

variable {name : FileName} {node : Node}

variable (process) in
theorem validateRegularPath_healthy (listed : disk.live.lookup name = some node)
    (owned : store.policy.Private node.metadata) (description : String) :
    (store.validateRegularPath name description).run.exec process.respond disk =
      (.ok (), disk) := by
  have answered : (Prog.perform (Call.symlinkMetadata (.entry name))).exec process.respond disk =
      (.ok node.metadata, disk) := by
    simp [Prog.perform, Process.respond, Process.answer, Process.after, Disk.metadata, listed,
      found]
  apply (Prog.exec_run_seq (exec_durably answered)).trans
  change (Prog.ret (validateRegularFile node.metadata store.policy _)).exec _ _ = _
  rw [validateRegularFile_eq_ok_iff.mpr owned]
  rfl

variable (process) in
theorem validateOpenFile_healthy (listed : disk.live.lookup name = some node)
    (owned : store.policy.Private node.metadata) (description : String) :
    (store.validateOpenFile name description).run.exec process.respond disk = (.ok (), disk) := by
  have answered : (Prog.perform (Call.fileMetadata name)).exec process.respond disk =
      (.ok node.metadata, disk) := by
    simp [Prog.perform, Process.respond, Process.answer, Process.after, Disk.metadata, listed,
      found]
  apply (Prog.exec_run_seq (exec_durably answered)).trans
  change (Prog.ret (validateRegularFile node.metadata store.policy _)).exec _ _ = _
  rw [validateRegularFile_eq_ok_iff.mpr owned]
  rfl

variable (process) in
theorem readVerifiedFile_healthy {maximum : Nat} (listed : disk.live.lookup name = some node)
    (owned : store.policy.Private node.metadata) (small : node.content.length ≤ maximum) :
    (store.readVerifiedFile name maximum).run.exec process.respond disk =
      (.ok node.content, disk) := by
  have opened : (Prog.perform (Call.openFile name)).exec process.respond disk =
      (.ok (), disk) := by
    simp [Prog.perform, Process.respond, Process.answer, Process.after, Disk.metadata, listed,
      owned.fileType]
  apply (Prog.exec_run_seq (exec_durably opened)).trans
  apply (Prog.exec_run_seq (validateOpenFile_healthy process listed owned _)).trans
  have read : (Prog.perform (Call.readToEnd name (maximum + 1))).exec process.respond disk =
      (.ok node.content, disk) := by
    simp [Prog.perform, Process.respond, Process.answer, Process.after, listed, found,
      List.take_of_length_le (Nat.le_succ_of_le small)]
  apply (Prog.exec_run_seq (exec_durably read)).trans
  rw [if_neg (Nat.not_lt.mpr small)]
  rfl

end Opened

variable (process) in
theorem loadPath_healthy {sessionId : SessionId} {record : SessionRecord}
    (stores : Stores store.policy disk.live current)
    (stored : current sessionId = some record) :
    (store.loadPath (stateName sessionId) sessionId).run.exec process.respond disk =
      (.ok record, disk) := by
  rcases stores.lookup_of_some stored with ⟨node, listed, keeps⟩
  apply (Prog.exec_run_seq (readVerifiedFile_healthy process listed keeps.metadata
    keeps.length_le)).trans
  have decoded : (check (SessionRecord.decode node.content)).run.exec process.respond disk =
      (.ok record, disk) := by
    rw [keeps.decode]
    rfl
  apply (Prog.exec_run_seq decoded).trans
  rw [if_neg (not_not.mpr keeps.own)]
  rfl

variable (process) in
theorem load_healthy {sessionId : SessionId} {record : SessionRecord}
    (rooted : Rooted store.policy disk) (stores : Stores store.policy disk.live current)
    (stored : current sessionId = some record) :
    (store.load sessionId).run.exec process.respond disk = (.ok record, disk) :=
  (Prog.exec_run_seq (ensureRoot_healthy process rooted)).trans
    (loadPath_healthy process stores stored)

variable (process) in
/-- Every entry is recognised. -/
theorem readEntry_healthy {name : FileName} {node : Node}
    (stores : Stores store.policy disk.live current)
    (listed : disk.live.lookup name = some node) :
    ∃ entry, (store.readEntry name node.metadata.fileType).run.exec process.respond disk =
      (.ok entry, disk) := by
  rcases stores.others name node listed with ⟨sessionId, rfl⟩ | ⟨skipped, owned⟩
  · rcases stores.exists_of_lookup listed with ⟨record, stored, keeps⟩
    rw [readEntry_stateName, if_neg (not_not.mpr keeps.metadata.fileType)]
    exact ⟨some record, Prog.exec_run_seq (loadPath_healthy process stores stored)⟩
  · rcases readEntry_skipped store node.metadata.fileType skipped with ⟨description, same⟩
    have valid : (store.validateEntryMetadata name node.metadata.fileType description).run.exec
        process.respond disk = (.ok (), disk) := by
      rw [validateEntryMetadata, owned.fileType, if_neg (by simp)]
      exact validateRegularPath_healthy process listed owned description
    rw [same]
    exact ⟨none, Prog.exec_run_seq valid⟩

variable (process) in
theorem scanEntry_healthy {name : FileName} (records : List SessionRecord)
    (stores : Stores store.policy disk.live current) (listed : name ∈ disk.live.keys) :
    ∃ scanned, (store.scanEntry records (.ok name)).run.exec process.respond disk =
      (.ok scanned, disk) := by
  rcases Option.isSome_iff_exists.mp (AList.lookup_isSome.mpr listed) with ⟨node, known⟩
  have answered : (Prog.perform (Call.entryType name)).exec process.respond disk =
      (.ok node.metadata.fileType, disk) := by
    simp [Prog.perform, Process.respond, Process.answer, Process.after, Disk.metadata, known,
      found]
  rcases readEntry_healthy process stores known with ⟨entry, read⟩
  cases entry with
  | none =>
      exact ⟨records, (Prog.exec_run_seq (exec_durably answered)).trans (Prog.exec_run_seq read)⟩
  | some record =>
      refine ⟨if record.session.state = .restored then records else records ++ [record], ?_⟩
      apply (Prog.exec_run_seq (exec_durably answered)).trans
      apply (Prog.exec_run_seq read).trans
      by_cases restored : record.session.state = .restored
      · simp only [if_pos restored]
        rfl
      · simp only [if_neg restored]
        rfl

variable (process) in
theorem scanEntries_healthy (names : List FileName) (records : List SessionRecord)
    (stores : Stores store.policy disk.live current)
    (listed : ∀ name ∈ names, name ∈ disk.live.keys) :
    ∃ scanned, ((names.map Except.ok).foldlM store.scanEntry records).run.exec process.respond
      disk = (.ok scanned, disk) := by
  induction names generalizing records with
  | nil => exact ⟨records, rfl⟩
  | cons name names ih =>
      rw [List.forall_mem_cons] at listed
      rcases scanEntry_healthy process records stores listed.1 with ⟨next, first⟩
      rcases ih next listed.2 with ⟨scanned, rest⟩
      rw [List.map_cons, List.foldlM_cons]
      exact ⟨scanned, (Prog.exec_run_seq first).trans rest⟩

variable (process) in
/-- Whatever an interrupted write leaves behind, the store can be read. -/
theorem loadUnfinished_healthy (rooted : Rooted store.policy disk)
    (stores : Stores store.policy disk.live current) :
    ∃ records, store.loadUnfinished.run.exec process.respond disk = (.ok records, disk) ∧
      Lists current records := by
  have listing : (Prog.perform Call.readDirectory).exec process.respond disk =
      (.ok (disk.live.keys.map .ok), disk) :=
    rfl
  rcases scanEntries_healthy process disk.live.keys [] stores (fun _ member => member) with ⟨scanned, scan⟩
  have returns : store.loadUnfinished.run.exec process.respond disk =
      (.ok (scanned.mergeSort fun first second => first.sessionId.le second.sessionId), disk) :=
    (Prog.exec_run_seq (ensureRoot_healthy process rooted)).trans
      ((Prog.exec_run_seq (exec_durably listing)).trans (Prog.exec_run_seq scan))
  have safe : Always process (fun _ => True) (fun result after =>
      (∀ records, result = .ok records → Lists current records) ∧ after = disk)
      store.loadUnfinished.run disk :=
    loadUnfinished_lists rooted stores trivial
  have finds := (Executes.exec (fun disk call => process.law disk call)
    store.loadUnfinished.run disk).post safe
  rw [returns] at finds
  exact ⟨_, returns, finds.1 _ rfl⟩

end Healthy

end FileStateStore

end Sysboost.State
