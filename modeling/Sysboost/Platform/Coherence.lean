import Sysboost.Platform.Accounting

/-!
# Coherent worlds

In a coherent world every stored record is possible, every session with an
apply has a record, and everything in the log was permitted when it happened.
A permitted call leads from a coherent world to a coherent world.
-/

namespace Sysboost.Platform

open Sysboost.Core Interaction

/-! ## Permitted calls and honest replies -/

/-- The newest entry is a successful replacement by this record. -/
def Written (log : List Entry) (record : SessionRecord) : Prop :=
  ∃ engine changed older, log = .port engine ⟨.replace record, .ok (), changed⟩ :: older

/-- The write-ahead condition of an apply: the record just made durable is in
state `applying`, and so is this operation and no other. -/
structure Intends (log : List Entry) (sessionId : SessionId) (mutation : PlannedMutation)
    (snapshot : Snapshot) (record : SessionRecord) : Prop where
  written : Written log record
  possible : Possible log record
  session : record.sessionId = sessionId
  applying : record.session.state = .applying
  unapplied : Unapplied log sessionId mutation
  operation : ∃ operation ∈ record.operations, operation.mutation = mutation ∧
    operation.snapshot = some snapshot ∧ operation.state = .applying ∧
    ∀ other ∈ record.operations, other.state = .applying → other = operation

/-- What the log must say when a call is made. -/
def Permitted (log : List Entry) : Call → Prop
  | .create record => Prepared log record
  | .replace record => Possible log record
  | .remove sessionId => ∀ mutation, Unapplied log sessionId mutation
  | .apply sessionId mutation snapshot => ∃ record, Intends log sessionId mutation snapshot record
  | _ => True

/-- The reply says that this session is restored. -/
def Declares : Request → Reply → SessionId → Prop
  | .apply sessionId, .state (.ok .restored), restored => restored = sessionId
  | .restore sessionId, .state (.ok .restored), restored => restored = sessionId
  | .recoverUnfinished, .recovered (.ok statuses), restored => ⟨restored, .restored⟩ ∈ statuses
  | _, _, _ => False

/-- The entry was permitted by the log before it. -/
def Entry.Permitted (older : List Entry) : Entry → Prop
  | .port _ event =>
      Platform.Permitted older event.call ∧ ApplyLaw event.call event.answer event.changed
  | .requested _ _ => True
  | .returned _ request reply => ∀ sessionId, Declares request reply sessionId →
      Accounted older sessionId

/-- Every entry was permitted. -/
def Lawful : List Entry → Prop
  | [] => True
  | entry :: older => entry.Permitted older ∧ Lawful older

theorem Lawful.entry {newer older : List Entry} {entry : Entry}
    (lawful : Lawful (newer ++ entry :: older)) : entry.Permitted older := by
  induction newer with
  | nil => exact lawful.1
  | cons first newer ih => exact ih lawful.2

/-! ## The store -/

/-- At most one record for each session. -/
def OneEach (files : List SessionRecord) : Prop :=
  (files.map SessionRecord.sessionId).Nodup

theorem OneEach.eq {files : List SessionRecord} (oneEach : OneEach files)
    {first second : SessionRecord} (member : first ∈ files) (member' : second ∈ files)
    (same : first.sessionId = second.sessionId) : first = second :=
  List.inj_on_of_nodup_map oneEach member member' same

theorem OneEach.append {files : List SessionRecord} (oneEach : OneEach files)
    {record : SessionRecord} (fresh : Fresh files record.sessionId) :
    OneEach (files ++ [record]) := by
  unfold OneEach
  rw [List.map_append, List.map_singleton, List.nodup_append]
  refine ⟨oneEach, List.nodup_singleton _, ?_⟩
  intro first member second member'
  obtain ⟨stored, present, rfl⟩ := List.mem_map.mp member
  rw [List.mem_singleton.mp member']
  exact fresh stored present

theorem substitute_sessionIds (record : SessionRecord) (files : List SessionRecord) :
    (substitute record files).map SessionRecord.sessionId =
      files.map SessionRecord.sessionId := by
  rw [substitute, List.map_map]
  apply List.map_congr_left
  intro stored _
  by_cases same : stored.sessionId = record.sessionId <;> simp [same]

theorem mem_substitute {record stored : SessionRecord} {files : List SessionRecord}
    (member : stored ∈ substitute record files) : stored = record ∨ stored ∈ files := by
  obtain ⟨old, present, rfl⟩ := List.mem_map.mp member
  by_cases same : old.sessionId = record.sessionId
  · simp [same]
  · simp [same, present]

theorem record_mem_substitute {record : SessionRecord} {files : List SessionRecord}
    (stored : ¬ Fresh files record.sessionId) : record ∈ substitute record files := by
  simp only [Fresh, not_forall, not_not] at stored
  obtain ⟨old, member, same⟩ := stored
  exact List.mem_map.mpr ⟨old, member, by simp [same]⟩

theorem fresh_iff {files : List SessionRecord} {sessionId : SessionId} :
    Fresh files sessionId ↔ sessionId ∉ files.map SessionRecord.sessionId := by
  simp only [Fresh, List.mem_map, not_exists, not_and, ne_eq]

theorem fresh_substitute {record : SessionRecord} {files : List SessionRecord}
    {sessionId : SessionId} :
    Fresh (substitute record files) sessionId ↔ Fresh files sessionId := by
  rw [fresh_iff, fresh_iff, substitute_sessionIds]

/-! ## Coherence -/

structure Coherent (world : World) : Prop where
  oneEach : OneEach world.files
  possible : ∀ record ∈ world.files, Possible world.log record
  stored : ∀ entry ∈ world.log, ∀ sessionId mutation snapshot,
    entry.IsApply sessionId mutation snapshot → ¬ Fresh world.files sessionId
  written : ∀ record, Written world.log record → record ∈ world.files
  lawful : Lawful world.log

theorem coherent_empty : Coherent World.empty :=
  ⟨List.nodup_nil, by simp [World.empty], by simp [World.empty],
    by simp [Written, World.empty], trivial⟩

/-- The entry is no apply. -/
def Entry.Quiet (entry : Entry) : Prop :=
  ∀ sessionId mutation snapshot, ¬ entry.IsApply sessionId mutation snapshot

theorem Entry.Quiet.admits {entry : Entry} (quiet : entry.Quiet) (log : List Entry)
    (record : SessionRecord) : Admits log record entry :=
  fun mutation snapshot isApply => absurd isApply (quiet _ mutation snapshot)

/-- A log entry that is no apply, with any change of the files that keeps the
invariants of the store. -/
theorem Coherent.quiet {before after : World} {entry : Entry} (coherent : Coherent before)
    (log : after.log = entry :: before.log) (quiet : entry.Quiet)
    (permitted : entry.Permitted before.log) (oneEach : OneEach after.files)
    (possible : ∀ record ∈ after.files, Possible before.log record)
    (stored : ∀ sessionId mutation, ¬ Unapplied before.log sessionId mutation →
      ¬ Fresh after.files sessionId)
    (written : ∀ record, Written after.log record → record ∈ after.files) : Coherent after where
  oneEach := oneEach
  possible record member := by
    rw [log]
    exact (possible record member).grow (quiet.admits _ record)
  stored other member sessionId mutation snapshot isApply := by
    rw [log] at member
    rcases List.mem_cons.mp member with rfl | member
    · exact absurd isApply (quiet sessionId mutation snapshot)
    · exact stored sessionId mutation fun unapplied => unapplied other member snapshot isApply
  written := written
  lawful := by
    rw [log]
    exact ⟨permitted, coherent.lawful⟩

theorem Coherent.stored' {world : World} (coherent : Coherent world) {sessionId : SessionId}
    {mutation : PlannedMutation} (applied : ¬ Unapplied world.log sessionId mutation) :
    ¬ Fresh world.files sessionId := by
  simp only [Unapplied, not_forall, not_not] at applied
  obtain ⟨entry, member, snapshot, isApply⟩ := applied
  exact coherent.stored entry member sessionId mutation snapshot isApply

/-- A quiet entry that leaves the files alone. -/
theorem Coherent.keep {before after : World} {entry : Entry} (coherent : Coherent before)
    (log : after.log = entry :: before.log) (files : after.files = before.files)
    (quiet : entry.Quiet) (permitted : entry.Permitted before.log)
    (other : ∀ record, ¬ Written after.log record) : Coherent after := by
  refine coherent.quiet log quiet permitted ?_ ?_ ?_ fun record written =>
    absurd written (other record)
  · rw [files]
    exact coherent.oneEach
  · rw [files]
    exact coherent.possible
  · intro sessionId mutation applied
    rw [files]
    exact coherent.stored' applied

/-! ## Port calls -/

theorem quiet_port {engine : EngineId} {call : Call} {answer : Answer call} {changed : Bool}
    (other : ∀ sessionId mutation snapshot, call ≠ .apply sessionId mutation snapshot) :
    (Entry.port engine ⟨call, answer, changed⟩).Quiet := by
  rintro sessionId mutation snapshot ⟨engine', answer', changed', same⟩
  injection same with _ same
  injection same with same
  exact other sessionId mutation snapshot same

theorem written_cons {entry : Entry} {log : List Entry} {record : SessionRecord} :
    Written (entry :: log) record ↔
      ∃ engine changed, entry = .port engine ⟨.replace record, .ok (), changed⟩ := by
  simp [Written]

/-- Calls that change neither the files nor a target. -/
def Call.Reads : Call → Prop
  | .create _ | .replace _ | .remove _ | .apply _ _ _ => False
  | _ => True

theorem StoreLaw.files_eq {files after : List SessionRecord} {call : Call} {answer : Answer call}
    (law : StoreLaw files after call answer) (reads : call.Reads) : after = files := by
  cases call with
  | create record => exact reads.elim
  | replace record => exact reads.elim
  | remove sessionId => exact reads.elim
  | load sessionId =>
      rcases answer with error | record
      · exact law
      · exact law.1
  | loadUnfinished =>
      rcases answer with error | records
      · exact law
      · exact law.1
  | _ => exact law

namespace Law

variable {engine : EngineId} {before after : World}

theorem reads {call : Call} {answer : Answer call} (law : Law engine before call answer after)
    (coherent : Coherent before) (permitted : Permitted before.log call) (reads : call.Reads) :
    Coherent after := by
  obtain ⟨changed, applyLaw, log⟩ := law.log
  refine coherent.keep log (law.store.files_eq reads) ?_ ⟨permitted, applyLaw⟩ ?_
  · apply quiet_port
    rintro sessionId mutation snapshot rfl
    exact reads
  · intro record written
    rw [log, written_cons] at written
    obtain ⟨engine', changed', same⟩ := written
    injection same with _ same
    injection same with same
    subst same
    exact reads

theorem create {record : SessionRecord} {answer : Answer (.create record)}
    (law : Law engine before (.create record) answer after) (coherent : Coherent before)
    (permitted : Prepared before.log record) : Coherent after := by
  obtain ⟨changed, applyLaw, log⟩ := law.log
  have other : ∀ stored, ¬ Written after.log stored := by
    intro stored
    rw [log, written_cons]
    rintro ⟨engine', changed', same⟩
    cases same
  have quiet : (Entry.port engine ⟨.create record, answer, changed⟩).Quiet :=
    quiet_port (by simp)
  have files : after.files = before.files ∨
      Fresh before.files record.sessionId ∧ after.files = before.files ++ [record] := by
    rcases answer with error | done
    · exact law.store
    · exact .inr law.store
  rcases files with files | ⟨fresh, files⟩
  · exact coherent.keep log files quiet ⟨permitted, applyLaw⟩ other
  · refine coherent.quiet log quiet ⟨permitted, applyLaw⟩ ?_ ?_ ?_
      fun stored written => absurd written (other stored)
    · rw [files]
      exact coherent.oneEach.append fresh
    · rw [files]
      intro stored member
      rcases List.mem_append.mp member with member | member
      · exact coherent.possible stored member
      · rw [List.mem_singleton.mp member]
        refine .prepared permitted fun mutation => ?_
        by_contra applied
        exact coherent.stored' applied fresh
    · intro sessionId mutation applied
      have kept := coherent.stored' applied
      simp only [Fresh, not_forall] at kept ⊢
      obtain ⟨stored, member, same⟩ := kept
      exact ⟨stored, by simp [files, member], same⟩

theorem replace {record : SessionRecord} {answer : Answer (.replace record)}
    (law : Law engine before (.replace record) answer after) (coherent : Coherent before)
    (permitted : Possible before.log record) : Coherent after := by
  obtain ⟨changed, applyLaw, log⟩ := law.log
  have quiet : (Entry.port engine ⟨.replace record, answer, changed⟩).Quiet :=
    quiet_port (by simp)
  have files : after.files = before.files ∨ after.files = substitute record before.files := by
    rcases answer with error | done
    · exact law.store
    · exact .inr law.store.2
  refine coherent.quiet log quiet ⟨permitted, applyLaw⟩ ?_ ?_ ?_ ?_
  · rcases files with files | files
    · rw [files]
      exact coherent.oneEach
    · rw [files, OneEach, substitute_sessionIds]
      exact coherent.oneEach
  · intro stored member
    rcases files with files | files <;> rw [files] at member
    · exact coherent.possible stored member
    · rcases mem_substitute member with rfl | member
      · exact permitted
      · exact coherent.possible stored member
  · intro sessionId mutation applied
    rcases files with files | files
    · rw [files]
      exact coherent.stored' applied
    · rw [files, fresh_substitute]
      exact coherent.stored' applied
  · intro stored written
    rw [log, written_cons] at written
    obtain ⟨engine', changed', same⟩ := written
    cases same
    rw [law.store.2]
    exact record_mem_substitute law.store.1

theorem remove {sessionId : SessionId} {answer : Answer (.remove sessionId)}
    (law : Law engine before (.remove sessionId) answer after) (coherent : Coherent before)
    (permitted : ∀ mutation, Unapplied before.log sessionId mutation) : Coherent after := by
  obtain ⟨changed, applyLaw, log⟩ := law.log
  have other : ∀ stored, ¬ Written after.log stored := by
    intro stored
    rw [log, written_cons]
    rintro ⟨engine', changed', same⟩
    cases same
  have quiet : (Entry.port engine ⟨.remove sessionId, answer, changed⟩).Quiet :=
    quiet_port (by simp)
  have files : after.files = before.files ∨ after.files = discard sessionId before.files := by
    rcases answer with error | done
    · exact law.store
    · exact .inr law.store
  rcases files with files | files
  · exact coherent.keep log files quiet ⟨permitted, applyLaw⟩ other
  · refine coherent.quiet log quiet ⟨permitted, applyLaw⟩ ?_ ?_ ?_
      fun stored written => absurd written (other stored)
    · rw [files]
      exact coherent.oneEach.sublist (List.Sublist.map _ List.filter_sublist)
    · rw [files]
      exact fun stored member => coherent.possible stored (List.mem_of_mem_filter member)
    · intro session mutation applied
      have kept := coherent.stored' applied
      simp only [Fresh, not_forall, not_not] at kept ⊢
      obtain ⟨stored, member, same⟩ := kept
      refine ⟨stored, ?_, same⟩
      rw [files, discard, List.mem_filter]
      refine ⟨member, decide_eq_true ?_⟩
      rintro rfl
      exact applied (same ▸ permitted mutation)

theorem apply {sessionId : SessionId} {mutation : PlannedMutation} {snapshot : Snapshot}
    {answer : Answer (.apply sessionId mutation snapshot)}
    (law : Law engine before (.apply sessionId mutation snapshot) answer after)
    (coherent : Coherent before)
    (permitted : ∃ record, Intends before.log sessionId mutation snapshot record) :
    Coherent after := by
  obtain ⟨changed, applyLaw, log⟩ := law.log
  have files : after.files = before.files := law.store
  obtain ⟨record, intends⟩ := permitted
  have member := coherent.written record intends.written
  have stored : ¬ Fresh before.files sessionId := by
    simp only [Fresh, not_forall, not_not]
    exact ⟨record, member, intends.session⟩
  have own : (Entry.port engine ⟨.apply sessionId mutation snapshot, answer, changed⟩).IsApply
      sessionId mutation snapshot := ⟨engine, answer, changed, rfl⟩
  refine ⟨files ▸ coherent.oneEach, ?_, ?_, ?_, ?_⟩
  · intro other present
    rw [files] at present
    rw [log]
    refine (coherent.possible other present).grow fun applied original isApply => ?_
    obtain ⟨session, rfl, rfl⟩ := own.inj isApply
    have same : other = record :=
      coherent.oneEach.eq present member (session.symm.trans intends.session.symm)
    subst same
    obtain ⟨operation, present, same, has, applying, -⟩ := intends.operation
    exact ⟨session ▸ intends.unapplied, operation, present, same, has, applying⟩
  · intro entry present session applied original isApply
    rw [files]
    rw [log] at present
    rcases List.mem_cons.mp present with rfl | present
    · rw [← (own.inj isApply).1]
      exact stored
    · exact coherent.stored entry present session applied original isApply
  · intro other written
    rw [log, written_cons] at written
    obtain ⟨engine', changed', same⟩ := written
    cases same
  · rw [log]
    exact ⟨⟨⟨record, intends⟩, applyLaw⟩, coherent.lawful⟩

/-- Permitted calls keep the world coherent. -/
theorem coherent {call : Call} {answer : Answer call} (law : Law engine before call answer after)
    (coherent : Coherent before) (permitted : Permitted before.log call) : Coherent after := by
  cases call with
  | create record => exact law.create coherent permitted
  | replace record => exact law.replace coherent permitted
  | remove sessionId => exact law.remove coherent permitted
  | apply sessionId mutation snapshot => exact law.apply coherent permitted
  | _ => exact law.reads coherent permitted trivial

end Law

theorem Coherent.note {world : World} {entry : Entry} (coherent : Coherent world)
    (quiet : entry.Quiet) (permitted : entry.Permitted world.log)
    (other : ∀ engine event, entry ≠ .port engine event) : Coherent (world.note entry) := by
  refine coherent.keep rfl rfl quiet permitted fun record written => ?_
  rw [World.note, written_cons] at written
  obtain ⟨engine, changed, same⟩ := written
  exact other engine _ same

theorem Coherent.crash {world : World} (coherent : Coherent world) (engine : EngineId) :
    Coherent (world.crash engine) :=
  ⟨coherent.oneEach, coherent.possible, coherent.stored, coherent.written, coherent.lawful⟩

end Sysboost.Platform
