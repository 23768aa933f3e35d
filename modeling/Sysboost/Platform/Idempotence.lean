import Sysboost.Platform.Exclusion

/-!
# Repeated restores

Once `restore` has returned `Restored` for a session, a restored record of the
session is stored and no engine touches it again, in whatever order engines make
their calls.  A later `restore` of the session finds this record, so it reaches
no backend, writes nothing and returns `Restored` again.
-/

namespace Sysboost.Platform

open Sysboost.Core Interaction

/-! ## Requests in the log -/

/-- The engine that an entry is about. -/
def Entry.engine : Entry → EngineId
  | .port engine _ => engine
  | .requested engine _ => engine
  | .returned engine _ _ => engine

/-- A request in service: what had happened before it was made, and the port
calls made for it, newest first. -/
structure Ongoing where
  earlier : List Entry
  request : Request
  events : List Event

/-- The request that an engine serves. -/
def ongoing (engine : EngineId) : List Entry → Option Ongoing
  | [] => none
  | .port maker event :: older =>
      if maker = engine then
        (ongoing engine older).map fun service =>
          { service with events := event :: service.events }
      else ongoing engine older
  | .requested maker request :: older =>
      if maker = engine then some ⟨older, request, []⟩ else ongoing engine older
  | .returned maker _ _ :: older => if maker = engine then none else ongoing engine older

theorem ongoing_of_ne {engine : EngineId} {entry : Entry} {older : List Entry}
    (other : entry.engine ≠ engine) : ongoing engine (entry :: older) = ongoing engine older := by
  cases entry with
  | port maker event => exact if_neg other
  | requested maker request => exact if_neg other
  | returned maker request reply => exact if_neg other

theorem ongoing_append_of_ne {engine : EngineId} {newer older : List Entry}
    (others : ∀ entry ∈ newer, entry.engine ≠ engine) :
    ongoing engine (newer ++ older) = ongoing engine older := by
  induction newer with
  | nil => rfl
  | cons entry newer ih =>
      rw [List.forall_mem_cons] at others
      rw [List.cons_append, ongoing_of_ne others.1, ih others.2]

/-- A restore of the session has returned `Restored`. -/
def Proven (log : List Entry) (sessionId : SessionId) : Prop :=
  ∃ engine, .returned engine (.restore sessionId) (.state (.ok .restored)) ∈ log

/-- The store answers its load, and the engine holds no lease for another session. -/
def Event.Smooth (sessionId : SessionId) : Event → Prop
  | ⟨.load _, answer, _⟩ => ∃ record, answer = .ok record
  | ⟨.active, answer, _⟩ => ∀ leased, answer = some leased → leased = sessionId
  | _ => True

/-- What an engine may do while it restores a session that was restored before. -/
def Entry.Repeats (older : List Entry) (entry : Entry) : Prop :=
  ∀ sessionId earlier events,
    ongoing entry.engine older = some ⟨earlier, .restore sessionId, events⟩ →
      Proven earlier sessionId →
        match entry with
        | .port _ event => event.call.Manages
        | .requested _ _ => True
        | .returned _ _ reply =>
            (∀ event ∈ events, event.Smooth sessionId) → reply = .state (.ok .restored)

/-! ## The invariant -/

/-- The entries of the engine are what they may be. -/
def Repeated (engine : EngineId) : List Entry → Prop
  | [] => True
  | entry :: older => (entry.engine = engine → entry.Repeats older) ∧ Repeated engine older

theorem Repeated.entry {newer older : List Entry} {entry : Entry}
    (repeated : Repeated entry.engine (newer ++ entry :: older)) : entry.Repeats older := by
  induction newer with
  | nil => exact repeated.1 rfl
  | cons first newer ih => exact ih repeated.2

theorem Repeated.append_of_ne {engine : EngineId} {newer older : List Entry}
    (repeated : Repeated engine older) (others : ∀ entry ∈ newer, entry.engine ≠ engine) :
    Repeated engine (newer ++ older) := by
  induction newer with
  | nil => exact repeated
  | cons entry newer ih =>
      rw [List.forall_mem_cons] at others
      exact ⟨fun same => absurd same others.1, ih others.2⟩

/-- What the engine has returned as restored is restored in the store, and what
it has done for a repeated restore is what it may do. -/
structure Recalls (engine : EngineId) (world : World) : Prop where
  concluded : ∀ sessionId,
    .returned engine (.restore sessionId) (.state (.ok .restored)) ∈ world.log →
      Concluded world.files sessionId
  repeated : Repeated engine world.log

/-- What the steps of other engines do: they add entries of their own. -/
structure Aside (engine : EngineId) (before after : World) : Prop
    extends Unmoved engine before after where
  log : ∃ newer, after.log = newer ++ before.log ∧ ∀ entry ∈ newer, entry.engine ≠ engine

namespace Aside

variable {engine : EngineId} {before middle after : World}

theorem refl (engine : EngineId) (world : World) : Aside engine world world :=
  ⟨.refl engine world, [], rfl, by simp⟩

theorem trans (first : Aside engine before middle) (second : Aside engine middle after) :
    Aside engine before after := by
  obtain ⟨newer, same, others⟩ := first.log
  obtain ⟨newer', same', others'⟩ := second.log
  refine ⟨first.toUnmoved.trans second.toUnmoved, newer' ++ newer, ?_, ?_⟩
  · rw [same', same, List.append_assoc]
  · intro entry member
    rcases List.mem_append.mp member with member | member
    · exact others' entry member
    · exact others entry member

theorem ongoing_eq (step : Aside engine before after) :
    ongoing engine after.log = ongoing engine before.log := by
  obtain ⟨newer, same, others⟩ := step.log
  rw [same, ongoing_append_of_ne others]

theorem recalls (step : Aside engine before after) (recalls : Recalls engine before) :
    Recalls engine after := by
  obtain ⟨newer, same, others⟩ := step.log
  constructor
  · intro sessionId member
    rw [same, List.mem_append] at member
    rcases member with member | member
    · exact absurd rfl (others _ member)
    · exact step.concluded sessionId (recalls.concluded sessionId member)
  · rw [same]
    exact recalls.repeated.append_of_ne others

theorem note {entry : Entry} (other : entry.engine ≠ engine) (world : World) :
    Aside engine world (world.note entry) :=
  ⟨.note engine world entry, [entry], rfl, by simpa using other⟩

end Aside

/-- A call that the engine may make: one that is permitted, and while it restores
a session that was restored before none to a backend or to write a record. -/
structure Attentive (engine : EngineId) (world : World) (call : Call) : Prop where
  permits : Permits engine world call
  manages : ∀ sessionId earlier events,
    ongoing engine world.log = some ⟨earlier, .restore sessionId, events⟩ →
      Proven earlier sessionId → call.Manages

section Steps

variable {engine : EngineId} {before after world : World} {call : Call} {answer : Answer call}

/-- A call is added to the request that it is made for. -/
theorem SharedLaw.ongoing_eq (law : SharedLaw engine before call answer after)
    {service : Ongoing} (serves : ongoing engine before.log = some service) :
    ∃ changed, ongoing engine after.log =
      some { service with events := ⟨call, answer, changed⟩ :: service.events } := by
  obtain ⟨changed, -, log⟩ := law.log
  refine ⟨changed, ?_⟩
  rw [log, ongoing, if_pos rfl, serves]
  rfl

theorem SharedLaw.aside (law : SharedLaw engine before call answer after)
    (permits : Permits engine before call) {other : EngineId} (different : other ≠ engine) :
    Aside other before after := by
  obtain ⟨changed, -, log⟩ := law.log
  refine ⟨law.unmoved permits different, [.port engine ⟨call, answer, changed⟩], log, ?_⟩
  rintro entry (_ | ⟨_, ⟨⟩⟩)
  exact different.symm

theorem SharedLaw.recalls (law : SharedLaw engine before call answer after)
    (attentive : Attentive engine before call) (recalls : Recalls engine before) :
    Recalls engine after := by
  obtain ⟨changed, -, log⟩ := law.log
  constructor
  · intro sessionId member
    rw [log, List.mem_cons] at member
    rcases member with impossible | member
    · cases impossible
    · exact law.concluded attentive.permits (recalls.concluded sessionId member)
  · rw [log]
    exact ⟨fun _ => attentive.manages, recalls.repeated⟩

/-- An entry that is no call. -/
theorem Recalls.note {entry : Entry} (recalls : Recalls engine world)
    (concluded : ∀ sessionId,
      .returned engine (.restore sessionId) (.state (.ok .restored)) = entry →
        Concluded world.files sessionId)
    (repeats : entry.engine = engine → entry.Repeats world.log) :
    Recalls engine (world.note entry) := by
  constructor
  · intro sessionId member
    rcases List.mem_cons.mp member with same | member
    · exact concluded sessionId same
    · exact recalls.concluded sessionId member
  · exact ⟨repeats, recalls.repeated⟩

end Steps

/-! ## What a restore proves -/

section Concluding

variable {engine : EngineId} {sessionId : SessionId} {world : World}

/-- Whatever a program calls, its result satisfies `post`. -/
abbrev Ends {α : Type} (engine : EngineId) (post : α → World → Prop) (program : Engine α)
    (world : World) : Prop :=
  Safe (SharedLaw engine) (Unmoved engine) (fun _ _ => True) post program world

theorem ends_of_within {α : Type} {allowed : Call → Prop} {post : α → Prop} {program : Engine α}
    (within : Within allowed post program) (world : World) :
    Ends engine (fun value _ => post value) program world := by
  have safe : Ends engine (fun value _ => post value ∧ True) program world := by
    refine Within.safe ?_ ?_ within trivial
    · exact fun _ _ => trivial
    · exact fun _ _ => ⟨trivial, fun _ _ _ => trivial⟩
  exact safe.mono fun _ _ known => known.1

theorem ends_ret {α : Type} {value : α} {post : α → World → Prop}
    (returned : ∀ later, post value later) : Ends engine post (.ret value : Engine α) world :=
  fun later _ => returned later

theorem ret_concluded {α : Type} {value : α} {post : α → World → Prop}
    (concluded : Concluded world.files sessionId)
    (returned : ∀ later, Concluded later.files sessionId → post value later) :
    Ends engine post (.ret value : Engine α) world :=
  fun later step => returned later (step.concluded sessionId concluded)

theorem Call.Manages.reads {call : Call} (manages : call.Manages) : call.Reads := by
  cases call with
  | create record => exact manages.elim
  | replace record => exact manages.elim
  | remove sessionId => exact manages.elim
  | apply sessionId mutation snapshot => exact manages.elim
  | _ => trivial

theorem releaseIfRestored_concluded (released : SessionId)
    (concluded : Concluded world.files sessionId) :
    Ends engine (fun _ after => Concluded after.files sessionId) (releaseIfRestored released)
      world := by
  have kept {world : World} {request : Call} (concluded : Concluded world.files sessionId)
      (manages : request.Manages) : True ∧ ∀ answer after,
        SharedLaw engine world request answer after → Concluded after.files sessionId := by
    refine ⟨trivial, fun answer after law => ?_⟩
    rwa [law.store.files_eq manages.reads]
  exact Safe.mono (Within.safe (fun step concluded => step.concluded sessionId concluded) kept
    (releaseIfRestored_manages released) concluded) fun _ _ known => known.2

/-- The result proves the session restored. -/
def Concludes {α : Type} (sessionId : SessionId) (restored : α)
    (result : Except SysboostError α) (world : World) : Prop :=
  result = .ok restored → Concluded world.files sessionId

theorem error_concludes {α : Type} {restored : α} {error : SysboostError} :
    Ends engine (Concludes sessionId restored) (.ret (.error error) : Engine (Except _ α))
      world :=
  ends_ret fun _ impossible => nomatch impossible

theorem ok_concludes {α : Type} {value restored : α} (concluded : Concluded world.files sessionId) :
    Ends engine (Concludes sessionId restored) (.ret (.ok value) : Engine (Except _ α)) world :=
  ret_concluded concluded fun _ concluded _ => concluded

/-- A loaded record that is restored. -/
theorem loadActiveRecord_concludes (sessionId : SessionId) :
    Ends engine (fun result after => ∀ record, result = .ok record →
      record.sessionId = sessionId ∧
        (record.session.state = .restored → Concluded after.files sessionId))
      (loadActiveRecord sessionId).run world := by
  intro later step
  refine ⟨trivial, fun answer after law => ?_⟩
  rcases answer with error | record
  · exact ends_ret fun _ _ impossible => nomatch impossible
  obtain ⟨files, member, own⟩ := law.store
  rintro last step _ ⟨⟩
  refine ⟨own, fun restored => step.concluded sessionId ⟨record, ?_, own, restored⟩⟩
  rwa [files]

theorem restoredBefore_concludes (sessionId : SessionId) :
    Ends engine (Concludes sessionId true) (restoredBefore sessionId).run world := by
  intro later step
  refine ⟨trivial, fun answer after law => ?_⟩
  cases answer with
  | none =>
      refine Safe.run_seq (Unmoved.refl engine) (loadActiveRecord_concludes sessionId)
        (fun _ _ _ => error_concludes) fun record loaded known => ?_
      by_cases restored : record.session.state = .restored
      · exact ok_concludes ((known record rfl).2 restored)
      · exact ends_ret fun _ same => absurd same (by simp [restored])
  | some active => exact ends_ret fun _ impossible => nomatch impossible

/-- A restored record that is written. -/
theorem persist_concludes {record : SessionRecord} (restored : record.session.state = .restored)
    (stage : Stage) :
    Ends engine (Concludes record.sessionId ()) (persist record stage).run world := by
  intro later step
  refine ⟨trivial, fun answer after law => ?_⟩
  rcases answer with error | done
  · exact error_concludes
  · obtain ⟨stored, files⟩ := law.store
    refine ok_concludes ⟨record, ?_, rfl, restored⟩
    rw [files]
    exact record_mem_substitute stored

theorem finishRestore_concludes {outline : Outline} {pass : RestorePass}
    (draft : pass.Drafts outline) (at_ : Timestamp) :
    Ends engine (fun outcome => Concludes outline.sessionId .restored outcome.1)
      (finishRestore outline.sessionId pass at_) world := by
  have refused {error : SysboostError} {record : SessionRecord} (world : World) :
      Ends engine (fun outcome => Concludes outline.sessionId .restored outcome.1)
        (.ret (.error error, record) : Engine (Except _ SessionState × SessionRecord)) world :=
    ends_ret fun _ impossible => nomatch impossible
  unfold finishRestore
  split
  · dsimp only
    split
    · exact refused _
    next record proven =>
      have own : record.sessionId = outline.sessionId :=
        congrArg Outline.sessionId (proven_outline draft proven)
      have restored : record.session.state = .restored := by
        rw [if_pos draft.unrestored] at proven
        rw [(SessionRecord.moved_of_transition proven).2, SessionRecord.moved_state]
      rw [← own] at refused ⊢
      refine Safe.seq (Unmoved.refl engine) (persist_concludes restored .restore)
        fun result after concludes => ?_
      cases result with
      | error error => exact refused _
      | ok done =>
          refine Safe.seq (Unmoved.refl engine)
            (releaseIfRestored_concluded record.sessionId (concludes rfl)) fun _ last known => ?_
          exact ret_concluded known fun _ concluded _ => concluded
  · split
    · exact refused _
    · exact Safe.seq (Unmoved.refl engine) (ends_of_within (Within.any _) _)
        fun _ _ _ => refused _

theorem restoreRecord_concludes {outline : Outline} {record : SessionRecord}
    (draft : record.Drafts outline) :
    Ends engine (fun outcome => Concludes outline.sessionId .restored outcome.1)
      (restoreRecord record) world := by
  have own : record.sessionId = outline.sessionId := congrArg Outline.sessionId draft.follows
  have draft' : RestorePass.Drafts outline ⟨record, [], false⟩ := draft
  refine Safe.seq (Unmoved.refl engine) (ends_of_within (Within.any _) _) fun _ ticked _ => ?_
  refine Safe.seq (Unmoved.refl engine)
    (ends_of_within (restoreOperations_handles draft' record.sessionId _) _)
    fun pass passed draft => ?_
  rw [own]
  exact finishRestore_concludes draft _

theorem restoreActive_concludes (sessionId : SessionId) :
    Ends engine (Concludes sessionId .restored) (restoreActive sessionId).run world := by
  refine Safe.run_seq (Unmoved.refl engine) (ends_of_within (Within.any _) _)
    (fun _ _ _ => error_concludes) fun _ active _ => ?_
  refine Safe.run_seq (Unmoved.refl engine) (loadActiveRecord_concludes sessionId)
    (fun _ _ _ => error_concludes) fun record loaded known => ?_
  obtain ⟨own, concluded⟩ := known record rfl
  split
  next restored =>
    exact Safe.lift_seq (Unmoved.refl engine)
      (releaseIfRestored_concluded sessionId (concluded restored)) fun _ _ => ok_concludes
  next unrestored =>
    have draft : record.Drafts record.outline := ⟨rfl, unrestored⟩
    refine Safe.lift_seq (Unmoved.refl engine)
      (ends_of_within (prepareRestoreState_handles draft) _) fun result prepared kept => ?_
    obtain ⟨outcome, left⟩ := result
    cases outcome with
    | error error => exact error_concludes
    | ok done =>
        refine Safe.lift_seq (Unmoved.refl engine) (restoreRecord_concludes kept)
          fun result ended concludes => ?_
        obtain ⟨outcome, last⟩ := result
        cases outcome with
        | error error => exact error_concludes
        | ok state =>
            by_cases restored : state = .restored
            · subst restored
              have concluded : Concluded ended.files sessionId := own ▸ concludes rfl
              exact Safe.lift_seq (Unmoved.refl engine)
                (releaseIfRestored_concluded sessionId concluded) fun _ _ => ok_concludes
            · refine Safe.lift_seq (Unmoved.refl engine) (ends_of_within (Within.any _) _)
                fun _ _ _ => ends_ret fun _ same => ?_
              exact absurd (Except.ok.inj same) restored

theorem restore_concludes (sessionId : SessionId) :
    Ends engine (Concludes sessionId .restored) (restore sessionId).run world := by
  refine Safe.run_seq (Unmoved.refl engine) (restoredBefore_concludes sessionId)
    (fun _ _ _ => error_concludes) fun restored read concludes => ?_
  cases restored with
  | true => exact ok_concludes (concludes rfl)
  | false => exact restoreActive_concludes sessionId

end Concluding

/-! ## A restore of a restored session -/

/-- The world of an engine that restores a restored session, as long as `smooth`
follows from what it was answered. -/
structure Repeating (engine : EngineId) (sessionId : SessionId) (earlier : List Entry)
    (lease : Option SessionId) (smooth : Prop) (world : World) : Prop where
  exclusive : Exclusive world
  concluded : Concluded world.files sessionId
  active : world.active engine = lease
  events : ∃ events, ongoing engine world.log = some ⟨earlier, .restore sessionId, events⟩ ∧
    ((∀ event ∈ events, event.Smooth sessionId) → smooth)

/-- Calls that write nothing and reach no backend. -/
abbrev Manages {α : Type} (engine : EngineId) (post : α → World → Prop) (program : Engine α)
    (world : World) : Prop :=
  Safe (SharedLaw engine) (Aside engine) (fun _ call => call.Manages) post program world

section Repeating

variable {engine : EngineId} {sessionId : SessionId} {earlier : List Entry}
  {lease : Option SessionId} {smooth : Prop} {before after world : World}

namespace Repeating

theorem moved (repeating : Repeating engine sessionId earlier lease smooth before)
    (step : Aside engine before after) :
    Repeating engine sessionId earlier lease smooth after where
  exclusive := step.exclusive repeating.exclusive
  concluded := step.concluded sessionId repeating.concluded
  active := step.active.trans repeating.active
  events := by
    rw [step.ongoing_eq]
    exact repeating.events

theorem mono {implied : Prop}
    (repeating : Repeating engine sessionId earlier lease smooth world)
    (implies : smooth → implied) : Repeating engine sessionId earlier lease implied world := by
  obtain ⟨events, serves, follows⟩ := repeating.events
  exact ⟨repeating.exclusive, repeating.concluded, repeating.active, events, serves,
    fun all => implies (follows all)⟩

/-- A call with its answer. -/
theorem step {call : Call} {answer : Answer call} {left : Option SessionId} {learned : Prop}
    (repeating : Repeating engine sessionId earlier lease smooth before)
    (law : SharedLaw engine before call answer after) (reads : call.Reads)
    (permits : Permits engine before call) (active : after.active engine = left)
    (learns : ∀ changed, Event.Smooth sessionId ⟨call, answer, changed⟩ → learned) :
    Repeating engine sessionId earlier left (smooth ∧ learned) after where
  exclusive := law.exclusive repeating.exclusive permits
  concluded := by
    rw [law.store.files_eq reads]
    exact repeating.concluded
  active := active
  events := by
    obtain ⟨events, serves, follows⟩ := repeating.events
    obtain ⟨changed, serves'⟩ := law.ongoing_eq serves
    refine ⟨_, serves', fun all => ?_⟩
    rw [List.forall_mem_cons] at all
    exact ⟨follows all.2, learns changed all.1⟩

theorem ret {α : Type} {value : α} {post : α → World → Prop}
    (repeating : Repeating engine sessionId earlier lease smooth world)
    (returned : ∀ later, Repeating engine sessionId earlier lease smooth later →
      post value later) : Manages engine post (.ret value : Engine α) world :=
  Safe.ret (fun step repeating => repeating.moved step) repeating returned

end Repeating

/-! ### One lemma per function -/

/-- A read of the lease. -/
theorem active_again (repeating : Repeating engine sessionId earlier lease smooth world) :
    Manages engine (fun answer after => answer = lease ∧ Repeating engine sessionId earlier lease
        (smooth ∧ ∀ leased, lease = some leased → leased = sessionId) after)
      (Prog.perform Call.active : Engine (Option SessionId)) world := by
  refine Safe.perform (fun step repeating => repeating.moved step) repeating
    fun later repeating => ⟨trivial, fun answer after law => ?_⟩
  obtain ⟨answered, active⟩ := law.lease
  have same : answer = lease := answered.trans repeating.active
  have kept : after.active engine = lease := by rw [active, repeating.active]
  exact (repeating.step law trivial trivial kept fun _ known => same ▸ known).ret
    fun _ repeating => ⟨same, repeating⟩

/-- A load finds the restored record. -/
theorem loadActiveRecord_again
    (repeating : Repeating engine sessionId earlier lease smooth world) :
    Manages engine (fun result after => (∀ record, result = .ok record →
        record.session.state = .restored) ∧ Repeating engine sessionId earlier lease
          (smooth ∧ ∃ record, result = .ok record) after)
      (loadActiveRecord sessionId).run world := by
  refine Safe.perform_bind (fun step repeating => repeating.moved step) repeating
    fun later repeating => ⟨trivial, fun answer after law => ?_⟩
  have active : after.active engine = lease := by
    rw [show after.active = later.active from law.lease, repeating.active]
  have left := repeating.step law trivial trivial active fun _ known => known
  cases answer with
  | error error =>
      refine (left.mono fun ⟨_, _, impossible⟩ => nomatch impossible).ret
        fun _ repeating => ⟨?_, repeating⟩
      rintro _ ⟨⟩
  | ok record =>
      obtain ⟨-, member, own⟩ := law.store
      subst own
      have restored := (repeating.exclusive.oneEach.concluded_iff member).mp repeating.concluded
      refine (left.mono fun known => ⟨known.1, record, rfl⟩).ret fun _ repeating => ⟨?_, repeating⟩
      rintro _ ⟨⟩
      exact restored

theorem releaseIfRestored_again
    (repeating : Repeating engine sessionId earlier lease smooth world) :
    Manages engine (fun _ after => ∃ left, Repeating engine sessionId earlier left smooth after)
      (releaseIfRestored sessionId) world := by
  refine Safe.seq (Aside.refl engine) (active_again repeating) fun answer after known => ?_
  have repeating := known.2.mono And.left
  cases answer with
  | none => exact repeating.ret fun _ repeating => ⟨lease, repeating⟩
  | some active =>
      dsimp only
      split
      · refine Safe.perform (fun step repeating => repeating.moved step) repeating
          fun later repeating => ⟨trivial, fun answer after law => ?_⟩
        have dropped : after.active engine = none := by
          rw [show after.active = _ from law.lease, Function.update_self]
        have left := repeating.step law trivial trivial dropped fun _ known => known
        exact (left.mono And.left).ret fun _ repeating => ⟨none, repeating⟩
      · exact repeating.ret fun _ repeating => ⟨lease, repeating⟩

/-- When all was smooth the result is that the session is restored. -/
def Again (engine : EngineId) (sessionId : SessionId) (earlier : List Entry)
    (result : Except SysboostError SessionState) (world : World) : Prop :=
  ∃ lease, Repeating engine sessionId earlier lease (result = .ok .restored) world

theorem ret_again {result : Except SysboostError SessionState}
    (repeating : Repeating engine sessionId earlier lease smooth world)
    (follows : smooth → result = .ok .restored) :
    Manages engine (Again engine sessionId earlier) (.ret result) world :=
  (repeating.mono follows).ret fun _ repeating => ⟨lease, repeating⟩

theorem requireActive_again {active : SessionId}
    (repeating : Repeating engine sessionId earlier (some active) smooth world) :
    Manages engine (fun result after =>
        Repeating engine sessionId earlier (some active) (smooth ∧ result = .ok ()) after)
      (requireActive sessionId).run world := by
  refine Safe.lift_seq (Aside.refl engine) (active_again repeating) fun answer after known => ?_
  obtain ⟨rfl, repeating⟩ := known
  by_cases mine : active = sessionId
  · simp only [mine, if_true]
    subst mine
    exact (repeating.mono fun known => ⟨known.1, rfl⟩).ret fun _ repeating => repeating
  · simp only [mine, if_false]
    exact (repeating.mono fun known => absurd (known.2 active rfl) mine).ret
      fun _ repeating => repeating

theorem restoreActive_again {active : SessionId}
    (repeating : Repeating engine sessionId earlier (some active) smooth world) :
    Manages engine (Again engine sessionId earlier) (restoreActive sessionId).run world := by
  refine Safe.run_seq (Aside.refl engine) (requireActive_again repeating)
    (fun _ _ repeating => ret_again repeating fun known => nomatch known.2)
    fun _ after repeating => ?_
  refine Safe.run_seq (Aside.refl engine) (loadActiveRecord_again repeating)
    (fun _ _ known => ret_again known.2 fun ⟨_, _, impossible⟩ => nomatch impossible)
    fun record loaded known => ?_
  rw [if_pos (known.1 record rfl)]
  refine Safe.lift_seq (Aside.refl engine) (releaseIfRestored_again known.2)
    fun _ released known => ?_
  obtain ⟨left, repeating⟩ := known
  exact ret_again repeating fun _ => rfl

/-- A restore of a restored session reads the lease and the record, and drops the lease. -/
theorem restore_again (repeating : Repeating engine sessionId earlier lease True world) :
    Manages engine (Again engine sessionId earlier) (restore sessionId).run world := by
  have before : Manages engine (fun result after => (result = .ok false → ∃ active,
      lease = some active) ∧ Repeating engine sessionId earlier lease
        (∃ restored, result = .ok restored) after) (restoredBefore sessionId).run world := by
    refine Safe.lift_seq (Aside.refl engine) (active_again repeating) fun answer after known => ?_
    obtain ⟨rfl, repeating⟩ := known
    cases answer with
    | none =>
        refine Safe.run_seq (Aside.refl engine) (loadActiveRecord_again repeating)
          (fun _ _ known => ?_) fun record loaded known => ?_
        · refine (known.2.mono fun ⟨_, _, impossible⟩ => nomatch impossible).ret
            fun _ repeating => ⟨?_, repeating⟩
          rintro ⟨⟩
        · refine (known.2.mono fun _ => ⟨_, rfl⟩).ret fun _ repeating => ⟨fun same => ?_, repeating⟩
          exact absurd (known.1 record rfl) (of_decide_eq_false (Except.ok.inj same))
    | some active =>
        exact (repeating.mono fun _ => ⟨_, rfl⟩).ret
          fun _ repeating => ⟨fun _ => ⟨active, rfl⟩, repeating⟩
  refine Safe.run_seq (Aside.refl engine) before
    (fun _ _ known => ret_again known.2 fun ⟨_, impossible⟩ => nomatch impossible)
    fun restored after known => ?_
  cases restored with
  | true => exact ret_again known.2 fun _ => rfl
  | false =>
      obtain ⟨active, rfl⟩ := known.1 rfl
      exact restoreActive_again known.2

end Repeating

/-! ## All interleavings -/

/-- The engine serves a request that was made after `earlier`. -/
def InService (engine : EngineId) (earlier : List Entry) (request : Request) (world : World) :
    Prop :=
  ∃ events, ongoing engine world.log = some ⟨earlier, request, events⟩

section Programs

variable {world : World}

theorem ongoing_requested (engine : EngineId) (request : Request) (world : World) :
    ongoing engine (world.note (.requested engine request)).log =
      some ⟨world.log, request, []⟩ :=
  if_pos rfl

/-- A program makes permitted calls while its request is in service. -/
theorem program_serves (engine : EngineId) (exclusive : Exclusive world) (request : Request) :
    Safe (SharedLaw engine) (Aside engine)
      (fun later call => Permits engine later call ∧ InService engine world.log request later)
      (fun _ after => True ∧ InService engine world.log request after) request.program
      (world.note (.requested engine request)) := by
  have shares : Shares engine (fun _ _ => True) request.program
      (world.note (.requested engine request)) := program_shares (exclusive.note _) request
  refine (shares.undisturbed fun step => step.toUnmoved).carry ?_ ?_
    ⟨[], ongoing_requested engine request world⟩
  · rintro before after step ⟨events, serves⟩
    exact ⟨events, step.ongoing_eq.trans serves⟩
  · rintro before call answer after ⟨events, serves⟩ - law
    obtain ⟨changed, serves⟩ := law.ongoing_eq serves
    exact ⟨_, serves⟩

/-- The last entry of a request is what it may be. -/
structure Replies (engine : EngineId) (request : Request) (reply : Reply) (world : World) :
    Prop where
  concluded : ∀ sessionId, request = .restore sessionId → reply = .state (.ok .restored) →
    Concluded world.files sessionId
  repeats : (Entry.returned engine request reply).Repeats world.log

/-- Only one request is in service. -/
theorem InService.eq_of_ongoing {engine : EngineId} {earlier older : List Entry}
    {request made : Request} {events : List Event}
    (inService : InService engine earlier request world)
    (serves : ongoing engine world.log = some ⟨older, made, events⟩) :
    older = earlier ∧ made = request := by
  obtain ⟨events', serves'⟩ := inService
  obtain ⟨⟩ := Option.some.inj (serves.symm.trans serves')
  exact ⟨rfl, rfl⟩

section First

variable {engine : EngineId} {earlier : List Entry} {request : Request}

/-- While a request is served that is no repeated restore, every permitted call may be made. -/
theorem InService.attentive (inService : InService engine earlier request world)
    (first : ∀ sessionId, request = .restore sessionId → ¬Proven earlier sessionId)
    {call : Call} (permits : Permits engine world call) : Attentive engine world call where
  permits := permits
  manages sessionId older events serves proven := by
    obtain ⟨rfl, same⟩ := inService.eq_of_ongoing serves
    exact absurd proven (first sessionId same.symm)

theorem InService.repeats (inService : InService engine earlier request world)
    (first : ∀ sessionId, request = .restore sessionId → ¬Proven earlier sessionId)
    (reply : Reply) : (Entry.returned engine request reply).Repeats world.log := by
  intro sessionId older events serves proven
  obtain ⟨rfl, same⟩ := inService.eq_of_ongoing serves
  exact absurd proven (first sessionId same.symm)

end First

/-- What a program returns as restored is restored in the store. -/
theorem program_concludes (engine : EngineId) (request : Request) :
    Safe (SharedLaw engine) (Aside engine) (fun _ _ => True)
      (fun reply after => ∀ sessionId, request = .restore sessionId →
        reply = .state (.ok .restored) → Concluded after.files sessionId) request.program world := by
  refine Safe.undisturbed ?_ fun step => step.toUnmoved
  by_cases restores : ∃ sessionId, request = .restore sessionId
  · obtain ⟨sessionId, rfl⟩ := restores
    refine Safe.seq (Unmoved.refl engine) (restore_concludes sessionId)
      fun result after concludes => ?_
    refine Safe.ret (fun step known other same returned =>
      step.concluded other (known other same returned)) ?_ fun _ known => known
    rintro _ ⟨⟩ ⟨⟩
    exact concludes rfl
  · exact (ends_of_within (Within.any _) _).mono fun _ _ _ sessionId same =>
      absurd ⟨sessionId, same⟩ restores

/-- The restore of a session that was restored before. -/
theorem program_again (engine : EngineId) (exclusive : Exclusive world)
    (recalls : ∀ engine, Recalls engine world) {sessionId : SessionId}
    (proven : Proven world.log sessionId) :
    Manages engine (fun reply after => ∃ result, reply = .state result ∧
        Again engine sessionId world.log result after) (Request.restore sessionId).program
      (world.note (.requested engine (.restore sessionId))) := by
  obtain ⟨maker, returned⟩ := proven
  have start : Repeating engine sessionId world.log (world.active engine) True
      (world.note (.requested engine (.restore sessionId))) :=
    ⟨exclusive.note _, (recalls maker).concluded sessionId returned, rfl, [],
      ongoing_requested engine _ world, fun _ => trivial⟩
  refine Safe.seq (Aside.refl engine) (restore_again start) fun result after again => ?_
  obtain ⟨lease, repeating⟩ := again
  exact repeating.ret fun _ repeating => ⟨result, rfl, lease, repeating⟩

theorem Again.repeats {engine : EngineId} {sessionId : SessionId} {earlier : List Entry}
    {result : Except SysboostError SessionState}
    (again : Again engine sessionId earlier result world) :
    (Entry.returned engine (.restore sessionId) (.state result)).Repeats world.log := by
  obtain ⟨lease, repeating⟩ := again
  obtain ⟨events, serves, follows⟩ := repeating.events
  intro other older events' serves' _ smooth
  obtain ⟨⟩ := Option.some.inj (serves'.symm.trans serves)
  rw [follows smooth]

theorem program_replies (engine : EngineId) (exclusive : Exclusive world)
    (recalls : ∀ engine, Recalls engine world) (request : Request) :
    Safe (SharedLaw engine) (Aside engine) (Attentive engine) (Replies engine request)
      request.program (world.note (.requested engine request)) := by
  have known := (program_serves engine exclusive request).and (program_concludes engine request)
  by_cases first : ∀ sessionId, request = .restore sessionId → ¬Proven world.log sessionId
  · refine (known.weaken (fun _ _ _ _ _ law => law) fun _ _ guarded => ?_).mono
      fun reply _ known => ?_
    · exact guarded.1.2.attentive first guarded.1.1
    · exact ⟨known.2, known.1.2.repeats first reply⟩
  · push Not at first
    obtain ⟨sessionId, rfl, proven⟩ := first
    refine ((known.and (program_again engine exclusive recalls proven)).weaken
      (fun _ _ _ _ _ law => law) fun _ _ guarded => ?_).mono fun reply _ known => ?_
    · exact ⟨guarded.1.1.1, fun _ _ _ _ _ => guarded.2⟩
    · obtain ⟨⟨-, concluded⟩, result, rfl, again⟩ := known
      exact ⟨concluded, again.repeats⟩

end Programs

theorem Recalls.reply {engine : EngineId} {request : Request} {reply : Reply} {world : World}
    (recalls : Recalls engine world) (replies : Replies engine request reply world) :
    Recalls engine (world.note (.returned engine request reply)) := by
  refine recalls.note ?_ fun _ => replies.repeats
  rintro sessionId ⟨⟩
  exact replies.concluded sessionId rfl rfl

/-- What the engines rely on and guarantee. -/
def repeatContract : (service SharedLaw).Contract where
  invariant world := Exclusive world ∧ ∀ engine, Recalls engine world
  idle := Recalls
  rely := Aside
  guard := Attentive

theorem repeatContract_sound : repeatContract.Sound World.empty where
  rely_trans _ _ _ _ first second := first.trans second
  rely_refl := Aside.refl
  idle_stable step recalls := step.recalls recalls
  start := by
    have recalls (engine : EngineId) : Recalls engine World.empty :=
      ⟨fun _ impossible => (List.not_mem_nil impossible).elim, trivial⟩
    exact ⟨⟨exclusive_empty, recalls⟩, recalls⟩
  issue engine request world invariant _ := by
    obtain ⟨exclusive, recalls⟩ := invariant
    have noted (other : EngineId) :
        Recalls other (world.note (.requested engine request)) :=
      (recalls other).note (fun _ impossible => nomatch impossible) fun _ _ _ _ _ _ => trivial
    refine ⟨⟨exclusive.note _, noted⟩, ?_⟩
    have carried := (program_replies engine exclusive recalls request).carry
      (fun step recalls => step.recalls recalls)
      (fun recalls attentive law => law.recalls attentive recalls) (noted engine)
    exact (carried.weaken (fun _ _ _ _ _ law => law) fun _ _ guarded => guarded.1).mono
      fun reply after known => known.2.reply known.1
  issue_rely request world different := Aside.note (Ne.symm different) world
  law {engine before call answer after} invariant attentive law := by
    obtain ⟨exclusive, recalls⟩ := invariant
    have aside (other : EngineId) (different : other ≠ engine) : Aside other before after :=
      law.aside attentive.permits different
    refine ⟨⟨law.exclusive exclusive attentive.permits, fun other => ?_⟩, aside⟩
    by_cases same : other = engine
    · subst same
      exact law.recalls attentive (recalls other)
    · exact (aside other same).recalls (recalls other)
  reply {engine request reply world} invariant own := by
    obtain ⟨exclusive, recalls⟩ := invariant
    have aside (other : EngineId) (different : other ≠ engine) :
        Aside other world (world.note (.returned engine request reply)) :=
      Aside.note (Ne.symm different) world
    refine ⟨⟨exclusive.note _, fun other => ?_⟩, aside⟩
    by_cases same : other = engine
    · subst same
      exact own
    · exact (aside other same).recalls (recalls other)
  stop engine world invariant := by
    obtain ⟨exclusive, recalls⟩ := invariant
    have kept (other : EngineId) : Recalls other (world.crash engine) :=
      ⟨(recalls other).concluded, (recalls other).repeated⟩
    refine ⟨⟨exclusive.crash engine, kept⟩, kept engine, fun other different => ?_⟩
    exact ⟨Unmoved.crash different world, [], rfl, by simp⟩

/-- **Restore is idempotent.**  In every interleaving of engines that share a
store and an exclusive lock: once a restore of a session has returned `Restored`,
no call made for a later restore of the session reaches a backend or changes the
store, and that restore returns `Restored` as well unless a load failed or the
engine held a lease for another session. -/
theorem restore_idempotent
    {state : Service.Concurrent Answer EngineId Request Reply World}
    (reachable : (service SharedLaw).ConcurrentReachable World.empty state)
    {newer older earlier : List Entry} {entry : Entry} {sessionId : SessionId}
    {events : List Event} (split : state.world.log = newer ++ entry :: older)
    (serves : ongoing entry.engine older = some ⟨earlier, .restore sessionId, events⟩)
    (proven : Proven earlier sessionId) :
    (∀ engine event, entry = .port engine event → event.call.Manages) ∧
      ∀ engine request reply, entry = .returned engine request reply →
        (∀ event ∈ events, event.Smooth sessionId) → reply = .state (.ok .restored) := by
  obtain ⟨⟨-, recalls⟩, -⟩ := repeatContract_sound.reachable reachable
  have repeated := (recalls entry.engine).repeated
  rw [split] at repeated
  have repeats := repeated.entry sessionId earlier events serves proven
  constructor
  · rintro engine event rfl
    exact repeats
  · rintro engine request reply rfl
    exact repeats

/-- A session that is prepared, applied and restored by an engine. -/
def restoredWorld : World :=
  steadyKit.serve 0 (.restore steadyKit.sessionId) (appliedWorld steadyKit)

theorem restoredWorld_reachable :
    (service SharedLaw).ConcurrentReachable World.empty ⟨restoredWorld, fun _ => none⟩ := by
  unfold restoredWorld appliedWorld
  exact steadyKit.shared_serve (steadyKit.shared_serve (steadyKit.shared_serve .refl 0 _) 0 _) 0 _

theorem restoredWorld_proven : Proven restoredWorld.log steadyKit.sessionId := by
  have restored : (steadyKit.outcome 0 (.restore steadyKit.sessionId) (appliedWorld steadyKit)).1 =
      .state (.ok .restored) := by decide +kernel
  refine ⟨0, List.mem_cons.mpr (.inl ?_)⟩
  rw [restored]

/-- Another engine restores the session once more. -/
theorem restore_idempotent_governor :
    ∃ outcome, outcome = steadyKit.outcome 1 (.restore steadyKit.sessionId) restoredWorld ∧
      Proven restoredWorld.log steadyKit.sessionId ∧
      ∃ events, ongoing 1 outcome.2.log =
          some ⟨restoredWorld.log, .restore steadyKit.sessionId, events⟩ ∧
        ((∀ event ∈ events, event.Smooth steadyKit.sessionId) →
          outcome.1 = .state (.ok .restored)) := by
  have proven := restoredWorld_proven
  have reachable := restoredWorld_reachable
  generalize restoredWorld = world at proven reachable ⊢
  obtain ⟨exclusive, -⟩ := sharedContract_sound.reachable reachable
  have alone : Alone (SharedLaw 1) _ _ (Request.restore steadyKit.sessionId).program _ :=
    (program_serves 1 exclusive (.restore steadyKit.sessionId)).undisturbed
      fun same => same ▸ Aside.refl 1 _
  have run : Executes (SharedLaw 1) (Request.restore steadyKit.sessionId).program _
      (steadyKit.outcome 1 (.restore steadyKit.sessionId) world).1
      (steadyKit.outcome 1 (.restore steadyKit.sessionId) world).2 :=
    Executes.exec (fun _ => steadyKit.shared_law) _ _
  obtain ⟨-, events, serves⟩ := run.post alone
  have after := steadyKit.shared_serve reachable 1 (.restore steadyKit.sessionId)
  refine ⟨_, rfl, proven, events, serves, ?_⟩
  have split : (steadyKit.serve 1 (.restore steadyKit.sessionId) world).log =
      [] ++ .returned 1 (.restore steadyKit.sessionId)
        (steadyKit.outcome 1 (.restore steadyKit.sessionId) world).1 ::
          (steadyKit.outcome 1 (.restore steadyKit.sessionId) world).2.log := rfl
  exact (restore_idempotent after split serves proven).2 1 _ _ rfl

end Sysboost.Platform
