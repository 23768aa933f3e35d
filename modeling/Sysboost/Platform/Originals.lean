import Sysboost.Platform.CheckedRecords
import Sysboost.Platform.Comparison
import Sysboost.Platform.Testkit

/-!
# What the targets hold

A mutation acts on one place of the machine.  When nobody but the engines' backends
writes to these places, a place that does not hold its original is on record: a stored
session that is not over has an operation on it which is not settled.
-/

namespace Sysboost.Platform

open Sysboost.Core Interaction

variable {Place : Type}

/-! ## Places -/

/-- The world, with what every place of the machine holds. -/
structure Machine (Place : Type) where
  world : World
  values : Place → StateFingerprint

/-- No place but this one can hold something else. -/
def OnlyAt (spot : Place) (before after : Place → StateFingerprint) : Prop :=
  ∀ other, other ≠ spot → after other = before other

/-- What a call does to the places: an apply or a restore can change the place of its
mutation, a failed apply of known retryability changes nothing or leaves the value of
its snapshot, a verified restore leaves what it says, and snapshots and readbacks tell
what is there. -/
def PlaceLaw (place : PlannedMutation → Place) (before after : Place → StateFingerprint) :
    (call : Call) → Answer call → Prop
  | .snapshot mutation _, .ok snapshot =>
      after = before ∧ snapshot.originalFingerprint = before (place mutation)
  | .verify _ _ mutation _ _, .ok observed => after = before ∧ observed = before (place mutation)
  | .apply _ mutation _, .ok _ => OnlyAt (place mutation) before after
  | .apply _ mutation snapshot, .error error =>
      OnlyAt (place mutation) before after ∧ (error.retryability ≠ .unknown →
        after = before ∨ after (place mutation) = snapshot.originalFingerprint)
  | .restore _ mutation _ _, .ok receipt =>
      OnlyAt (place mutation) before after ∧
        (receipt.verified = true → after (place mutation) = receipt.restoredFingerprint)
  | .restore _ mutation _ _, .error _ => OnlyAt (place mutation) before after
  | _, _ => after = before

/-- One port call of an engine on a machine. -/
structure MachineLaw (place : PlannedMutation → Place) (engine : EngineId)
    (before : Machine Place) (call : Call) (answer : Answer call) (after : Machine Place) :
    Prop where
  world : Law engine before.world call answer after.world
  values : PlaceLaw place before.values after.values call answer

/-- Engines on a machine. -/
def machineService (place : PlannedMutation → Place) :
    Service Answer EngineId Request Reply (Machine Place) where
  program := Request.program
  env := MachineLaw place
  issue engine request machine :=
    { machine with world := machine.world.note (.requested engine request) }
  reply engine request reply machine :=
    { machine with world := machine.world.note (.returned engine request reply) }
  stop engine machine := { machine with world := machine.world.crash engine }

namespace PlaceLaw

variable {place : PlannedMutation → Place} {before after : Place → StateFingerprint} {call : Call}
  {answer : Answer call}

/-- A place that changes is the place of an apply or of a restore. -/
theorem changes (law : PlaceLaw place before after call answer) {spot : Place}
    (changed : after spot ≠ before spot) :
    (∃ sessionId mutation snapshot, call = .apply sessionId mutation snapshot ∧
      place mutation = spot) ∨
    ∃ sessionId mutation snapshot ownership,
      call = .restore sessionId mutation snapshot ownership ∧ place mutation = spot := by
  have here {mutation : PlannedMutation} (only : OnlyAt (place mutation) before after) :
      place mutation = spot := by
    by_contra other
    exact changed (only spot (Ne.symm other))
  have nothing (same : after = before) : False := changed (congrFun same spot)
  cases call with
  | apply sessionId mutation snapshot =>
      cases answer with
      | error error => exact .inl ⟨sessionId, mutation, snapshot, rfl, here law.1⟩
      | ok receipt => exact .inl ⟨sessionId, mutation, snapshot, rfl, here law⟩
  | restore sessionId mutation snapshot ownership =>
      cases answer with
      | error error => exact .inr ⟨sessionId, mutation, snapshot, ownership, rfl, here law⟩
      | ok receipt => exact .inr ⟨sessionId, mutation, snapshot, ownership, rfl, here law.1⟩
  | snapshot mutation now =>
      cases answer with
      | error error => exact (nothing law).elim
      | ok snapshot => exact (nothing law.1).elim
  | verify sessionId stage mutation expected identity =>
      cases answer with
      | error error => exact (nothing law).elim
      | ok observed => exact (nothing law.1).elim
  | _ => exact (nothing law).elim

/-- A proof of the original is true. -/
theorem proven (law : PlaceLaw place before after call answer) {engine : EngineId}
    {changed : Bool} {sessionId : SessionId} {mutation : PlannedMutation} {snapshot : Snapshot}
    (proves : Entry.Proves sessionId mutation snapshot (.port engine ⟨call, answer, changed⟩)) :
    after (place mutation) = snapshot.originalFingerprint := by
  cases call with
  | verify session stage read expected identity =>
      cases answer with
      | error error => exact proves.elim
      | ok observed =>
          rcases proves with ⟨-, rfl, same⟩
          rw [law.1, ← law.2]
          exact same
  | restore session restored original ownership =>
      cases answer with
      | error error => exact proves.elim
      | ok receipt =>
          rcases proves with ⟨-, rfl, -, verified, same⟩
          rw [law.2 verified]
          exact same
  | _ => exact proves.elim

/-- A reported failure has changed nothing, or left the value of its snapshot. -/
theorem excused {sessionId : SessionId} {mutation : PlannedMutation} {snapshot : Snapshot}
    {answer : Answer (.apply sessionId mutation snapshot)}
    (law : PlaceLaw place before after (.apply sessionId mutation snapshot) answer)
    {engine : EngineId} {changed : Bool} (reported : Entry.ReportedFailure
      (.port engine ⟨.apply sessionId mutation snapshot, answer, changed⟩)) :
    after = before ∨ after (place mutation) = snapshot.originalFingerprint := by
  cases answer with
  | error error => exact law.2 reported.1
  | ok receipt => exact reported.elim

end PlaceLaw

/-! ## Disturbed places -/

variable {place : PlannedMutation → Place} {orig : Place → StateFingerprint}

/-- An apply at this place is neither a reported failure nor followed by a proof of
the original. -/
def Disturbed (place : PlannedMutation → Place) (log : List Entry) (spot : Place) : Prop :=
  ∃ newer entry older sessionId mutation snapshot, log = newer ++ entry :: older ∧
    entry.IsApply sessionId mutation snapshot ∧ place mutation = spot ∧
      ¬Settled newer entry sessionId mutation snapshot

theorem Disturbed.grow {log : List Entry} {spot : Place} {last : Entry}
    (disturbed : Disturbed place log spot)
    (unproven : ∀ entry ∈ log, ∀ sessionId mutation snapshot,
      entry.IsApply sessionId mutation snapshot → place mutation = spot →
        ¬last.Proves sessionId mutation snapshot) : Disturbed place (last :: log) spot := by
  rcases disturbed with
    ⟨newer, entry, older, sessionId, mutation, snapshot, rfl, isApply, here, unsettled⟩
  refine ⟨last :: newer, entry, older, sessionId, mutation, snapshot, rfl, isApply, here, ?_⟩
  rintro (reported | ⟨proof, member, proves⟩)
  · exact unsettled (.inl reported)
  · rcases List.mem_cons.mp member with rfl | member
    · exact unproven entry (by simp) sessionId mutation snapshot isApply here proves
    · exact unsettled (.inr ⟨proof, member, proves⟩)

/-- An apply disturbs its place. -/
theorem disturbed_cons {log : List Entry} {entry : Entry} {sessionId : SessionId}
    {mutation : PlannedMutation} {snapshot : Snapshot}
    (isApply : entry.IsApply sessionId mutation snapshot) (unreported : ¬entry.ReportedFailure) :
    Disturbed place (entry :: log) (place mutation) := by
  refine ⟨[], entry, log, sessionId, mutation, snapshot, rfl, isApply, rfl, ?_⟩
  rintro (reported | ⟨proof, member, -⟩)
  · exact unreported reported
  · cases member

/-! ## The invariant -/

/-- The snapshot holds the original of its place. -/
def Original (place : PlannedMutation → Place) (orig : Place → StateFingerprint)
    (mutation : PlannedMutation) (snapshot : Snapshot) : Prop :=
  snapshot.originalFingerprint = orig (place mutation)

/-- The last exchange, when nothing else has happened since. -/
def World.latest (world : World) : Option (Exchange Answer) :=
  match world.log with
  | .port _ event :: _ => some ⟨event.call, event.answer⟩
  | _ => none

theorem Law.latest {engine : EngineId} {before after : World} {call : Call} {answer : Answer call}
    (law : Law engine before call answer after) : after.latest = some ⟨call, answer⟩ := by
  rcases law.log with ⟨changed, -, log⟩
  rw [World.latest, log]

/-- The reply says that nothing of an earlier session is left. -/
def Reply.AllClear : Reply → Prop
  | .prepared (.ok _) => True
  | .recovered (.ok _) => True
  | _ => False

instance (reply : Reply) : Decidable reply.AllClear :=
  match reply with
  | .prepared (.ok _) => isTrue trivial
  | .prepared (.error _) => isFalse id
  | .recovered (.ok _) => isTrue trivial
  | .recovered (.error _) => isFalse id
  | .state _ => isFalse id
  | .aborted _ => isFalse id

/-- Snapshots hold originals, and a place that does not hold its original is disturbed. -/
structure Traced (place : PlannedMutation → Place) (orig : Place → StateFingerprint)
    (machine : Machine Place) : Prop where
  trusted : ∀ record ∈ machine.world.files, Trusted (Original place orig) record
  applied : ∀ entry ∈ machine.world.log, ∀ sessionId mutation snapshot,
    entry.IsApply sessionId mutation snapshot → Original place orig mutation snapshot
  kept : ∀ spot, machine.values spot ≠ orig spot → Disturbed place machine.world.log spot
  read : ∀ sessionId stage mutation expected identity observed,
    machine.world.latest = some ⟨.verify sessionId stage mutation expected identity,
      .ok observed⟩ → machine.values (place mutation) = observed
  answered : ∀ engine request reply older,
    machine.world.log = .returned engine request reply :: older → reply.AllClear →
      machine.values = orig

/-- What must be known of a call. -/
def Fit (place : PlannedMutation → Place) (orig : Place → StateFingerprint)
    (last : Option (Exchange Answer)) : Call → Prop
  | .create record => record.outline.Sound (Original place orig)
  | .replace record => Trusted (Original place orig) record
  | .apply _ mutation snapshot => Original place orig mutation snapshot
  | .restore sessionId mutation snapshot ownership => Original place orig mutation snapshot ∧
      Compared last (.restore sessionId mutation snapshot ownership)
  | _ => True

namespace Traced

variable {machine after : Machine Place} {engine : EngineId} {call : Call} {answer : Answer call}

/-- A place that a fitting restore changes did not hold its original. -/
theorem restored (traced : Traced place orig machine) {sessionId : SessionId}
    {mutation : PlannedMutation} {snapshot : Snapshot} {ownership : StateFingerprint}
    (fit : Fit place orig machine.world.latest (.restore sessionId mutation snapshot ownership)) :
    machine.values (place mutation) ≠ orig (place mutation) := by
  rcases fit with ⟨original, last, other⟩
  rw [traced.read _ _ _ _ _ _ last, ← original]
  exact other

/-- A place that does not hold its original after a call is disturbed. -/
theorem disturbed (traced : Traced place orig machine)
    (fit : Fit place orig machine.world.latest call)
    (law : PlaceLaw place machine.values after.values call answer) {changed : Bool} {spot : Place}
    (other : after.values spot ≠ orig spot) :
    Disturbed place (.port engine ⟨call, answer, changed⟩ :: machine.world.log) spot := by
  have grows (before : machine.values spot ≠ orig spot) :
      Disturbed place (.port engine ⟨call, answer, changed⟩ :: machine.world.log) spot := by
    apply (traced.kept spot before).grow
    rintro entry member sessionId mutation snapshot isApply rfl proves
    apply other
    rw [law.proven proves]
    exact traced.applied entry member sessionId mutation snapshot isApply
  by_cases same : after.values spot = machine.values spot
  · exact grows (same ▸ other)
  rcases law.changes same with ⟨sessionId, mutation, snapshot, rfl, rfl⟩ |
    ⟨sessionId, mutation, snapshot, ownership, rfl, rfl⟩
  · apply disturbed_cons ⟨engine, answer, changed, rfl⟩
    intro reported
    rcases law.excused reported with unchanged | original
    · exact same (congrFun unchanged _)
    · exact other (original.trans fit)
  · exact grows (traced.restored fit)

/-- A fitting call keeps the invariant. -/
theorem step (traced : Traced place orig machine)
    (fit : Fit place orig machine.world.latest call)
    (law : MachineLaw place engine machine call answer after) : Traced place orig after := by
  rcases law.world.log with ⟨changed, -, log⟩
  constructor
  · intro record member
    rcases law.world.store.origin member with known | ⟨rfl, -⟩ | rfl
    · exact traced.trusted record known
    · exact .inr fit
    · exact fit
  · intro entry member sessionId mutation snapshot isApply
    rw [log] at member
    rcases List.mem_cons.mp member with rfl | member
    · rcases isApply with ⟨_, _, _, same⟩
      cases same
      exact fit
    · exact traced.applied entry member sessionId mutation snapshot isApply
  · intro spot other
    rw [log]
    exact traced.disturbed fit law.values other
  · intro sessionId stage mutation expected identity observed last
    rw [law.world.latest] at last
    cases last
    rw [law.values.1, law.values.2]
  · intro other request reply older same
    rw [log] at same
    cases same

theorem note (traced : Traced place orig machine) {entry : Entry}
    (silent : ∀ engine event, entry ≠ .port engine event)
    (answered : ∀ engine request reply, entry = .returned engine request reply → reply.AllClear →
      machine.values = orig) :
    Traced place orig { machine with world := machine.world.note entry } where
  trusted := traced.trusted
  applied applied member sessionId mutation snapshot isApply := by
    rcases List.mem_cons.mp member with rfl | member
    · rcases isApply with ⟨engine, answer, changed, same⟩
      exact absurd same (silent _ _)
    · exact traced.applied applied member sessionId mutation snapshot isApply
  kept spot other := by
    apply (traced.kept spot other).grow
    intro _ _ _ _ _ _ _ proves
    cases entry with
    | port engine event => exact silent engine event rfl
    | requested engine request => exact proves
    | returned engine request reply => exact proves
  read sessionId stage mutation expected identity observed last := by
    cases entry with
    | port engine event => exact absurd rfl (silent engine event)
    | requested engine request => cases last
    | returned engine request reply => cases last
  answered engine request reply older same allClear :=
    answered engine request reply (List.cons.inj same).1 allClear

/-- Nothing has happened, and every place holds its original. -/
theorem empty : Traced place orig ⟨World.empty, orig⟩ where
  trusted record member := by
    cases member
  applied entry member := by
    cases member
  kept spot other := absurd rfl other
  read _ _ _ _ _ _ last := by
    cases last
  answered _ _ _ _ same := by
    cases same

theorem crash (traced : Traced place orig machine) (engine : EngineId) :
    Traced place orig { machine with world := machine.world.crash engine } :=
  ⟨traced.trusted, traced.applied, traced.kept, traced.read, traced.answered⟩

/-- When every apply is accounted for, every place holds its original. -/
theorem values_eq (traced : Traced place orig machine)
    (accounted : ∀ sessionId, Accounted machine.world.log sessionId) :
    machine.values = orig := by
  funext spot
  by_contra other
  rcases traced.kept spot other with
    ⟨newer, entry, older, sessionId, mutation, snapshot, log, isApply, -, unsettled⟩
  exact unsettled (accounted sessionId newer entry older mutation snapshot log isApply)

end Traced

/-- Every stored session is over. -/
def AllOver (files : List SessionRecord) : Prop :=
  ∀ record ∈ files, record.session.state = .restored

/-- When every stored session is over, every apply is accounted for. -/
theorem Coherent.accounted {world : World} (coherent : Coherent world)
    (ended : AllOver world.files) (sessionId : SessionId) :
    Accounted world.log sessionId := by
  intro newer entry older mutation snapshot split isApply
  have member : entry ∈ world.log := by
    rw [split]
    exact List.mem_append_right _ List.mem_cons_self
  have stored := coherent.stored entry member sessionId mutation snapshot isApply
  simp only [Fresh, not_forall, not_not] at stored
  rcases stored with ⟨record, present, rfl⟩
  exact (coherent.possible record present).accounted (ended record present) newer entry older
    mutation snapshot split isApply

/-! ## Serving prepared sessions -/

section Serving

variable {engine : EngineId} {machine : Machine Place}

/-- The answers to an engine that serves prepared sessions. -/
theorem Traced.promised {after : Machine Place} {call : Call} {answer : Answer call}
    (traced : Traced place orig machine) (law : MachineLaw place engine machine call answer after) :
    (resuming (Original place orig)).promised call answer := by
  have store := law.world.store
  cases call with
  | load sessionId =>
      cases answer with
      | error error => trivial
      | ok record => exact traced.trusted record store.2.1
  | loadUnfinished =>
      cases answer with
      | error error => trivial
      | ok records =>
          intro record member
          have listed := store.2.mem_iff.mp member
          rw [unfinished, List.mem_filter, decide_eq_true_eq] at listed
          exact ⟨listed.2, (traced.trusted record listed.1).resolve_left listed.2⟩
  | _ => trivial

theorem fit_of_resuming {last : Option (Exchange Answer)} {call : Call}
    (allowed : (resuming (Original place orig)).allowed call) (compared : Compared last call) :
    Fit place orig last call := by
  cases call with
  | create record => exact allowed.elim
  | replace record => exact allowed
  | apply sessionId mutation snapshot => exact allowed
  | restore sessionId mutation snapshot ownership => exact ⟨allowed, compared⟩
  | _ => trivial

/-- An engine that serves prepared sessions keeps the invariant. -/
theorem Traced.resumes {α : Type} {program : Engine α} (traced : Traced place orig machine)
    (careful : Careful program)
    (obeys : Obeys (resuming (Original place orig)) (fun _ => True) program) :
    Alone (MachineLaw place engine) (fun now _ => Traced place orig now)
      (fun _ after => Traced place orig after) program machine := by
  have turns : Alone (MachineLaw place engine) (fun now call => Compared now.world.latest call)
      (fun _ _ => True) program machine :=
    InTurn.alone (fun law => law.world.latest) (careful machine.world.latest)
  apply turns.assume
  have kept : Alone (fun now call answer after => Compared now.world.latest call ∧
      MachineLaw place engine now call answer after)
      (fun now call => (resuming (Original place orig)).allowed call ∧ Traced place orig now)
      (fun _ after => True ∧ Traced place orig after) program machine := by
    apply obeys.alone _ traced
    rintro now call answer after traced allowed ⟨compared, law⟩
    exact ⟨traced.promised law, traced.step (fit_of_resuming allowed compared) law⟩
  refine Safe.mono (Safe.weaken kept (fun _ _ _ _ _ law => law) ?_) ?_
  · exact fun _ _ known => known.2
  · exact fun _ _ known => known.2

/-! ## Preparing a session -/

/-- An engine that prepares a session stores a record only when nothing unfinished was
there; the snapshots it takes then are right. -/
def admitting (right : PlannedMutation → Snapshot → Prop) (ended : Prop) : Terms Answer where
  allowed
    | .create record => ended ∧ record.outline.Sound right
    | .snapshot _ _ | .active | .acquire | .loadUnfinished | .now | .nextId | .hold _
    | .dropGuard => True
    | _ => False
  promised
    | .snapshot mutation _, .ok snapshot => ended → right mutation snapshot
    | .loadUnfinished, .ok records => records = [] → ended
    | _, _ => True

/-- With something unfinished, a preparation gets no further than to find it. -/
theorem prepare_obeys_of_unfinished {right : PlannedMutation → Snapshot → Prop} {ended : Prop}
    (unfinished : ¬ended) (plan : Plan) :
    Obeys (admitting right ended) (fun result => ∀ sessionId, result = .ok sessionId → ended)
      (prepare plan).run := by
  have locked : Obeys (admitting right ended) (fun result => ∃ error, result = .error error)
      (prepareLocked plan).run := by
    apply Obeys.perform_bind_iff.mpr
    constructor
    · trivial
    intro answer promised
    cases answer with
    | error error => exact ⟨_, rfl⟩
    | ok records =>
        cases records with
        | nil => exact absurd (promised rfl) unfinished
        | cons record rest => exact ⟨_, rfl⟩
  apply Obeys.perform_bind_iff.mpr
  constructor
  · trivial
  intro active _
  apply Obeys.run_seq (refuseIf_calls _ _).obeys
  · exact fun _ _ _ => nofun
  intro _ _
  have checked : Calls (admitting right ended) (Fallible.check plan.validateComplete).run :=
    trivial
  apply Obeys.run_seq checked.obeys
  · exact fun _ _ _ => nofun
  intro _ _
  apply Obeys.run_seq (refuseIf_calls _ _).obeys
  · exact fun _ _ _ => nofun
  intro _ _
  have acquired : Calls (admitting right ended) (Fallible.mapErr
      (fun error => (error.withStage .durableIntent).retryable .retry)
      (Fallible.port (Prog.perform Call.acquire))).run :=
    ⟨trivial, fun _ => trivial⟩
  apply Obeys.run_seq acquired.obeys
  · exact fun _ _ _ => nofun
  intro _ _
  apply Obeys.lift_seq locked
  rintro _ ⟨error, rfl⟩
  exact ⟨trivial, fun _ _ _ => nofun⟩

theorem prepare_admits {right : PlannedMutation → Snapshot → Prop} {ended : Prop} (plan : Plan) :
    Obeys (admitting right ended) (fun result => ∀ sessionId, result = .ok sessionId → ended)
      (prepare plan).run := by
  by_cases settled : ended
  · have prepares : Obeys (preparing right plan ended) _ (prepare plan).run := prepare_obeys
    apply prepares.weaken
    · intro request allowed
      cases request with
      | create record => exact ⟨settled, allowed⟩
      | snapshot mutation now => trivial
      | active => trivial
      | acquire => trivial
      | loadUnfinished => trivial
      | now => trivial
      | nextId => trivial
      | hold sessionId => trivial
      | dropGuard => trivial
      | _ => exact allowed.elim
    · intro request answer promised
      cases request with
      | snapshot mutation now =>
          cases answer with
          | error error => trivial
          | ok snapshot => exact promised settled
      | loadUnfinished =>
          cases answer with
          | error error => trivial
          | ok records => exact promised
      | _ => trivial
  · exact prepare_obeys_of_unfinished settled plan

/-- What is known while a session is prepared: the places hold what they held, and
nothing has been stored unless every session was over. -/
structure Intact (place : PlannedMutation → Place) (orig : Place → StateFingerprint)
    (start machine : Machine Place) : Prop where
  traced : Traced place orig machine
  values : machine.values = start.values
  files : AllOver start.world.files ∨ machine.world.files = start.world.files

namespace Intact

variable {start after : Machine Place} {call : Call} {answer : Answer call}

theorem promised (intact : Intact place orig start machine)
    (original : AllOver start.world.files → start.values = orig)
    (law : MachineLaw place engine machine call answer after) :
    (admitting (Original place orig) (AllOver start.world.files)).promised call answer := by
  cases call with
  | snapshot mutation now =>
      cases answer with
      | error error => trivial
      | ok snapshot =>
          intro ended
          rw [Original, law.values.2, intact.values, original ended]
  | loadUnfinished =>
      cases answer with
      | error error => trivial
      | ok records =>
          rintro rfl
          rcases intact.files with ended | same
          · exact ended
          · intro record member
            have none := law.world.store.2.symm.eq_nil
            rw [unfinished, List.filter_eq_nil_iff, same] at none
            simpa using none record member
  | _ => trivial

theorem step (intact : Intact place orig start machine)
    (allowed : (admitting (Original place orig) (AllOver start.world.files)).allowed call)
    (law : MachineLaw place engine machine call answer after) :
    Intact place orig start after := by
  have keeps (reads : call.Reads) (same : after.values = machine.values)
      (fit : Fit place orig machine.world.latest call) : Intact place orig start after := by
    constructor
    · exact intact.traced.step fit law
    · exact same.trans intact.values
    · exact intact.files.imp_right (law.world.store.files_eq reads).trans
  cases call with
  | create record =>
      have fit : Fit place orig machine.world.latest (.create record) := allowed.2
      constructor
      · exact intact.traced.step fit law
      · exact law.values.trans intact.values
      · exact .inl allowed.1
  | snapshot mutation now =>
      cases answer with
      | error error => exact keeps trivial law.values trivial
      | ok snapshot => exact keeps trivial law.values.1 trivial
  | active => exact keeps trivial law.values trivial
  | acquire => exact keeps trivial law.values trivial
  | loadUnfinished => exact keeps trivial law.values trivial
  | now => exact keeps trivial law.values trivial
  | nextId => exact keeps trivial law.values trivial
  | hold sessionId => exact keeps trivial law.values trivial
  | dropGuard => exact keeps trivial law.values trivial
  | _ => exact allowed.elim

end Intact

/-- An engine that prepares a session keeps the invariant, and succeeds only when
every place holds its original. -/
theorem Traced.prepares (traced : Traced place orig machine) (coherent : Coherent machine.world)
    (plan : Plan) :
    Alone (MachineLaw place engine) (fun now _ => Traced place orig now)
      (fun result after => Traced place orig after ∧
        ∀ sessionId, result = .ok sessionId → after.values = orig)
      (prepare plan).run machine := by
  have original (ended : AllOver machine.world.files) : machine.values = orig :=
    traced.values_eq (coherent.accounted ended)
  have kept : Alone (MachineLaw place engine)
      (fun now call =>
        (admitting (Original place orig) (AllOver machine.world.files)).allowed call ∧
          Intact place orig machine now)
      (fun result after => (∀ sessionId, result = .ok sessionId → AllOver machine.world.files) ∧
        Intact place orig machine after)
      (prepare plan).run machine := by
    apply (prepare_admits plan).alone _ ⟨traced, rfl, .inr rfl⟩
    exact fun now call answer after intact allowed law =>
      ⟨intact.promised original law, intact.step allowed law⟩
  refine Safe.mono (Safe.weaken kept (fun _ _ _ _ _ law => law) ?_) ?_
  · exact fun _ _ known => known.2.traced
  · rintro result after ⟨ended, intact⟩
    constructor
    · exact intact.traced
    · intro sessionId same
      rw [intact.values]
      exact original (ended sessionId same)

end Serving

/-! ## Recovering -/

section Recovering

variable {engine : EngineId} {world : World}

/-- A recovery lists every session that it was given. -/
theorem recoverOne_lists (recovery : Recovery) (record : SessionRecord) :
    Within (fun _ => True) (fun left => left.statuses.map TransactionStatus.sessionId =
        recovery.statuses.map TransactionStatus.sessionId ++ [record.sessionId])
      (recoverOne recovery record) := by
  have lists (state : SessionState) :
      (recovery.statuses ++ [TransactionStatus.mk record.sessionId state]).map
          TransactionStatus.sessionId =
        recovery.statuses.map TransactionStatus.sessionId ++ [record.sessionId] := by
    rw [List.map_append, List.map_singleton]
  apply Within.seq (Within.any _)
  rintro ⟨prepared, left⟩ -
  cases prepared with
  | error error => exact lists _
  | ok done =>
      apply Within.seq (Within.any _)
      rintro ⟨result, last⟩ -
      cases result with
      | error error => exact lists _
      | ok state => exact lists _

theorem recoverAll_lists (records : List SessionRecord) (recovery : Recovery) :
    Within (fun _ => True) (fun left => left.statuses.map TransactionStatus.sessionId =
        recovery.statuses.map TransactionStatus.sessionId ++ records.map SessionRecord.sessionId)
      (records.foldlM recoverOne recovery) := by
  induction records generalizing recovery with
  | nil =>
      rw [List.map_nil, List.append_nil]
      rfl
  | cons record rest ih =>
      rw [List.foldlM_cons]
      apply Within.seq (recoverOne_lists recovery record)
      intro next lists
      rw [List.map_cons, List.append_cons, ← lists]
      exact ih next

/-- A recovery that succeeds accounts for every apply. -/
def AccountsForAll (result : Except SysboostError (List TransactionStatus)) (world : World) :
    Prop :=
  ∀ statuses, result = .ok statuses → ∀ sessionId, Accounted world.log sessionId

theorem accountsForAll_error (error : SysboostError) (world : World) :
    AccountsForAll (.error error) world := by
  intro statuses same
  cases same

theorem finishRecovery_accounts {recovery : Recovery} {fallback : SessionId}
    (coherent : Coherent world) (good : StatusesGood world recovery.statuses)
    (listed : ∀ sessionId, Accounted world.log sessionId ∨
      sessionId ∈ recovery.statuses.map TransactionStatus.sessionId) :
    Conducts engine AccountsForAll (finishRecovery recovery fallback).run world := by
  unfold finishRecovery
  split
  next complete =>
    rw [Bool.and_eq_true, List.all_eq_true] at complete
    have permitted : Permitted world.log .dropGuard := trivial
    apply Alone.lift_seq (conducts_port coherent permitted (by simp))
    rintro _ after ⟨later, -⟩
    refine Alone.ret_iff.mpr fun statuses _ sessionId => later.accounted ?_
    rcases listed sessionId with accounted | member
    · exact accounted
    · rcases List.mem_map.mp member with ⟨status, present, rfl⟩
      exact good status present (beq_iff_eq.mp (complete.1 status present))
  · have permitted (session : SessionId) : Permitted world.log (.hold session) := trivial
    apply Alone.lift_seq (conducts_port coherent (permitted _) (by simp))
    exact fun _ _ _ => Alone.ret_iff.mpr (accountsForAll_error _ _)

/-- What is not accounted for belongs to a stored session that is not over. -/
theorem Coherent.accounted_or {world : World} (coherent : Coherent world) (sessionId : SessionId) :
    Accounted world.log sessionId ∨
      ∃ record ∈ world.files, record.session.state ≠ .restored ∧ record.sessionId = sessionId := by
  by_cases fresh : Fresh world.files sessionId
  · left
    intro newer entry older mutation snapshot split isApply
    have member : entry ∈ world.log := by
      rw [split]
      exact List.mem_append_right _ List.mem_cons_self
    exact absurd fresh (coherent.stored entry member sessionId mutation snapshot isApply)
  · simp only [Fresh, not_forall, not_not] at fresh
    rcases fresh with ⟨record, present, rfl⟩
    by_cases ended : record.session.state = .restored
    · exact .inl ((coherent.possible record present).accounted ended)
    · exact .inr ⟨record, present, ended, rfl⟩

theorem recoverLocked_accounts (coherent : Coherent world) :
    Conducts engine AccountsForAll recoverLocked.run world := by
  have permitted : Permitted world.log .loadUnfinished := trivial
  apply Alone.lift_seq (conducts_port coherent permitted (by simp))
  rintro answer loaded ⟨later, law⟩
  have dropped : Permitted loaded.log .dropGuard := trivial
  cases answer with
  | error error =>
      apply Alone.lift_seq (conducts_port later.coherent dropped (by simp))
      exact fun _ _ _ => Alone.ret_iff.mpr (accountsForAll_error _ _)
  | ok records =>
      have mem_iff {record : SessionRecord} : record ∈ sortRecords records ↔
          record ∈ loaded.files ∧ record.session.state ≠ .restored := by
        rw [sortRecords, List.mem_insertionSort, law.store.2.mem_iff, law.store.1, unfinished,
          List.mem_filter, decide_eq_true_eq]
      have listed (sessionId : SessionId) : Accounted loaded.log sessionId ∨
          sessionId ∈ (sortRecords records).map SessionRecord.sessionId := by
        rcases later.coherent.accounted_or sessionId with accounted | ⟨record, present, open_, rfl⟩
        · exact .inl accounted
        · exact .inr (List.mem_map_of_mem (mem_iff.mpr ⟨present, open_⟩))
      dsimp only
      split
      next sorted =>
        apply Alone.lift_seq (conducts_port later.coherent dropped (by simp))
        rintro _ after ⟨later', -⟩
        refine Alone.ret_iff.mpr fun statuses _ sessionId => later'.accounted ?_
        apply (listed sessionId).resolve_right
        rw [sorted]
        exact List.not_mem_nil
      next first rest sorted =>
        rw [← sorted]
        have good : StatusesGood loaded [] := by
          intro status member
          cases member
        have conducts : Conducts engine (fun left after => Later loaded after ∧
            StatusesGood after left.statuses)
            ((sortRecords records).foldlM recoverOne ⟨[], none⟩) loaded :=
          recoverAll_conducts later.coherent
            (fun record member => later.coherent.possible record (mem_iff.mp member).1)
            (fun record member => (mem_iff.mp member).2) good
        have lists : Alone (Law engine) (fun _ _ => True)
            (fun left _ => left.statuses.map TransactionStatus.sessionId =
              [] ++ (sortRecords records).map SessionRecord.sessionId ∧ True)
            ((sortRecords records).foldlM recoverOne ⟨[], none⟩) loaded := by
          apply (recoverAll_lists (sortRecords records) ⟨[], none⟩).safe _ _ trivial
          · exact fun _ _ => trivial
          · exact fun _ _ => ⟨trivial, fun _ _ _ => trivial⟩
        have both := Safe.weaken (conducts.and lists) (fun _ _ _ _ _ law => law)
          fun _ _ known => known.1
        apply Alone.lift_seq both
        rintro recovery after ⟨⟨later', good⟩, same, -⟩
        apply finishRecovery_accounts later'.coherent good
        intro sessionId
        rw [same, List.nil_append]
        exact (listed sessionId).imp_left later'.accounted

/-- A recovery that succeeds has accounted for every apply. -/
theorem recoverUnfinished_accounts (coherent : Coherent world) :
    Conducts engine AccountsForAll recoverUnfinished.run world := by
  apply Alone.lift_seq (active_conducts coherent)
  intro active entered later
  apply Alone.run_seq (refuseIf_conducts later.coherent)
  · exact fun _ _ _ _ => nofun
  rintro _ checked ⟨later', -⟩
  have permitted : Permitted checked.log .acquire := trivial
  apply Alone.run_seq (mapErr_conducts (conducts_port later'.coherent permitted (by simp)))
  · exact fun _ _ _ _ => nofun
  · exact fun _ _ later => recoverLocked_accounts later.coherent

end Recovering

/-! ## All requests -/

section Requests

variable {engine : EngineId} {machine : Machine Place}

/-- A request whose reply is no all-clear. -/
theorem Traced.serves {α : Type} {program : Engine α} {reply : α → Reply}
    (traced : Traced place orig machine) (careful : Careful program)
    (obeys : Obeys (resuming (Original place orig)) (fun _ => True) program)
    (pending : ∀ result, ¬(reply result).AllClear) :
    Alone (MachineLaw place engine) (fun now _ => Traced place orig now)
      (fun reply after => Traced place orig after ∧ (reply.AllClear → after.values = orig))
      (program >>= fun result => .ret (reply result)) machine := by
  apply Alone.seq (traced.resumes careful obeys)
  intro result after traced
  exact Alone.ret_iff.mpr ⟨traced, fun allClear => absurd allClear (pending result)⟩

/-- Every request keeps the invariant, and an all-clear is true. -/
theorem Traced.request (traced : Traced place orig machine) (coherent : Coherent machine.world)
    (request : Request) :
    Alone (MachineLaw place engine) (fun now _ => Traced place orig now)
      (fun reply after => Traced place orig after ∧ (reply.AllClear → after.values = orig))
      request.program machine := by
  have trust : Entrusts (resuming (Original place orig)) (Outline.Sound (Original place orig)) :=
    resuming_entrusts
  cases request with
  | prepare plan =>
      apply Alone.seq (traced.prepares coherent plan)
      rintro result after ⟨traced, settled⟩
      refine Alone.ret_iff.mpr ⟨traced, fun allClear => ?_⟩
      cases result with
      | error error => exact allClear.elim
      | ok sessionId => exact settled sessionId rfl
  | apply sessionId =>
      exact traced.serves (apply_careful sessionId) (trust.apply_obeys sessionId) fun _ => id
  | restore sessionId =>
      exact traced.serves (restore_careful sessionId) (trust.restore_obeys sessionId) fun _ => id
  | abortPrepared sessionId =>
      exact traced.serves (abortPrepared_careful sessionId) (trust.abortPrepared_obeys sessionId)
        fun _ => id
  | recoverUnfinished =>
      have kept : Alone (MachineLaw place engine) (fun now _ => Traced place orig now)
          (fun _ after => Traced place orig after) recoverUnfinished.run machine :=
        traced.resumes recoverUnfinished_careful trust.recoverUnfinished_obeys
      have accounts : Alone (MachineLaw place engine)
          (fun now call => Coherent now.world ∧ Permitted now.world.log call)
          (fun result now => AccountsForAll result now.world) recoverUnfinished.run machine :=
        Alone.view Machine.world (fun _ _ _ _ law => law.world)
          (recoverUnfinished_accounts coherent)
      have both := Safe.weaken (kept.and accounts) (fun _ _ _ _ _ law => law)
        fun _ _ known => known.1
      apply Alone.seq both
      rintro result after ⟨traced, accounts⟩
      refine Alone.ret_iff.mpr ⟨traced, fun allClear => ?_⟩
      cases result with
      | error error => exact allClear.elim
      | ok statuses => exact traced.values_eq (accounts statuses rfl)

/-- What is known of a machine that engines have served. -/
theorem machine_good {state : Service.Serial Answer EngineId Request Reply (Machine Place)}
    (reachable : (machineService place).SerialReachable ⟨World.empty, orig⟩ state) :
    (machineService place).SerialGood
      (fun machine => Coherent machine.world ∧ Traced place orig machine) (fun _ _ _ => True)
      state := by
  apply reachable.good
  · exact ⟨coherent_empty, .empty⟩
  · rintro engine request machine ⟨coherent, traced⟩
    rw [Service.serialGood_serving_iff]
    have issued : Traced place orig
        { machine with world := machine.world.note (.requested engine request) } :=
      traced.note (fun _ _ => nofun) (fun _ _ _ => nofun)
    have noted : Coherent (machine.world.note (.requested engine request)) := coherent.issue
    have conducts : Alone (MachineLaw place engine)
        (fun now call => Coherent now.world ∧ Permitted now.world.log call)
        (fun reply now => Coherent now.world ∧
          Coherent ((service Law).reply engine request reply now.world)) request.program
        { machine with world := machine.world.note (.requested engine request) } :=
      Alone.view Machine.world (fun _ _ _ _ law => law.world)
        (request_conducts noted List.mem_cons_self)
    refine Safe.mono (Safe.weaken (conducts.and (issued.request noted request)) ?_ ?_) ?_
    · exact fun _ _ _ _ _ law => law
    · exact fun _ _ known => ⟨⟨known.1.1, known.2⟩, trivial⟩
    · rintro reply after ⟨⟨coherent, replied⟩, traced, allClear⟩
      have noted : Traced place orig
          { after with world := after.world.note (.returned engine request reply) } := by
        refine traced.note (fun _ _ => nofun) ?_
        rintro _ _ _ ⟨⟩
        exact allClear
      exact ⟨⟨coherent, traced⟩, replied, noted⟩
  · rintro engine machine ⟨coherent, traced⟩
    exact ⟨coherent.crash engine, traced.crash engine⟩

end Requests

/-! ## A machine of the test kit -/

namespace Machine

/-- A fake backend of the test kit tells what its targets hold. -/
def answer (engine : EngineId) (machine : Machine TargetId) : (call : Call) → Answer call
  | .snapshot mutation now => .ok { Testkit.snapshot machine.world.log mutation now with
      originalFingerprint := machine.values mutation.target }
  | .verify _ _ mutation _ _ => .ok (machine.values mutation.target)
  | call => steadyKit.answer engine machine.world call

/-- The targets after a call. -/
def valuesAfter (machine : Machine TargetId) : Call → TargetId → StateFingerprint
  | .apply _ mutation _ => Function.update machine.values mutation.target fixtureOwned
  | .restore _ mutation snapshot _ =>
      Function.update machine.values mutation.target snapshot.originalFingerprint
  | _ => machine.values

/-- Answer a call and change the machine. -/
def respond (engine : EngineId) (machine : Machine TargetId) (call : Call) :
    Answer call × Machine TargetId :=
  (answer engine machine call, {
    values := valuesAfter machine call
    world := {
      files := Testkit.files machine.world call
      active := Testkit.active engine machine.world call
      holder := Testkit.holder engine machine.world call
      log := .port engine ⟨call, answer engine machine call, false⟩ :: machine.world.log } })

/-- These ports obey the laws of the machine. -/
theorem law (engine : EngineId) (machine : Machine TargetId) (call : Call) :
    MachineLaw PlannedMutation.target engine machine call (respond engine machine call).1
      (respond engine machine call).2 := by
  have kit : Law engine machine.world call (steadyKit.respond engine machine.world call).1
      (steadyKit.respond engine machine.world call).2 :=
    steadyKit.law call
  constructor
  · constructor
    · cases call with
      | snapshot mutation now => rfl
      | verify sessionId stage mutation expected identity => rfl
      | _ => exact kit.store
    · cases call with
      | snapshot mutation now => rfl
      | verify sessionId stage mutation expected identity => rfl
      | _ => exact kit.lease
    · refine ⟨false, ?_, rfl⟩
      cases call with
      | apply sessionId mutation snapshot => trivial
      | _ => trivial
  · cases call with
    | snapshot mutation now => exact ⟨rfl, rfl⟩
    | verify sessionId stage mutation expected identity => exact ⟨rfl, rfl⟩
    | apply sessionId mutation snapshot =>
        exact fun other different => Function.update_of_ne different _ _
    | restore sessionId mutation snapshot ownership =>
        constructor
        · exact fun other different => Function.update_of_ne different _ _
        · exact fun _ => Function.update_self _ _ _
    | _ => rfl

/-- Serve a request. -/
def serve (engine : EngineId) (request : Request) (machine : Machine TargetId) :
    Machine TargetId :=
  let outcome := request.program.exec (respond engine)
    { machine with world := machine.world.note (.requested engine request) }
  { outcome.2 with world := outcome.2.world.note (.returned engine request outcome.1) }

/-- Serve a request for some calls, then the process ends. -/
def interrupt (engine : EngineId) (request : Request) (calls : Nat)
    (machine : Machine TargetId) : Machine TargetId :=
  let left := request.program.advance (respond engine) calls
    { machine with world := machine.world.note (.requested engine request) }
  { left.2 with world := left.2.world.crash engine }

/-- A machine that engines have served, from these values on. -/
def Served (values : TargetId → StateFingerprint) (machine : Machine TargetId) : Prop :=
  (machineService PlannedMutation.target).SerialReachable ⟨World.empty, values⟩ ⟨machine, none⟩

variable {values : TargetId → StateFingerprint} {machine : Machine TargetId}

theorem Served.serve (served : Served values machine) (engine : EngineId) (request : Request) :
    Served values (machine.serve engine request) :=
  Service.SerialReachable.serve served (Executes.exec (law engine) _ _)

theorem Served.interrupt (served : Served values machine) (engine : EngineId) (request : Request)
    (calls : Nat) : Served values (machine.interrupt engine request calls) :=
  ((served.start engine request).advance (law engine) calls).tail (.stop _ _ _ _)

end Machine

/-- Every target holds what the fixture plan expects. -/
def plannedValues (_ : TargetId) : StateFingerprint :=
  governorMutation.precondition

/-- A session that is prepared on such a machine. -/
def preparedMachine : Machine TargetId :=
  Machine.serve 0 (.prepare (fixturePlan governorMutation)) ⟨World.empty, plannedValues⟩

theorem preparedMachine_served : Machine.Served plannedValues preparedMachine :=
  Machine.Served.serve .refl 0 _

/-! ## Every change is on record -/

/-- A stored session that is not over has an operation on the place whose target may
hold a value of the session, with a snapshot of the original. -/
def OnRecord (place : PlannedMutation → Place) (orig : Place → StateFingerprint)
    (files : List SessionRecord) (spot : Place) : Prop :=
  ∃ record ∈ files, record.session.state ≠ .restored ∧ ∃ operation ∈ record.operations,
    place operation.mutation = spot ∧ Unsettled operation ∧
      ∃ snapshot, operation.snapshot = some snapshot ∧ snapshot.originalFingerprint = orig spot

/-- A place that does not hold its original is on record. -/
theorem Traced.on_record {machine : Machine Place} (traced : Traced place orig machine)
    (coherent : Coherent machine.world) (spot : Place) :
    machine.values spot = orig spot ∨ OnRecord place orig machine.world.files spot := by
  by_cases same : machine.values spot = orig spot
  · exact .inl same
  right
  rcases traced.kept spot same with
    ⟨newer, entry, older, sessionId, mutation, snapshot, log, isApply, rfl, unsettled⟩
  have applied : entry ∈ machine.world.log := by
    rw [log]
    exact List.mem_append_right _ List.mem_cons_self
  have stored := coherent.stored entry applied sessionId mutation snapshot isApply
  simp only [Fresh, not_forall, not_not] at stored
  rcases stored with ⟨record, present, rfl⟩
  have possible := coherent.possible record present
  rcases possible.tracks.covered newer entry older mutation snapshot log isApply with
    ⟨operation, member, rfl, has, known⟩
  refine ⟨record, present, ?_, operation, member, rfl, known.resolve_left unsettled, snapshot, has,
    traced.applied entry applied _ _ _ isApply⟩
  intro ended
  exact unsettled (possible.accounted ended newer entry older _ snapshot log isApply)

/-- **Every change is on record.**  Wherever a run of engines is stopped, a place that
does not hold its original is on record in the store. -/
theorem changes_on_record
    {state : Service.Serial Answer EngineId Request Reply (Machine Place)}
    (reachable : (machineService place).SerialReachable ⟨World.empty, orig⟩ state) (spot : Place) :
    state.world.values spot = orig spot ∨ OnRecord place orig state.world.world.files spot := by
  rcases (machine_good reachable).invariant with ⟨coherent, traced⟩
  exact traced.on_record coherent spot

/-- An engine that ends just after the backend has changed the target. -/
def abandonedMachine : Machine TargetId :=
  preparedMachine.interrupt 0 (.apply steadyKit.sessionId) 6

/-- The target is not what it was, and the store says so. -/
theorem changes_on_record_abandoned :
    abandonedMachine.values governorMutation.target ≠ plannedValues governorMutation.target ∧
      OnRecord PlannedMutation.target plannedValues abandonedMachine.world.files
        governorMutation.target := by
  have changed : abandonedMachine.values governorMutation.target ≠
      plannedValues governorMutation.target := by
    decide +kernel
  have served : Machine.Served plannedValues abandonedMachine :=
    preparedMachine_served.interrupt 0 _ _
  exact ⟨changed, (changes_on_record served governorMutation.target).resolve_left changed⟩

/-- **An all-clear is true.**  When a preparation or a recovery has just succeeded,
every place holds its original. -/
theorem all_clear_is_true
    {state : Service.Serial Answer EngineId Request Reply (Machine Place)}
    (reachable : (machineService place).SerialReachable ⟨World.empty, orig⟩ state)
    {engine : EngineId} {request : Request} {reply : Reply} {older : List Entry}
    (answered : state.world.world.log = .returned engine request reply :: older)
    (allClear : reply.AllClear) : state.world.values = orig :=
  (machine_good reachable).invariant.2.answered engine request reply older answered allClear

/-- An engine that ends after it has applied its session. -/
def crashedMachine : Machine TargetId :=
  preparedMachine.interrupt 0 (.apply steadyKit.sessionId) 12

/-- Another engine that recovers. -/
def recoveredMachine : Machine TargetId :=
  crashedMachine.serve 1 .recoverUnfinished

/-- The target was changed, and holds its original again. -/
theorem all_clear_is_true_recovered :
    crashedMachine.values governorMutation.target ≠ plannedValues governorMutation.target ∧
      recoveredMachine.values = plannedValues := by
  have served : Machine.Served plannedValues recoveredMachine :=
    (preparedMachine_served.interrupt 0 _ _).serve 1 _
  constructor
  · decide +kernel
  · apply all_clear_is_true served rfl
    decide +kernel

end Sysboost.Platform
