import Sysboost.Core.Journal
import Sysboost.Interaction.Refinement
import Sysboost.Platform.Capture
import Sysboost.Platform.Requests

/-!
# Records of checked values

The values in a request and in a snapshot were made by checked constructors.  So
were then the values in every record that reaches the store, which is what makes
it readable again.
-/

namespace Sysboost.Platform

open Sysboost.Core Interaction

/-! ## What an engine hands on -/

/-- An engine stores records with right snapshots only, as long as it loads such
records and is given right snapshots. -/
def handing (right : PlannedMutation → Snapshot → Prop) : Terms Answer where
  allowed
    | .create record => record.outline.Sound right
    | .replace record => record.outline.Sound right
    | _ => True
  promised
    | .load _, .ok record => record.outline.Sound right
    | .loadUnfinished, .ok records =>
        ∀ record ∈ records, record.session.state ≠ .restored ∧ record.outline.Sound right
    | .snapshot mutation _, .ok snapshot => right mutation snapshot
    | _, _ => True

section Handing

variable {right : PlannedMutation → Snapshot → Prop}

theorem handing_serves {outline : Outline} {call : Call} (sound : outline.Sound right)
    (serves : call.Serves outline) : (handing right).allowed call := by
  cases call with
  | replace record =>
      change record.outline.Sound right
      rwa [show record.outline = outline from serves]
  | create record => exact serves.elim
  | _ => trivial

theorem handing_entrusts : Entrusts (handing right) (Outline.Sound right) where
  serves := handing_serves
  manages {call} manages := by
    cases call with
    | replace record => exact manages.elim
    | create record => exact manages.elim
    | _ => trivial
  loaded := Or.inr
  unfinished := id
  removes _ _ := trivial

theorem prepare_hands (plan : Plan) :
    Obeys (handing right) (fun _ => True) (prepare plan).run := by
  have prepares : Obeys (preparing right plan True) _ (prepare plan).run := prepare_obeys
  apply (prepares.weaken ?_ ?_).mono fun _ _ => trivial
  · intro request allowed
    cases request with
    | create record => exact allowed
    | replace record => exact allowed.elim
    | _ => trivial
  · intro request answer promised
    cases request with
    | snapshot mutation now =>
        cases answer with
        | error error => trivial
        | ok snapshot => exact promised
    | loadUnfinished =>
        cases answer with
        | error error => trivial
        | ok records => exact fun _ => trivial
    | _ => trivial

theorem program_hands (request : Request) :
    Obeys (handing right) (fun _ => True) request.program := by
  have returned {α : Type} {program : Engine α} {reply : α → Reply}
      (obeys : Obeys (handing right) (fun _ => True) program) :
      Obeys (handing right) (fun _ => True) (program >>= fun result => .ret (reply result)) :=
    obeys.seq fun _ _ => trivial
  cases request with
  | prepare plan => exact returned (prepare_hands plan)
  | apply sessionId => exact returned (handing_entrusts.apply_obeys sessionId)
  | restore sessionId => exact returned (handing_entrusts.restore_obeys sessionId)
  | abortPrepared sessionId => exact returned (handing_entrusts.abortPrepared_obeys sessionId)
  | recoverUnfinished => exact returned handing_entrusts.recoverUnfinished_obeys

end Handing

/-! ## Checked values -/

/-- The values of a request were made by checked constructors. -/
def Request.Checked : Request → Prop
  | .prepare plan => ∀ mutation ∈ plan.mutations, mutation.Checked
  | _ => True

/-- A request as it can be made. -/
abbrev CheckedRequest := {request : Request // request.Checked}

/-- The values of an answer were made by checked constructors. -/
def AnswerChecked : (call : Call) → Answer call → Prop
  | .snapshot _ _, .ok snapshot => snapshot.originalTyped.checked = true
  | _, _ => True

/-- The value of the snapshot was made by a checked constructor. -/
abbrev CheckedSnapshot (_ : PlannedMutation) (snapshot : Snapshot) : Prop :=
  snapshot.originalTyped.checked = true

/-- The records that a call hands to the store are of checked values. -/
def Call.Hands : Call → Prop
  | .create record => record.Checked
  | .replace record => record.Checked
  | _ => True

/-- The engines of a run with checked values. -/
def checkedService : Service Answer EngineId CheckedRequest Reply World where
  program request := request.val.program
  env engine before call answer after := Law engine before call answer after ∧
    AnswerChecked call answer
  issue engine request world := world.note (.requested engine request.val)
  reply engine request reply world := world.note (.returned engine request.val reply)
  stop engine world := world.crash engine

/-- A run with checked values is a run. -/
theorem reachable_of_checked
    {state : Service.Serial Answer EngineId CheckedRequest Reply World}
    (reachable : checkedService.SerialReachable World.empty state) :
    Reachable ⟨state.world, state.current.map fun serving =>
      (serving.1, serving.2.1.val, serving.2.2)⟩ := by
  apply Service.SerialReachable.forget _ _ _ _ _ reachable
  · exact fun _ => rfl
  · exact fun law => And.left law
  · exact rfl
  · exact rfl
  · exact rfl

/-! ## The invariant -/

/-- Everything stored and requested is of checked values. -/
structure Sealed (world : World) : Prop where
  sound : ∀ record ∈ world.files, record.outline.Sound CheckedSnapshot
  requested : ∀ engine plan, .requested engine (.prepare plan) ∈ world.log →
    ∀ mutation ∈ plan.mutations, mutation.Checked

namespace Sealed

variable {world : World}

theorem empty : Sealed World.empty :=
  ⟨nofun, nofun⟩

/-- A record for a requested plan is of checked values when its snapshots are. -/
theorem checked_of_requested (closed : Sealed world) {record : SessionRecord} {engine : EngineId}
    {plan : Plan} (requested : .requested engine (.prepare plan) ∈ world.log)
    (planned : record.operations.map OperationRecord.mutation = plan.mutations)
    (sound : record.outline.Sound CheckedSnapshot) : record.Checked := by
  intro operation member
  constructor
  · apply closed.requested engine plan requested
    rw [← planned]
    exact List.mem_map_of_mem member
  · intro snapshot taken
    exact sound operation.mutation snapshot (SessionRecord.mem_outline member taken)

theorem checked (closed : Sealed world) {record : SessionRecord}
    (possible : Possible world.log record) (sound : record.outline.Sound CheckedSnapshot) :
    record.Checked := by
  rcases possible.plannedAs with ⟨engine, plan, now, requested, planned⟩
  exact closed.checked_of_requested requested planned.mutations sound

/-- What a permitted call hands to the store is of checked values. -/
theorem hands (closed : Sealed world) {call : Call} (permitted : Permitted world.log call)
    (allowed : (handing CheckedSnapshot).allowed call) : call.Hands := by
  cases call with
  | create record =>
      rcases permitted with ⟨engine, plan, now, requested, prepared⟩
      exact closed.checked_of_requested requested prepared.mutations allowed
  | replace record => exact closed.checked permitted allowed
  | _ => trivial

end Sealed

/-- What a call can do to the files. -/
theorem StoreLaw.effect {files after : List SessionRecord} {call : Call} {answer : Answer call}
    (law : StoreLaw files after call answer) :
    after = files ∨
      (∃ record, call = .create record ∧ Fresh files record.sessionId ∧
        after = files ++ [record]) ∨
      (∃ record, call = .replace record ∧ after = substitute record files) ∨
      ∃ sessionId, call = .remove sessionId ∧ after = discard sessionId files := by
  cases call with
  | create record =>
      cases answer with
      | ok done => exact .inr (.inl ⟨record, rfl, law⟩)
      | error error =>
          rcases law with same | created
          · exact .inl same
          · exact .inr (.inl ⟨record, rfl, created⟩)
  | replace record =>
      cases answer with
      | ok done => exact .inr (.inr (.inl ⟨record, rfl, law.2⟩))
      | error error =>
          rcases law with same | replaced
          · exact .inl same
          · exact .inr (.inr (.inl ⟨record, rfl, replaced⟩))
  | remove sessionId =>
      cases answer with
      | ok done => exact .inr (.inr (.inr ⟨sessionId, rfl, law⟩))
      | error error =>
          rcases law with same | removed
          · exact .inl same
          · exact .inr (.inr (.inr ⟨sessionId, rfl, removed⟩))
  | load sessionId => exact .inl (law.files_eq trivial)
  | loadUnfinished => exact .inl (law.files_eq trivial)
  | _ => exact .inl law

/-- Where a stored record comes from. -/
theorem StoreLaw.origin {files after : List SessionRecord} {call : Call} {answer : Answer call}
    (law : StoreLaw files after call answer) {stored : SessionRecord} (member : stored ∈ after) :
    stored ∈ files ∨ call = .create stored ∧ Fresh files stored.sessionId ∨
      call = .replace stored := by
  rcases law.effect with rfl | ⟨record, rfl, fresh, rfl⟩ | ⟨record, rfl, rfl⟩ |
    ⟨sessionId, rfl, rfl⟩
  · exact .inl member
  · rw [List.mem_append, List.mem_singleton] at member
    rcases member with known | rfl
    · exact .inl known
    · exact .inr (.inl ⟨rfl, fresh⟩)
  · rcases mem_substitute member with rfl | known
    · exact .inr (.inr rfl)
    · exact .inl known
  · exact .inl (List.mem_of_mem_filter member)

/-- A call keeps the invariant, and its answer is as promised. -/
theorem Sealed.step {world after : World} {engine : EngineId} {call : Call}
    {answer : Answer call} (closed : Sealed world)
    (allowed : (handing CheckedSnapshot).allowed call)
    (law : Law engine world call answer after) (checked : AnswerChecked call answer) :
    (handing CheckedSnapshot).promised call answer ∧ Sealed after := by
  constructor
  · cases call with
    | load sessionId =>
        cases answer with
        | error error => trivial
        | ok record => exact closed.sound record law.store.2.1
    | loadUnfinished =>
        cases answer with
        | error error => trivial
        | ok records =>
            intro record member
            have listed := law.store.2.mem_iff.mp member
            rw [unfinished, List.mem_filter, decide_eq_true_eq] at listed
            exact ⟨listed.2, closed.sound record listed.1⟩
    | snapshot mutation now =>
        cases answer with
        | error error => trivial
        | ok snapshot => exact checked
    | _ => trivial
  · constructor
    · intro record member
      rcases law.store.origin member with known | ⟨rfl, -⟩ | rfl
      · exact closed.sound record known
      · exact allowed
      · exact allowed
    · intro other plan requested
      rcases law.log with ⟨changed, -, log⟩
      rw [log] at requested
      rcases List.mem_cons.mp requested with same | requested
      · cases same
      · exact closed.requested other plan requested

theorem Sealed.note {world : World} (closed : Sealed world) {engine : EngineId}
    (request : CheckedRequest) : Sealed (world.note (.requested engine request.val)) where
  sound := closed.sound
  requested other plan requested := by
    rcases List.mem_cons.mp requested with same | requested
    · have checked := request.property
      rw [← (Entry.requested.inj same).2] at checked
      exact checked
    · exact closed.requested other plan requested

theorem Sealed.reply {world : World} (closed : Sealed world) {engine : EngineId}
    (request : Request) (reply : Reply) :
    Sealed (world.note (.returned engine request reply)) where
  sound := closed.sound
  requested other plan requested := by
    rcases List.mem_cons.mp requested with same | requested
    · cases same
    · exact closed.requested other plan requested

/-- A call that is permitted and allowed. -/
def Fair (world : World) (call : Call) : Prop :=
  Permitted world.log call ∧ (handing CheckedSnapshot).allowed call

/-- Every engine of a run with checked values hands on checked values. -/
theorem checkedService_good {state : Service.Serial Answer EngineId CheckedRequest Reply World}
    (reachable : checkedService.SerialReachable World.empty state) :
    checkedService.SerialGood (fun world => Coherent world ∧ Sealed world)
      (fun _ world call => Fair world call) state := by
  apply reachable.good ⟨coherent_empty, .empty⟩
  · rintro engine request world ⟨coherent, closed⟩
    rw [Service.serialGood_serving_iff]
    have conducts : Conducts engine (fun reply after => Coherent after ∧
        Coherent ((service Law).reply engine request.val reply after)) request.val.program
        (world.note (.requested engine request.val)) :=
      request_conducts coherent.issue List.mem_cons_self
    have hands : Alone (checkedService.env engine)
        (fun world call => (handing CheckedSnapshot).allowed call ∧ Sealed world)
        (fun _ after => True ∧ Sealed after) request.val.program
        (world.note (.requested engine request.val)) := by
      apply (program_hands request.val).alone _ (closed.note request)
      exact fun _ _ _ _ closed allowed law => closed.step allowed law.1 law.2
    have checked : Alone (checkedService.env engine)
        (fun world call => Coherent world ∧ Permitted world.log call)
        (fun reply after => Coherent after ∧
          Coherent ((service Law).reply engine request.val reply after)) request.val.program
        (world.note (.requested engine request.val)) :=
      conducts.weaken (fun _ _ _ _ _ law => law.1) fun _ _ guarded => guarded
    refine Safe.mono (Safe.weaken (checked.and hands) ?_ ?_) ?_
    · exact fun _ _ _ _ _ law => law
    · exact fun _ _ guarded => ⟨⟨guarded.1.1, guarded.2.2⟩, guarded.1.2, guarded.2.1⟩
    · rintro reply after ⟨⟨coherent, replied⟩, -, closed⟩
      exact ⟨⟨coherent, closed⟩, replied, closed.reply request.val reply⟩
  · rintro engine world ⟨coherent, closed⟩
    exact ⟨coherent.crash engine, closed.sound, closed.requested⟩

/-- What is known when an engine of such a run is about to make a call. -/
theorem checkedService_calls {state : Service.Serial Answer EngineId CheckedRequest Reply World}
    (reachable : checkedService.SerialReachable World.empty state) {engine : EngineId}
    {request : CheckedRequest} {made : Call} {next : Answer made → Engine Reply}
    (serving : state.current = some (engine, request, .call made next)) :
    Coherent state.world ∧ Permitted state.world.log made ∧ made.Hands := by
  have good := checkedService_good reachable
  rcases state with ⟨world, current⟩
  obtain rfl : current = _ := serving
  rw [Service.serialGood_serving_iff] at good
  rcases (Alone.call_iff.mp good).1 with ⟨⟨coherent, closed⟩, permitted, allowed⟩
  exact ⟨coherent, permitted, closed.hands permitted allowed⟩

end Sysboost.Platform
