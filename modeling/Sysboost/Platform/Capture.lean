import Mathlib.Data.List.Nodup
import Sysboost.Platform.Handoff

/-!
# What a preparation hands on

A prepared record holds the snapshots taken for its own mutations, each with the
mutation it was taken for.  When every snapshot that is taken is right, the
record that reaches the store is too, and it reaches the store only when nothing
unfinished was there.
-/

namespace Sysboost.Platform

open Sysboost.Core Interaction Results

/-! ## The snapshots of a record -/

/-- Every snapshot of the record is one of a list. -/
def DrawnFrom (snapshots : List Snapshot) (record : SessionRecord) : Prop :=
  ∀ operation ∈ record.operations, ∀ snapshot, operation.snapshot = some snapshot →
    snapshot ∈ snapshots

variable {snapshots : List Snapshot} {record after : SessionRecord}

theorem DrawnFrom.of_operations (drawn : DrawnFrom snapshots record)
    (same : after.operations = record.operations) : DrawnFrom snapshots after := by
  rw [DrawnFrom, same]
  exact drawn

theorem captureSnapshot_drawnFrom {snapshot : Snapshot} (drawn : DrawnFrom snapshots record)
    (listed : snapshot ∈ snapshots) (ok : record.captureSnapshot snapshot = (.ok (), after)) :
    DrawnFrom snapshots after := by
  obtain ⟨front, operation, back, operation', split, rfl, -, updated⟩ :=
    SessionRecord.onOperation_eq_ok ok
  rw [DrawnFrom, split] at drawn
  intro other member taken same
  rcases List.mem_append.mp member with member | member
  · exact drawn other (List.mem_append_left _ member) taken same
  rcases List.mem_cons.mp member with rfl | member
  · split at updated
    · cases updated
    · split at updated
      · cases updated
      · obtain ⟨-, rfl⟩ := OperationRecord.eq_of_transition updated
        cases same
        exact listed
  · exact drawn other (List.mem_append_right _ (List.mem_cons_of_mem _ member)) taken same

theorem captureAll_drawnFrom {taken : List Snapshot} (drawn : DrawnFrom snapshots record)
    (listed : ∀ snapshot ∈ taken, snapshot ∈ snapshots)
    (ok : taken.foldlM (fun record snapshot => advance (record.captureSnapshot snapshot)) record =
      .ok after) : DrawnFrom snapshots after := by
  induction taken generalizing record with
  | nil =>
      cases ok
      exact drawn
  | cons snapshot rest ih =>
      rw [List.forall_mem_cons] at listed
      rw [List.foldlM_cons, bind_eq_ok_iff] at ok
      obtain ⟨middle, first, later⟩ := ok
      have drawn' := captureSnapshot_drawnFrom drawn listed.1 (advance_eq_ok_iff.mp first)
      exact ih drawn' listed.2 later

theorem transition_drawnFrom {next : SessionState} {now : Timestamp} {reason : String}
    (drawn : DrawnFrom snapshots record)
    (ok : advance (record.transition next now reason) = .ok after) : DrawnFrom snapshots after := by
  obtain ⟨-, rfl⟩ := SessionRecord.moved_of_transition (advance_eq_ok_iff.mp ok)
  exact drawn.of_operations rfl

theorem recordIntent_drawnFrom (drawn : DrawnFrom snapshots record)
    (ok : record.recordIntent = (.ok (), after)) : DrawnFrom snapshots after := by
  unfold SessionRecord.recordIntent at ok
  split at ok
  · cases ok
  next complete =>
    have ready : ∀ operation ∈ record.operations, operation.state = .snapshotted := by
      simpa using complete
    rw [intendAll_snapshotted ready] at ok
    cases ok
    intro other member
    obtain ⟨operation, present, rfl⟩ := List.mem_map.mp member
    exact drawn operation present

theorem preparedRecord_drawnFrom {plan : Plan} {now : Timestamp} {sessionId : SessionId}
    (ok : preparedRecord plan now snapshots sessionId = .ok record) :
    DrawnFrom snapshots record := by
  unfold preparedRecord at ok
  simp only [bind_eq_ok_iff] at ok
  obtain ⟨fresh, freshOk, detected, detectedOk, planned, plannedOk, captured, capturedOk,
    snapshotted, snapshottedOk, intended, intendedOk, durableOk⟩ := ok
  obtain ⟨rfl, -⟩ := new_eq_ok freshOk
  have start : DrawnFrom snapshots
      ⟨.new sessionId plan now, plan.mutations.map .planned, [], []⟩ := by
    intro operation member snapshot taken
    obtain ⟨mutation, -, rfl⟩ := List.mem_map.mp member
    cases taken
  have begun := transition_drawnFrom (transition_drawnFrom start detectedOk) plannedOk
  have taken := captureAll_drawnFrom begun (fun _ member => member) capturedOk
  have complete := transition_drawnFrom taken snapshottedOk
  have ready := recordIntent_drawnFrom complete (advance_eq_ok_iff.mp intendedOk)
  exact transition_drawnFrom ready durableOk

/-- What the second list pairs with is in the first. -/
theorem origin_of_forall₂ {α β : Type} {each : α → β → Prop} {items : List α} {values : List β}
    (pairs : List.Forall₂ each items values) {value : β} (member : value ∈ values) :
    ∃ item ∈ items, each item value := by
  induction pairs with
  | nil => cases member
  | cons first _ ih =>
      rcases List.mem_cons.mp member with rfl | member
      · exact ⟨_, List.mem_cons_self, first⟩
      · obtain ⟨item, listed, paired⟩ := ih member
        exact ⟨item, List.mem_cons_of_mem _ listed, paired⟩

/-- A snapshot that is right for the mutation it was taken for. -/
def Suits (right : PlannedMutation → Snapshot → Prop) (mutation : PlannedMutation)
    (snapshot : Snapshot) : Prop :=
  snapshot.mutationId = mutation.mutationId ∧ right mutation snapshot

variable {right : PlannedMutation → Snapshot → Prop}

/-- A prepared record holds each snapshot with the mutation it was taken for. -/
theorem preparedRecord_sound {plan : Plan} {now : Timestamp} {sessionId : SessionId}
    (taken : List.Forall₂ (Suits right) plan.mutations snapshots)
    (ok : preparedRecord plan now snapshots sessionId = .ok record) :
    record.outline.Sound right := by
  have drawn := preparedRecord_drawnFrom ok
  have prepared := preparedFor_of_preparedRecord ok
  intro mutation snapshot listed
  obtain ⟨operation, member, same⟩ := List.mem_map.mp listed
  obtain ⟨rfl, held⟩ := Prod.mk.inj same
  obtain ⟨origin, planned, suits⟩ := origin_of_forall₂ taken (drawn operation member snapshot held)
  have own : operation.mutation ∈ plan.mutations := by
    rw [← prepared.mutations]
    exact List.mem_map_of_mem member
  have named : snapshot.mutationId = operation.mutation.mutationId := by
    cases prepared.intended operation member with
    | intro captured =>
        cases held
        exact captured.mutationId
  have one : origin = operation.mutation :=
    List.inj_on_of_nodup_map prepared.nodup planned own (suits.1.symm.trans named)
  rw [← one]
  exact suits.2

/-! ## The terms of a preparation -/

/-- An engine that prepares a plan takes snapshots of its mutations and stores a
record that is right; it gets there only if nothing unfinished was stored. -/
def preparing (right : PlannedMutation → Snapshot → Prop) (plan : Plan) (settled : Prop) :
    Terms Answer where
  allowed
    | .create record => record.outline.Sound right
    | .snapshot mutation _ => mutation ∈ plan.mutations
    | .active | .acquire | .loadUnfinished | .now | .nextId | .hold _ | .dropGuard => True
    | _ => False
  promised
    | .snapshot mutation _, .ok snapshot => right mutation snapshot
    | .loadUnfinished, .ok records => records = [] → settled
    | _, _ => True

section Preparing

variable {plan : Plan} {settled : Prop}

theorem captureOne_obeys (now : Timestamp) {mutation : PlannedMutation}
    (planned : mutation ∈ plan.mutations) :
    Obeys (preparing right plan settled)
      (fun result => ∀ snapshot, result = .ok snapshot → Suits right mutation snapshot)
      (captureOne now mutation).run := by
  have taken : Obeys (preparing right plan settled)
      (fun result => ∀ snapshot, result = .ok snapshot → right mutation snapshot)
      (Fallible.mapErr (contextual · .snapshot none (some mutation.mutationId))
        (Fallible.port (Prog.perform (Call.snapshot mutation now)))).run := by
    apply Obeys.perform_bind_iff.mpr
    constructor
    · exact planned
    intro answer promised
    cases answer with
    | error error => exact fun _ => nofun
    | ok snapshot =>
        rintro _ ⟨⟩
        exact promised
  apply Obeys.run_seq taken
  · exact fun _ _ => nofun
  intro snapshot known
  have checked : Obeys (preparing right plan settled)
      (fun result => result = .ok () → snapshot.mutationId = mutation.mutationId)
      (Fallible.check (validateSnapshot mutation snapshot)).run := by
    intro valid
    unfold validateSnapshot at valid
    split at valid
    · cases valid
    next same =>
      simp only [Bool.or_eq_true, decide_eq_true_eq, not_or, not_not] at same
      exact same.1.1
  apply Obeys.run_seq checked
  · exact fun _ _ => nofun
  intro _ named
  apply Obeys.run_seq (refuseIf_calls _ _).obeys
  · exact fun _ _ _ => nofun
  · rintro _ _ _ ⟨⟩
    exact ⟨named rfl, known snapshot rfl⟩

theorem createSession_obeys (now : Timestamp) (attempts : Nat)
    (taken : List.Forall₂ (Suits right) plan.mutations snapshots) :
    Obeys (preparing right plan settled) (fun _ => True)
      (createSession plan now snapshots attempts).run := by
  induction attempts with
  | zero => trivial
  | succ attempts ih =>
      apply Obeys.perform_bind_iff.mpr
      constructor
      · trivial
      intro answer _
      cases answer with
      | error error => trivial
      | ok sessionId =>
          have built : Obeys (preparing right plan settled)
              (fun result => ∀ record, result = .ok record → record.outline.Sound right)
              (Fallible.check (preparedRecord plan now snapshots sessionId)).run :=
            fun record ok => preparedRecord_sound taken ok
          apply Obeys.run_seq built
          · exact fun _ _ => trivial
          intro record sound
          apply Obeys.perform_bind_iff.mpr
          constructor
          · exact sound record rfl
          intro created _
          cases created with
          | ok done => exact ⟨trivial, fun _ _ => trivial⟩
          | error error =>
              change Obeys _ _ (if _ then _ else _ : Fallible SessionId).run
              split
              · exact ih
              · trivial

theorem prepareLocked_obeys :
    Obeys (preparing right plan settled)
      (fun result => ∀ sessionId, result = .ok sessionId → settled)
      (prepareLocked plan).run := by
  apply Obeys.perform_bind_iff.mpr
  constructor
  · trivial
  intro answer promised
  cases answer with
  | error error => exact fun _ => nofun
  | ok unfinished =>
      cases unfinished with
      | cons record rest => exact fun _ => nofun
      | nil =>
          have done : settled := promised rfl
          have timed : Calls (preparing right plan settled) (now .detect).run :=
            ⟨trivial, fun _ => trivial⟩
          have rest : Obeys (preparing right plan settled) (fun _ => True) (do
              let now ← now .detect
              let snapshots ← plan.mutations.mapM (captureOne now)
              createSession plan now snapshots 32 : Fallible SessionId).run := by
            apply Obeys.run_seq timed.obeys
            · exact fun _ _ => trivial
            intro now _
            apply Obeys.run_seq
              (Obeys.mapM_run fun mutation planned => captureOne_obeys now planned)
            · exact fun _ _ => trivial
            · exact fun snapshots taken => createSession_obeys now 32 (taken snapshots rfl)
          exact rest.mono fun _ _ _ _ => done

/-- A preparation that succeeds has found nothing unfinished. -/
theorem prepare_obeys :
    Obeys (preparing right plan settled)
      (fun result => ∀ sessionId, result = .ok sessionId → settled)
      (prepare plan).run := by
  apply Obeys.perform_bind_iff.mpr
  constructor
  · trivial
  intro active _
  apply Obeys.run_seq (refuseIf_calls _ _).obeys
  · exact fun _ _ _ => nofun
  intro _ _
  have checked : Calls (preparing right plan settled) (Fallible.check plan.validateComplete).run :=
    trivial
  apply Obeys.run_seq checked.obeys
  · exact fun _ _ _ => nofun
  intro _ _
  apply Obeys.run_seq (refuseIf_calls _ _).obeys
  · exact fun _ _ _ => nofun
  intro _ _
  have acquired : Calls (preparing right plan settled) (Fallible.mapErr
      (fun error => (error.withStage .durableIntent).retryable .retry)
      (Fallible.port (Prog.perform Call.acquire))).run :=
    ⟨trivial, fun _ => trivial⟩
  apply Obeys.run_seq acquired.obeys
  · exact fun _ _ _ => nofun
  intro _ _
  have attempted : Obeys (preparing right plan settled)
      (fun result => ∀ sessionId, result = .ok (.ok sessionId) → settled)
      (Fallible.attempt (prepareLocked plan)).run := by
    apply Obeys.seq prepareLocked_obeys
    rintro result known sessionId ⟨⟩
    exact known sessionId rfl
  apply Obeys.run_seq attempted
  · exact fun _ _ _ => nofun
  intro result known
  cases result with
  | ok sessionId => exact fun _ _ => known sessionId rfl
  | error error => exact ⟨trivial, fun _ _ _ => nofun⟩

end Preparing

end Sysboost.Platform
