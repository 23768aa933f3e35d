import Sysboost.Platform.Conduct

/-!
# The conduct of the public operations

From a coherent world every request makes permitted calls only, and its reply
may be noted in the log: a session that it declares restored is accounted for.
-/

namespace Sysboost.Platform

open Sysboost.Core Interaction

section Requests

variable {engine : EngineId} {world : World} {sessionId : SessionId}

theorem active_conducts (coherent : Coherent world) :
    Conducts engine (fun _ after => Later world after) (Prog.perform Call.active) world := by
  have permitted : Permitted world.log .active := trivial
  exact (conducts_port coherent permitted (by simp)).mono fun _ _ known => known.1

theorem requireActive_conducts (coherent : Coherent world) :
    Conducts engine (fun _ after => Later world after) (requireActive sessionId).run world := by
  refine Alone.lift_seq (active_conducts coherent) fun answer after later => ?_
  rcases answer with _ | active
  · exact Alone.ret_iff.mpr later
  · by_cases same : active = sessionId
    · simp only [same, if_true]
      exact Alone.ret_iff.mpr later
    · simp only [same, if_false]
      exact Alone.ret_iff.mpr later

/-- A loaded record is possible. -/
def Loaded (sessionId : SessionId) (world : World) :
    Except SysboostError SessionRecord → Prop
  | .ok record => Possible world.log record ∧ record.sessionId = sessionId
  | .error _ => True

theorem loadActiveRecord_conducts (coherent : Coherent world) :
    Conducts engine (fun result after => Later world after ∧ Loaded sessionId after result)
      (loadActiveRecord sessionId).run world := by
  refine Alone.seq (conducts_port coherent trivial (by simp)) fun answer after known => ?_
  obtain ⟨later, law⟩ := known
  rcases answer with error | record
  · exact Alone.ret_iff.mpr ⟨later, trivial⟩
  · obtain ⟨files, member, session⟩ := law.store
    refine Alone.ret_iff.mpr ⟨later, later.coherent.possible record ?_, session⟩
    rwa [files]

/-- The reply of `apply` and `restore`. -/
def StateReply (sessionId : SessionId) (result : Except SysboostError SessionState)
    (world : World) : Prop :=
  Coherent world ∧ (result = .ok .restored → Accounted world.log sessionId)

theorem apply_conducts (coherent : Coherent world) :
    Conducts engine (StateReply sessionId) (apply sessionId).run world := by
  unfold apply
  refine Alone.run_seq (requireActive_conducts coherent)
    (fun _ _ later => ⟨later.coherent, by simp⟩) fun _ entered later => ?_
  refine Alone.run_seq (loadActiveRecord_conducts later.coherent)
    (fun _ _ known => ⟨known.1.coherent, by simp⟩) fun record loaded known => ?_
  obtain ⟨later', possible, session⟩ := known
  have refused {failure : SysboostError} {final : World} (coherent : Coherent final) :
      StateReply sessionId (.error failure) final := ⟨coherent, by simp⟩
  split
  · rename_i durable
    refine Alone.run_seq (now_conducts later'.coherent) (fun _ _ known => refused known.coherent)
      fun now ticked known => ?_
    have legal : record.session.state.canTransition .applying = true := by rw [durable]; rfl
    have reason : SessionRecord.GoodReason "ordered mutation application started" := by decide
    have moved := (known.possible possible).move now _ reason legal (by simp)
    have ready : ∀ operation ∈ record.operations, Ready operation :=
      fun operation member => .inr (possible.intended durable operation member)
    simp only [SessionRecord.transition_of_legal reason legal]
    refine Alone.lift_seq (persist_conducts known.coherent moved) fun result persisted known => ?_
    rcases result with failure | done
    · have recorded := (known.1.possible moved).edit (.failure known.2)
      refine (rollbackAfterFailure_conducts known.1.coherent recorded (.inl rfl)).mono
        fun result last known => ⟨known.1.coherent, ?_⟩
      obtain ⟨failure, rfl⟩ := known.2
      simp
    · have good : Applying sessionId persisted
          (record.moved .applying now "ordered mutation application started") :=
        ⟨known.1.coherent, known.1.possible moved, session, rfl, ready⟩
      exact (applyOperations_conducts _ good).mono fun result last known =>
        ⟨known.1, fun restored => absurd restored known.2⟩
  · rename_i active
    exact Alone.ret_iff.mpr ⟨later'.coherent, by simp⟩
  · rename_i restored
    refine Alone.lift_seq (releaseIfRestored_conducts later'.coherent) fun _ released known => ?_
    refine Alone.ret_iff.mpr ⟨known.coherent, fun _ => known.accounted ?_⟩
    exact session ▸ possible.accounted restored
  · exact Alone.ret_iff.mpr (refused later'.coherent)

theorem check_conducts {α : Type} {result : Except SysboostError α} (coherent : Coherent world) :
    Conducts engine (fun answer after => Later world after ∧ answer = result)
      (Fallible.check result).run world :=
  Alone.ret_iff.mpr ⟨Later.refl coherent, rfl⟩

theorem refuseIf_conducts {condition : Bool} {error : SysboostError} (coherent : Coherent world) :
    Conducts engine (fun answer after => Later world after ∧
      (answer = .ok () → condition = false)) (Fallible.refuseIf condition error).run world := by
  cases condition
  · exact Alone.ret_iff.mpr ⟨Later.refl coherent, fun _ => rfl⟩
  · exact Alone.ret_iff.mpr ⟨Later.refl coherent, by simp⟩

theorem mapErr_conducts {α : Type} {change : SysboostError → SysboostError}
    {program : Engine (Except SysboostError α)} {law : Except SysboostError α → World → Prop}
    (conducts : Conducts engine (fun answer after => Later world after ∧ law answer after)
      program world) :
    Conducts engine (fun _ after => Later world after)
      (Fallible.mapErr change (Fallible.port program)).run world :=
  Alone.seq conducts fun _ _ known => Alone.ret_iff.mpr known.1

/-! ## Restoring -/

theorem restoredBefore_conducts (coherent : Coherent world) :
    Conducts engine (fun result after => Later world after ∧
      (result = .ok true → Accounted after.log sessionId)) (restoredBefore sessionId).run world := by
  refine Alone.lift_seq (active_conducts coherent) fun active entered later => ?_
  rcases active with _ | active
  · refine Alone.run_seq (loadActiveRecord_conducts later.coherent)
      (fun _ _ known => ⟨later.trans known.1, by simp⟩) fun record loaded known => ?_
    refine Alone.ret_iff.mpr ⟨later.trans known.1, fun answer => ?_⟩
    simp only [Except.ok.injEq, decide_eq_true_eq] at answer
    exact known.2.2 ▸ known.2.1.accounted answer
  · exact Alone.ret_iff.mpr ⟨later, by simp⟩

theorem releaseAfter_conducts {state : SessionState} (coherent : Coherent world) :
    Conducts engine (fun _ after => Later world after) (releaseAfter sessionId state) world := by
  unfold releaseAfter
  split
  · exact releaseIfRestored_conducts coherent
  · exact Alone.ret_iff.mpr (Later.refl coherent)

theorem stateReply_error {failure : SysboostError} (coherent : Coherent world) :
    StateReply sessionId (.error failure) world :=
  ⟨coherent, by simp⟩

theorem restoreActive_conducts (coherent : Coherent world) :
    Conducts engine (StateReply sessionId) (restoreActive sessionId).run world := by
  refine Alone.run_seq (requireActive_conducts coherent)
    (fun _ _ later => stateReply_error later.coherent) fun _ entered later => ?_
  refine Alone.run_seq (loadActiveRecord_conducts later.coherent)
    (fun _ _ known => stateReply_error known.1.coherent) fun record loaded known => ?_
  obtain ⟨here, possible, session⟩ := known
  by_cases restored : record.session.state = .restored
  · simp only [restored, if_true]
    refine Alone.lift_seq (releaseIfRestored_conducts here.coherent) fun _ released known => ?_
    exact Alone.ret_iff.mpr
      ⟨known.coherent, fun _ => known.accounted (session ▸ possible.accounted restored)⟩
  simp only [restored, if_false]
  refine Alone.lift_seq (prepareRestoreState_conducts here.coherent possible restored)
    fun outcome prepared known => ?_
  obtain ⟨here, possible, session', restorative⟩ := known
  refine Alone.run_seq (check_conducts here.coherent)
    (fun _ _ known => stateReply_error known.1.coherent) fun _ checked known => ?_
  refine Alone.lift_seq (restoreRecord_conducts known.1.coherent (known.1.possible possible)
    (restorative known.2.symm)) fun result ended known => ?_
  obtain ⟨here, done⟩ := known
  refine Alone.run_seq (check_conducts here.coherent)
    (fun _ _ known => stateReply_error known.1.coherent) fun state final known => ?_
  refine Alone.lift_seq (releaseAfter_conducts known.1.coherent) fun _ last released => ?_
  refine Alone.ret_iff.mpr ⟨released.coherent, fun _ => released.accounted ?_⟩
  have accounted := done.possible.accounted (done.restored state known.2.symm).2
  rw [done.session, session', session] at accounted
  exact known.1.accounted accounted

theorem restore_conducts (coherent : Coherent world) :
    Conducts engine (StateReply sessionId) (restore sessionId).run world := by
  refine Alone.run_seq (restoredBefore_conducts coherent)
    (fun _ _ known => stateReply_error known.1.coherent) fun answer after known => ?_
  cases answer with
  | true => exact Alone.ret_iff.mpr ⟨known.1.coherent, fun _ => known.2 rfl⟩
  | false => exact restoreActive_conducts known.1.coherent

/-! ## Aborting -/

theorem abortPrepared_conducts (coherent : Coherent world) :
    Conducts engine (fun _ after => Coherent after) (abortPrepared sessionId).run world := by
  refine Alone.run_seq (requireActive_conducts coherent) (fun _ _ later => later.coherent)
    fun _ entered later => ?_
  refine Alone.run_seq (loadActiveRecord_conducts later.coherent)
    (fun _ _ known => known.1.coherent) fun record loaded known => ?_
  obtain ⟨here, possible, session⟩ := known
  refine Alone.run_seq (refuseIf_conducts here.coherent) (fun _ _ known => known.1.coherent)
    fun _ checked known => ?_
  obtain ⟨here, passed⟩ := known
  have pristine := passed rfl
  simp only [Bool.or_eq_false_iff, List.any_eq_false, bne_iff_ne, ne_eq, not_not] at pristine
  have unapplied : ∀ mutation, Unapplied checked.log sessionId mutation := fun mutation =>
    here.unapplied (session ▸ possible.unapplied pristine.2 mutation)
  refine Alone.run_seq (mapErr_conducts (conducts_port here.coherent unapplied (by simp)))
    (fun _ _ known => known.coherent) fun _ removed known => ?_
  have permitted : Permitted removed.log .release := trivial
  refine Alone.seq (conducts_port known.coherent permitted (by simp)) fun _ _ known => ?_
  exact Alone.ret_iff.mpr known.1.coherent

/-! ## Recovering -/

/-- Every status that says restored is accounted for. -/
def StatusesGood (world : World) (statuses : List TransactionStatus) : Prop :=
  ∀ status ∈ statuses, status.state = .restored → Accounted world.log status.sessionId

theorem StatusesGood.later {before after : World} {statuses : List TransactionStatus}
    (good : StatusesGood before statuses) (later : Later before after) :
    StatusesGood after statuses :=
  fun status member restored => later.accounted (good status member restored)

theorem StatusesGood.add {statuses : List TransactionStatus} {record : SessionRecord}
    {state : SessionState} (good : StatusesGood world statuses)
    (possible : Possible world.log record) (session : record.sessionId = sessionId)
    (honest : state = .restored → record.session.state = .restored) :
    StatusesGood world (statuses ++ [⟨sessionId, state⟩]) := by
  intro status member restored
  rcases List.mem_append.mp member with member | member
  · exact good status member restored
  · rw [List.mem_singleton.mp member] at restored ⊢
    exact session ▸ possible.accounted (honest restored)

theorem recoverOne_conducts {recovery : Recovery} {record : SessionRecord}
    (coherent : Coherent world) (possible : Possible world.log record)
    (unrestored : record.session.state ≠ .restored)
    (good : StatusesGood world recovery.statuses) :
    Conducts engine (fun left after => Later world after ∧ StatusesGood after left.statuses)
      (recoverOne recovery record) world := by
  refine Alone.seq (prepareRestoreState_conducts coherent possible unrestored)
    fun outcome prepared known => ?_
  obtain ⟨later, possible', session, restorative⟩ := known
  rcases outcome with ⟨error | done, left⟩
  · exact Alone.ret_iff.mpr ⟨later, (good.later later).add possible' session id⟩
  · refine Alone.seq (restoreRecord_conducts later.coherent possible' (restorative rfl))
      fun result final known => ?_
    obtain ⟨later', ended⟩ := known
    have reached := later.trans later'
    have session' := ended.session.trans session
    rcases result with ⟨error | state, last⟩
    · exact Alone.ret_iff.mpr ⟨reached, (good.later reached).add ended.possible session' id⟩
    · exact Alone.ret_iff.mpr ⟨reached, (good.later reached).add ended.possible session'
        fun _ => (ended.restored state rfl).2⟩

theorem recoverAll_conducts {records : List SessionRecord} {recovery : Recovery}
    (coherent : Coherent world) (possible : ∀ record ∈ records, Possible world.log record)
    (unrestored : ∀ record ∈ records, record.session.state ≠ .restored)
    (good : StatusesGood world recovery.statuses) :
    Conducts engine (fun left after => Later world after ∧ StatusesGood after left.statuses)
      (records.foldlM recoverOne recovery) world := by
  induction records generalizing world recovery with
  | nil => exact Alone.ret_iff.mpr ⟨Later.refl coherent, good⟩
  | cons record rest ih =>
      refine Alone.seq (recoverOne_conducts coherent (possible record (by simp))
        (unrestored record (by simp)) good) fun left after known => ?_
      refine (ih known.1.coherent (fun other member => ?_) (fun other member => ?_)
        known.2).mono fun last final later => ⟨known.1.trans later.1, later.2⟩
      · exact known.1.possible (possible other (by simp [member]))
      · exact unrestored other (by simp [member])

/-- The reply of `recover_unfinished`. -/
def RecoveryReply (result : Except SysboostError (List TransactionStatus)) (world : World) :
    Prop :=
  Coherent world ∧ ∀ statuses, result = .ok statuses → StatusesGood world statuses

theorem finishRecovery_conducts {recovery : Recovery} {fallback : SessionId}
    (coherent : Coherent world) (good : StatusesGood world recovery.statuses) :
    Conducts engine RecoveryReply (finishRecovery recovery fallback).run world := by
  unfold finishRecovery
  split
  · have permitted : Permitted world.log .dropGuard := trivial
    refine Alone.lift_seq (conducts_port coherent permitted (by simp)) fun _ after known => ?_
    refine Alone.ret_iff.mpr ⟨known.1.coherent, ?_⟩
    rintro statuses ⟨⟩
    exact good.later known.1
  · have permitted (session : SessionId) : Permitted world.log (.hold session) := trivial
    refine Alone.lift_seq (conducts_port coherent (permitted _) (by simp)) fun _ after known => ?_
    exact Alone.ret_iff.mpr ⟨known.1.coherent, by simp⟩

theorem recoverLocked_conducts (coherent : Coherent world) :
    Conducts engine RecoveryReply recoverLocked.run world := by
  have permitted : Permitted world.log .loadUnfinished := trivial
  refine Alone.lift_seq (conducts_port coherent permitted (by simp)) fun answer loaded known => ?_
  obtain ⟨later, law⟩ := known
  have dropped : Permitted loaded.log .dropGuard := trivial
  rcases answer with error | records
  · refine Alone.lift_seq (conducts_port later.coherent dropped (by simp)) fun _ after known => ?_
    exact Alone.ret_iff.mpr ⟨known.1.coherent, by simp⟩
  obtain ⟨files, perm⟩ := law.store
  have stored : ∀ record ∈ sortRecords records, record ∈ loaded.files ∧
      record.session.state ≠ .restored := by
    intro record member
    have present := (perm.mem_iff).mp ((List.perm_insertionSort _ _).mem_iff.mp member)
    simpa [unfinished, files] using present
  cases sorted : sortRecords records with
  | nil =>
      simp only [sorted]
      refine Alone.lift_seq (conducts_port later.coherent dropped (by simp))
        fun _ after known => ?_
      refine Alone.ret_iff.mpr ⟨known.1.coherent, ?_⟩
      rintro statuses ⟨⟩
      simp [StatusesGood]
  | cons first rest =>
      rw [sorted] at stored
      simp only [sorted]
      refine Alone.lift_seq (recoverAll_conducts later.coherent
        (fun record member => later.coherent.possible record (stored record member).1)
        (fun record member => (stored record member).2) (by simp [StatusesGood]))
        fun recovery after known => ?_
      exact finishRecovery_conducts known.1.coherent known.2

theorem recoverUnfinished_conducts (coherent : Coherent world) :
    Conducts engine RecoveryReply recoverUnfinished.run world := by
  refine Alone.lift_seq (active_conducts coherent) fun active entered later => ?_
  refine Alone.run_seq (refuseIf_conducts later.coherent)
    (fun _ _ known => ⟨known.1.coherent, by simp⟩) fun _ checked known => ?_
  have permitted : Permitted checked.log .acquire := trivial
  refine Alone.run_seq (mapErr_conducts (conducts_port known.1.coherent permitted (by simp)))
    (fun _ _ known => ⟨known.coherent, by simp⟩) fun _ acquired known => ?_
  exact recoverLocked_conducts known.coherent

/-! ## Preparing -/

theorem captureOne_conducts {now : Timestamp} {mutation : PlannedMutation}
    (coherent : Coherent world) :
    Conducts engine (fun _ after => Later world after) (captureOne now mutation).run world := by
  have permitted : Permitted world.log (.snapshot mutation now) := trivial
  refine Alone.run_seq (mapErr_conducts (conducts_port coherent permitted (by simp)))
    (fun _ _ later => later) fun snapshot captured later => ?_
  refine Alone.run_seq (check_conducts later.coherent) (fun _ _ known => later.trans known.1)
    fun _ checked known => ?_
  have later' := later.trans known.1
  refine Alone.run_seq (refuseIf_conducts later'.coherent) (fun _ _ known => later'.trans known.1)
    fun _ final known => ?_
  exact Alone.ret_iff.mpr (later'.trans known.1)

theorem captureAll_conducts {now : Timestamp} {mutations : List PlannedMutation}
    (coherent : Coherent world) :
    Conducts engine (fun _ after => Later world after) (mutations.mapM (captureOne now)).run
      world := by
  induction mutations generalizing world with
  | nil => exact Alone.ret_iff.mpr (Later.refl coherent)
  | cons mutation rest ih =>
      rw [List.mapM_cons]
      refine Alone.run_seq (captureOne_conducts coherent) (fun _ _ later => later)
        fun snapshot captured later => ?_
      refine Alone.run_seq (ih later.coherent) (fun _ _ known => later.trans known)
        fun snapshots final known => ?_
      exact Alone.ret_iff.mpr (later.trans known)

/-- The plan was requested. -/
def Requested (plan : Plan) (log : List Entry) : Prop :=
  ∃ engine, .requested engine (.prepare plan) ∈ log

theorem Later.requested {before after : World} {plan : Plan} (later : Later before after)
    (requested : Requested plan before.log) : Requested plan after.log := by
  refine later.lasts (Requested plan) (fun log entry _ requested => ?_) requested
  obtain ⟨engine, member⟩ := requested
  exact ⟨engine, List.mem_cons_of_mem _ member⟩

theorem createSession_conducts {plan : Plan} {now : Timestamp} {snapshots : List Snapshot}
    (attempts : Nat) (coherent : Coherent world) (requested : Requested plan world.log) :
    Conducts engine (fun _ after => Later world after)
      (createSession plan now snapshots attempts).run world := by
  induction attempts generalizing world with
  | zero => exact Alone.ret_iff.mpr (Later.refl coherent)
  | succ attempts ih =>
      have permitted : Permitted world.log .nextId := trivial
      refine Alone.run_seq (mapErr_conducts (conducts_port coherent permitted (by simp)))
        (fun _ _ later => later) fun sessionId named later => ?_
      refine Alone.run_seq (check_conducts later.coherent) (fun _ _ known => later.trans known.1)
        fun record built known => ?_
      obtain ⟨later', same⟩ := known
      have later' := later.trans later'
      have prepared := preparedFor_of_preparedRecord same.symm
      have session : record.sessionId = sessionId := by
        rw [SessionRecord.sessionId, prepared.session]
        rfl
      have permitted : Permitted built.log (.create record) := by
        obtain ⟨engine', member⟩ := later'.requested requested
        exact ⟨engine', plan, now, member, session.symm ▸ prepared⟩
      refine Alone.lift_seq (conducts_port later'.coherent permitted (by simp))
        fun answer created known => ?_
      have later' := later'.trans known.1
      rcases answer with error | done
      · by_cases collision : error.code = .invariantViolation
        · simp only [collision, if_true]
          exact (ih later'.coherent (later'.requested requested)).mono
            fun _ _ known => later'.trans known
        · simp only [collision, if_false]
          exact Alone.ret_iff.mpr later'
      · have permitted : Permitted created.log (.hold sessionId) := trivial
        refine Alone.lift_seq (conducts_port later'.coherent permitted (by simp))
          fun _ held known => ?_
        exact Alone.ret_iff.mpr (later'.trans known.1)

theorem prepareLocked_conducts {plan : Plan} (coherent : Coherent world)
    (requested : Requested plan world.log) :
    Conducts engine (fun _ after => Later world after) (prepareLocked plan).run world := by
  have permitted : Permitted world.log .loadUnfinished := trivial
  refine Alone.run_seq (mapErr_conducts (conducts_port coherent permitted (by simp)))
    (fun _ _ later => later) fun unfinished loaded later => ?_
  refine Alone.run_seq (refuseIf_conducts later.coherent) (fun _ _ known => later.trans known.1)
    fun _ checked known => ?_
  have later := later.trans known.1
  refine Alone.run_seq (now_conducts later.coherent) (fun _ _ known => later.trans known)
    fun now ticked known => ?_
  have later := later.trans known
  refine Alone.run_seq (captureAll_conducts later.coherent) (fun _ _ known => later.trans known)
    fun snapshots captured known => ?_
  have later := later.trans known
  exact (createSession_conducts 32 later.coherent (later.requested requested)).mono
    fun _ _ known => later.trans known

theorem prepare_conducts {plan : Plan} (coherent : Coherent world)
    (requested : Requested plan world.log) :
    Conducts engine (fun _ after => Later world after) (prepare plan).run world := by
  refine Alone.lift_seq (active_conducts coherent) fun active entered later => ?_
  refine Alone.run_seq (refuseIf_conducts later.coherent) (fun _ _ known => later.trans known.1)
    fun _ idle known => ?_
  have later := later.trans known.1
  refine Alone.run_seq (check_conducts later.coherent) (fun _ _ known => later.trans known.1)
    fun _ complete known => ?_
  have later := later.trans known.1
  refine Alone.run_seq (refuseIf_conducts later.coherent) (fun _ _ known => later.trans known.1)
    fun _ nonempty known => ?_
  have later := later.trans known.1
  have permitted : Permitted nonempty.log .acquire := trivial
  refine Alone.run_seq (mapErr_conducts (conducts_port later.coherent permitted (by simp)))
    (fun _ _ known => later.trans known) fun _ acquired known => ?_
  have later := later.trans known
  refine Alone.lift_seq (prepareLocked_conducts later.coherent (later.requested requested))
    fun result prepared known => ?_
  have later := later.trans known
  rcases result with error | sessionId
  · have permitted : Permitted prepared.log .dropGuard := trivial
    refine Alone.lift_seq (conducts_port later.coherent permitted (by simp))
      fun _ final known => ?_
    exact Alone.ret_iff.mpr (later.trans known.1)
  · exact Alone.ret_iff.mpr later

end Requests

/-! ## All requests -/

/-- A reply may be noted. -/
theorem Coherent.reply {world : World} {engine : EngineId} {request : Request} {reply : Reply}
    (coherent : Coherent world)
    (honest : ∀ sessionId, Declares request reply sessionId → Accounted world.log sessionId) :
    Coherent ((service Law).reply engine request reply world) := by
  refine coherent.note ?_ honest (by simp)
  rintro sessionId mutation snapshot ⟨engine', answer, changed, same⟩
  cases same

theorem Coherent.issue {world : World} {engine : EngineId} {request : Request}
    (coherent : Coherent world) : Coherent ((service Law).issue engine request world) := by
  refine coherent.note ?_ trivial (by simp)
  rintro sessionId mutation snapshot ⟨engine', answer, changed, same⟩
  cases same

theorem request_conducts {engine : EngineId} {request : Request} {world : World}
    (coherent : Coherent world)
    (issued : .requested engine request ∈ world.log) :
    Conducts engine (fun reply after => Coherent after ∧
      Coherent ((service Law).reply engine request reply after)) request.program world := by
  cases request with
  | prepare plan =>
      refine Alone.seq (prepare_conducts coherent ⟨engine, issued⟩) fun result after later => ?_
      exact Alone.ret_iff.mpr ⟨later.coherent, later.coherent.reply fun _ => False.elim⟩
  | apply sessionId =>
      refine Alone.seq (apply_conducts coherent) fun result after known => ?_
      refine Alone.ret_iff.mpr ⟨known.1, known.1.reply fun restored declared => ?_⟩
      rcases result with error | state
      · exact declared.elim
      · cases state <;> first | exact declared.elim | exact declared ▸ known.2 rfl
  | restore sessionId =>
      refine Alone.seq (restore_conducts coherent) fun result after known => ?_
      refine Alone.ret_iff.mpr ⟨known.1, known.1.reply fun restored declared => ?_⟩
      rcases result with error | state
      · exact declared.elim
      · cases state <;> first | exact declared.elim | exact declared ▸ known.2 rfl
  | abortPrepared sessionId =>
      refine Alone.seq (abortPrepared_conducts coherent) fun result after coherent => ?_
      exact Alone.ret_iff.mpr ⟨coherent, coherent.reply fun _ => False.elim⟩
  | recoverUnfinished =>
      refine Alone.seq (recoverUnfinished_conducts coherent) fun result after known => ?_
      refine Alone.ret_iff.mpr ⟨known.1, known.1.reply fun restored declared => ?_⟩
      rcases result with error | statuses
      · exact declared.elim
      · exact known.2 statuses rfl ⟨restored, .restored⟩ declared rfl

/-- Every reachable world is coherent, wherever the run is stopped. -/
theorem Reachable.coherent {run : Run} (reachable : Reachable run) : Coherent run.world := by
  have good : (service Law).SerialGood Coherent
      (fun _ world call => Permitted world.log call) run := by
    refine reachable.good coherent_empty (fun engine request world coherent => ?_)
      fun engine world coherent => coherent.crash engine
    exact request_conducts coherent.issue (by simp [service, World.note])
  exact good.invariant

end Sysboost.Platform
