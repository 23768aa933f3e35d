import Sysboost.Interaction.Effects
import Sysboost.Platform.Authorization
import Sysboost.Platform.Requests
import Sysboost.Platform.Tenure

/-!
# Prepared sessions are bound or gone

After each call of the helper the lease of its engine belongs to a session the
helper knows, unless an abort has failed.  The trace of a preparation has one of
five shapes; what each does to the lease follows from what the operations of
the engine do to it.
-/

namespace Sysboost.Platform

open Sysboost.Core Interaction ByteCodec Results

/-! ## The lease along the operations of an engine -/

/-- Whatever the ports answer, the result and the final world satisfy `post`. -/
abbrev Leases {α : Type} (engine : EngineId) (post : α → World → Prop) (program : Engine α)
    (world : World) : Prop :=
  Alone (Law engine) (fun _ _ => True) post program world

/-- Calls that leave the lease alone. -/
def Call.KeepsLease : Call → Prop
  | .hold _ | .release => False
  | _ => True

theorem Law.active_eq {engine : EngineId} {before after : World} {call : Call}
    {answer : Answer call} (law : Law engine before call answer after) (keeps : call.KeepsLease) :
    after.active = before.active := by
  have lease := law.lease
  cases call with
  | active => exact lease.2
  | hold sessionId => exact keeps.elim
  | release => exact keeps.elim
  | _ => exact lease

section Leases

variable {engine : EngineId} {world : World} {lease : Option SessionId}

theorem leases_of_within {α : Type} {p : α → Prop} {program : Engine α}
    (within : Within Call.KeepsLease p program) (active : world.active engine = lease) :
    Leases engine (fun value after => p value ∧ after.active engine = lease) program world := by
  have holds : (fun world : World => world.active engine = lease) world := active
  refine Within.safe ?_ ?_ within holds
  · exact fun step active => step ▸ active
  · exact fun active keeps => ⟨trivial, fun answer after law => by rw [law.active_eq keeps, active]⟩

theorem keepsLease_of_tame {sessionId : SessionId} {call : Call} (tame : call.Tame sessionId) :
    call.KeepsLease := by
  cases call with
  | hold _ => exact tame
  | release => exact tame
  | _ => trivial

/-- The tenure of a session of an engine that is alone. -/
def leaseTenure (engine : EngineId) (sessionId : SessionId) (lease : Option SessionId) :
    Tenure (Law engine) Eq (fun _ _ => True) sessionId lease where
  idle world := world.active engine = lease
  leased world := world.active engine = lease
  held world := world.active engine = lease
  ended world := world.active engine = none
  refl _ := rfl
  idle_stable step active := step ▸ active
  leased_stable step active := step ▸ active
  held_stable step active := step ▸ active
  ended_stable step active := step ▸ active
  idle_active active :=
    ⟨trivial, fun answer after law => ⟨law.lease.1.trans active, by rw [law.lease.2, active]⟩⟩
  idle_load active :=
    ⟨trivial, fun answer after law => by rw [law.active_eq trivial, active]⟩
  enter active _ := active
  leased_active active :=
    ⟨trivial, fun answer after law => ⟨law.lease.1.trans active, by rw [law.lease.2, active]⟩⟩
  leased_load active := by
    refine ⟨trivial, fun answer after law => ?_⟩
    have kept : after.active engine = lease := by rw [law.active_eq trivial, active]
    refine ⟨kept, ?_⟩
    rintro record rfl
    exact ⟨law.store.2.2, fun _ => kept⟩
  held_leased active := active
  held_tame active tame := ⟨trivial, fun answer after law => by
    rw [law.active_eq (keepsLease_of_tame tame), active]⟩
  finish active _ := ⟨trivial, fun answer after law => by rw [law.active_eq trivial, active]⟩
  release _ _ := ⟨trivial, fun answer after law => by
    rw [show after.active = _ from law.lease, Function.update_self]⟩
  ended_active active :=
    ⟨trivial, fun answer after law => ⟨law.lease.1.trans active, by rw [law.lease.2, active]⟩⟩

/-- A session that is applied or restored keeps the lease or gives it up. -/
theorem leases_of_done {α : Type} {sessionId : SessionId} {program : Engine α}
    (done : Safe (Law engine) Eq (fun _ _ => True)
      (fun _ after => (leaseTenure engine sessionId lease).Done after) program world) :
    Leases engine (fun _ after => after.active engine = lease ∨ after.active engine = none)
      program world := by
  refine Safe.mono done fun _ after known => ?_
  rcases known with idle | held | ⟨-, ended⟩
  · exact .inl idle
  · exact .inl held
  · exact .inr ended

theorem apply_leases (sessionId : SessionId) (active : world.active engine = lease) :
    Leases engine (fun _ after => after.active engine = lease ∨ after.active engine = none)
      (apply sessionId).run world :=
  leases_of_done ((leaseTenure engine sessionId lease).apply_safe active)

theorem restore_leases (sessionId : SessionId) (active : world.active engine = lease) :
    Leases engine (fun _ after => after.active engine = lease ∨ after.active engine = none)
      (restore sessionId).run world :=
  leases_of_done ((leaseTenure engine sessionId lease).restore_safe active)

/-! ### Preparing -/

/-- A prepared session has the lease; a failure leaves the lease alone. -/
def Prepares (engine : EngineId) (lease : Option SessionId) (result : Except SysboostError SessionId)
    (after : World) : Prop :=
  after.active engine = match result with
    | .ok sessionId => some sessionId
    | .error _ => lease

theorem createSession_leases {plan : Plan} {now : Timestamp} {snapshots : List Snapshot}
    (attempts : Nat) (active : world.active engine = lease) :
    Leases engine (Prepares engine lease) (createSession plan now snapshots attempts).run world := by
  induction attempts generalizing world with
  | zero => exact Alone.ret_iff.mpr active
  | succ attempts ih =>
      refine Alone.run_seq (leases_of_within (p := fun _ => True)
        ⟨trivial, fun _ => trivial⟩ active) (fun _ _ known => known.2) fun sessionId named known => ?_
      refine Alone.run_seq (leases_of_within (p := fun _ => True) trivial known.2)
        (fun _ _ known => known.2) fun record built known => ?_
      refine Alone.lift_seq (leases_of_within (p := fun _ => True)
        ⟨trivial, fun _ => trivial⟩ known.2) fun answer created known => ?_
      rcases answer with error | done
      · by_cases collision : error.code = .invariantViolation
        · simp only [collision, if_true]
          exact ih known.2
        · simp only [collision, if_false]
          exact Alone.ret_iff.mpr known.2
      · refine Alone.call_iff.mpr ⟨trivial, fun answer after law => Alone.ret_iff.mpr ?_⟩
        show after.active engine = some sessionId
        rw [show after.active = _ from law.lease, Function.update_self]

theorem refuseIf_keepsLease (condition : Bool) (error : SysboostError) :
    Within Call.KeepsLease (fun result => result = .ok () → condition = false)
      (Fallible.refuseIf condition error).run := by
  cases condition with
  | true => exact fun impossible => nomatch impossible
  | false => exact fun _ => rfl

theorem captureOne_keepsLease (now : Timestamp) (mutation : PlannedMutation) :
    Within Call.KeepsLease (fun _ => True) (captureOne now mutation).run := by
  refine Within.run_seq (m := fun _ => True) ⟨trivial, fun _ => trivial⟩
    (fun _ _ => trivial) fun snapshot _ => ?_
  refine Within.run_seq (m := fun _ => True) trivial (fun _ _ => trivial) fun _ _ => ?_
  exact Within.run_seq (refuseIf_keepsLease _ _) (fun _ _ => trivial) fun _ _ => trivial

theorem prepareLocked_leases {plan : Plan} (active : world.active engine = lease) :
    Leases engine (Prepares engine lease) (prepareLocked plan).run world := by
  refine Alone.run_seq (leases_of_within (p := fun _ => True)
    ⟨trivial, fun _ => trivial⟩ active) (fun _ _ known => known.2) fun records loaded known => ?_
  refine Alone.run_seq (leases_of_within (refuseIf_keepsLease _ _) known.2)
    (fun _ _ known => known.2) fun _ checked known => ?_
  refine Alone.run_seq (leases_of_within (p := fun _ => True)
    ⟨trivial, fun _ => trivial⟩ known.2) (fun _ _ known => known.2) fun now ticked known => ?_
  refine Alone.run_seq (leases_of_within
    (Within.mapM_run (captureOne_keepsLease now) plan.mutations) known.2)
    (fun _ _ known => known.2) fun snapshots captured known => ?_
  exact createSession_leases 32 known.2

theorem prepare_leases {plan : Plan} (active : world.active engine = lease) :
    Leases engine (Prepares engine lease) (prepare plan).run world := by
  refine Alone.lift_seq (leases_of_within (p := fun _ => True)
    ⟨trivial, fun _ => trivial⟩ active) fun _ entered known => ?_
  refine Alone.run_seq (leases_of_within (refuseIf_keepsLease _ _) known.2)
    (fun _ _ known => known.2) fun _ idle known => ?_
  refine Alone.run_seq (leases_of_within (p := fun _ => True) trivial known.2)
    (fun _ _ known => known.2) fun _ complete known => ?_
  refine Alone.run_seq (leases_of_within (refuseIf_keepsLease _ _) known.2)
    (fun _ _ known => known.2) fun _ nonempty known => ?_
  refine Alone.run_seq (leases_of_within (p := fun _ => True)
    ⟨trivial, fun _ => trivial⟩ known.2) (fun _ _ known => known.2) fun _ acquired known => ?_
  refine Alone.lift_seq (prepareLocked_leases known.2) fun result prepared known => ?_
  rcases result with error | sessionId
  · refine Alone.lift_seq (leases_of_within (p := fun _ => True)
      ⟨trivial, fun _ => trivial⟩ known) fun _ dropped known => ?_
    exact Alone.ret_iff.mpr known.2
  · exact Alone.ret_iff.mpr known

/-! ### Aborting and recovering -/

/-- An aborted session is gone; a failed abort leaves the lease alone. -/
def Aborts (engine : EngineId) (lease : Option SessionId) (sessionId : SessionId)
    (result : Except SysboostError Unit) (after : World) : Prop :=
  match result with
  | .ok () => after.active engine = none ∧ Fresh after.files sessionId
  | .error _ => after.active engine = lease

theorem fresh_discard (sessionId : SessionId) (files : List SessionRecord) :
    Fresh (discard sessionId files) sessionId := by
  intro record member
  simpa using (List.mem_filter.mp member).2

theorem abortPrepared_leases (sessionId : SessionId) (active : world.active engine = lease) :
    Leases engine (Aborts engine lease sessionId) (abortPrepared sessionId).run world := by
  have requires : Within Call.KeepsLease (fun _ => True) (requireActive sessionId).run := by
    refine Within.lift_seq (m := fun _ => True) ⟨trivial, fun _ => trivial⟩ fun answer _ => ?_
    rcases answer with _ | leased
    · trivial
    · by_cases same : leased = sessionId
      · simp only [same, if_true]
        trivial
      · simp only [same, if_false]
        trivial
  refine Alone.run_seq (leases_of_within requires active) (fun _ _ known => known.2)
    fun _ required known => ?_
  refine Alone.run_seq (leases_of_within (p := fun _ => True)
    ⟨trivial, fun _ => trivial⟩ known.2) (fun _ _ known => known.2) fun record loaded known => ?_
  refine Alone.run_seq (leases_of_within (refuseIf_keepsLease _ _) known.2)
    (fun _ _ known => known.2) fun _ checked known => ?_
  have removes {before : World} (active : before.active engine = lease) :
      Leases engine (fun result after => after.active engine = lease ∧
        (result = .ok () → Fresh after.files sessionId))
        (Fallible.mapErr (contextual · .durableIntent (some sessionId) none)
          (Fallible.port (Prog.perform (Call.remove sessionId)))).run before := by
    refine Alone.call_iff.mpr ⟨trivial, fun answer after law => Alone.ret_iff.mpr ⟨?_, ?_⟩⟩
    · rw [law.active_eq trivial, active]
    · intro done
      rcases answer with error | removed
      · cases done
      · rw [show after.files = _ from law.store]
        exact fresh_discard sessionId _
  refine Alone.run_seq (removes known.2) (fun _ _ known => known.1) fun _ removed known => ?_
  refine Alone.call_iff.mpr ⟨trivial, fun answer after law => Alone.ret_iff.mpr ⟨?_, ?_⟩⟩
  · rw [show after.active = _ from law.lease, Function.update_self]
  · rw [show after.files = _ from law.store]
    exact known.2 rfl

theorem recoverOne_leases {record : SessionRecord} {recovery : Recovery}
    (unrestored : record.session.state ≠ .restored) (active : world.active engine = none) :
    Leases engine (fun _ after => after.active engine = none) (recoverOne recovery record)
      world := by
  refine Safe.mono ((leaseTenure engine record.sessionId none).recoverOne_safe rfl unrestored
    active) fun _ after known => ?_
  rcases known.1 with leased | ⟨impossible, -⟩
  · exact leased
  · cases impossible

/-- An engine that recovers successfully has no lease. -/
theorem recoverUnfinished_leases (world : World) :
    Leases engine (fun result after => ∀ statuses, result = .ok statuses →
      after.active engine = none) recoverUnfinished.run world := by
  have folded {records : List SessionRecord} {recovery : Recovery} {world : World}
      (unrestored : ∀ record ∈ records, record.session.state ≠ .restored)
      (active : world.active engine = none) :
      Leases engine (fun _ after => after.active engine = none)
        (records.foldlM recoverOne recovery) world := by
    induction records generalizing recovery world with
    | nil => exact Alone.ret_iff.mpr active
    | cons record rest ih =>
        rw [List.forall_mem_cons] at unrestored
        rw [List.foldlM_cons]
        exact Alone.seq (recoverOne_leases unrestored.1 active) fun _ _ active =>
          ih unrestored.2 active
  have refused {error : SysboostError} {world : World} : ∀ statuses : List TransactionStatus,
      .error error = Except.ok statuses → world.active engine = none :=
    fun _ impossible => nomatch impossible
  have drops {result : Except SysboostError (List TransactionStatus)}
      {next : Unit → Fallible (List TransactionStatus)} {world : World}
      (same : (next ()).run = .ret result) (active : world.active engine = none) :
      Leases engine (fun result after => ∀ statuses, result = .ok statuses →
        after.active engine = none)
        (ExceptT.lift (Prog.perform Call.dropGuard) >>= next).run world := by
    refine Alone.lift_seq (leases_of_within (p := fun _ => True)
      ⟨trivial, fun _ => trivial⟩ active) fun _ after known => ?_
    rw [same]
    exact Alone.ret_iff.mpr fun _ _ => known.2
  refine Alone.lift_seq (m := fun answer after => answer = after.active engine) ?_
    fun answer entered known => ?_
  · refine Alone.call_iff.mpr ⟨trivial, fun answer after law => Alone.ret_iff.mpr ?_⟩
    rw [law.lease.2]
    exact law.lease.1
  rcases answer with _ | leased
  · refine Alone.run_seq (leases_of_within (refuseIf_keepsLease _ _) known.symm)
      (fun _ _ _ => refused) fun _ idle known => ?_
    refine Alone.run_seq (leases_of_within (p := fun _ => True)
      ⟨trivial, fun _ => trivial⟩ known.2) (fun _ _ _ => refused)
      fun _ acquired known => ?_
    refine Alone.lift_seq (m := fun answer after => after.active engine = none ∧
      ∀ records, answer = .ok records → ∀ record ∈ records, record.session.state ≠ .restored)
      ?_ fun answer loaded known => ?_
    · refine Alone.call_iff.mpr ⟨trivial, fun answer after law => Alone.ret_iff.mpr ⟨?_, ?_⟩⟩
      · rw [law.active_eq trivial, known.2]
      · rintro records rfl record member
        obtain ⟨-, perm⟩ := law.store
        simpa [unfinished] using (List.mem_filter.mp (perm.mem_iff.mp member)).2
    rcases answer with error | records
    · exact drops rfl known.1
    have unrestored : ∀ record ∈ sortRecords records, record.session.state ≠ .restored :=
      fun record member => known.2 records rfl record ((List.mem_insertionSort _).mp member)
    rcases sorted : sortRecords records with _ | ⟨first, rest⟩
    · simp only [sorted]
      exact drops rfl known.1
    · simp only [sorted]
      rw [sorted] at unrestored
      refine Alone.lift_seq (folded unrestored known.1) fun recovery after active => ?_
      unfold finishRecovery
      split
      · exact drops rfl active
      · exact Alone.call_iff.mpr ⟨trivial, fun _ _ _ => Alone.ret_iff.mpr refused⟩
  · exact Alone.ret_iff.mpr refused

end Leases

/-! ## The lease along the calls of the helper -/

section Completes

variable {engine : EngineId} {before after : World}

/-- A fact about the program of a request holds of its completion. -/
theorem Completes.post {α : Type} {request : Request} {reply : α → Reply} {program : Engine α}
    {result : α} {post : α → World → Prop} (injective : Function.Injective reply)
    (serves : request.program = do return reply (← program))
    (completes : Completes engine request (reply result) before after)
    (leases : Leases engine post program (before.note (.requested engine request))) :
    ∃ final, post result final ∧ after.active = final.active ∧ after.files = final.files := by
  obtain ⟨final, run, rfl⟩ := completes
  refine ⟨final, ?_, rfl, rfl⟩
  have replied : Leases engine (fun value last => ∀ result, value = reply result →
      post result last) request.program (before.note (.requested engine request)) := by
    rw [serves]
    refine Alone.seq leases fun result last known => Alone.ret_iff.mpr fun other same => ?_
    exact injective same ▸ known
  exact run.post replied result rfl

theorem Completes.prepared {plan : Plan} {result : Except SysboostError SessionId}
    (completes : Completes engine (.prepare plan) (.prepared result) before after) :
    Prepares engine (before.active engine) result after := by
  obtain ⟨final, known, active, -⟩ :=
    Completes.post (fun _ _ same => Reply.prepared.inj same) rfl completes (prepare_leases rfl)
  unfold Prepares at known ⊢
  rw [active, known]
  rfl

theorem Completes.aborted {sessionId : SessionId} {result : Except SysboostError Unit}
    (completes : Completes engine (.abortPrepared sessionId) (.aborted result) before after) :
    Aborts engine (before.active engine) sessionId result after := by
  obtain ⟨final, known, active, files⟩ :=
    Completes.post (fun _ _ same => Reply.aborted.inj same) rfl completes
      (abortPrepared_leases sessionId rfl)
  unfold Aborts at known ⊢
  rw [active, files]
  exact known

theorem Completes.applied {sessionId : SessionId} {result : Except SysboostError SessionState}
    (completes : Completes engine (.apply sessionId) (.state result) before after) :
    after.active engine = before.active engine ∨ after.active engine = none := by
  obtain ⟨final, known, active, -⟩ :=
    Completes.post (fun _ _ same => Reply.state.inj same) rfl completes (apply_leases sessionId rfl)
  rw [active]
  exact known

theorem Completes.restored {sessionId : SessionId} {result : Except SysboostError SessionState}
    (completes : Completes engine (.restore sessionId) (.state result) before after) :
    after.active engine = before.active engine ∨ after.active engine = none := by
  obtain ⟨final, known, active, -⟩ :=
    Completes.post (fun _ _ same => Reply.state.inj same) rfl completes
      (restore_leases sessionId rfl)
  rw [active]
  exact known

theorem Completes.recovered {statuses : List TransactionStatus}
    (completes : Completes engine .recoverUnfinished (.recovered (.ok statuses)) before after) :
    after.active engine = none := by
  obtain ⟨final, known, active, -⟩ :=
    Completes.post (fun _ _ same => Reply.recovered.inj same) rfl completes
      (recoverUnfinished_leases _)
  rw [active]
  exact known statuses rfl

end Completes

/-! ## The shape of a preparation -/

/-- Calls that ask the backend about a plan. -/
def HelperCall.Asks : HelperCall → Prop
  | .ownsBackend _ | .validateAdmission _ _ => True
  | _ => False

theorem steps_of_asks {engine : EngineId} {before after : World}
    {trace : List (Exchange HelperAnswer)} (asks : ∀ exchange ∈ trace, exchange.request.Asks)
    (steps : Steps (HelperLaw engine) before trace after) : after = before := by
  induction steps with
  | nil world => rfl
  | @cons request answer trace world middle final law rest ih =>
      have same : middle = world := by
        have ask := asks ⟨request, answer⟩ (by simp)
        cases request with
        | ownsBackend backend => exact law
        | validateAdmission mutation identity => exact law
        | _ => exact ask.elim
      rw [ih fun exchange member => asks exchange (by simp [member]), same]

/-- The identity check of a loaded record. -/
def checkIdentities (plan : Plan) (loaded : Except SysboostError SessionRecord) :
    Except SysboostError Unit :=
  loaded >>= fun record => record.operations.forM (PrivilegeService.compareIdentity plan)

/-- The calls and the result of a preparation. -/
inductive Preparation (catalog : ApprovedPlanCatalog) (peer : ProcessIdentity) (planId : PlanId)
    (planDigest : Block 32) :
    List (Exchange HelperAnswer) → Except SysboostError SessionHandle → Prop
  | refused {front : List (Exchange HelperAnswer)} {error : SysboostError}
      (asks : ∀ exchange ∈ front, exchange.request.Asks) :
      Preparation catalog peer planId planDigest front (.error error)
  | unprepared {front : List (Exchange HelperAnswer)} {plan : Plan} {error : SysboostError}
      (asks : ∀ exchange ∈ front, exchange.request.Asks) :
      Preparation catalog peer planId planDigest (front ++ [⟨.prepare plan, .error error⟩])
        (.error error)
  | bound {front : List (Exchange HelperAnswer)} {plan : Plan} {sessionId : SessionId}
      {record : SessionRecord} (asks : ∀ exchange ∈ front, exchange.request.Asks)
      (approved : catalog.get planId planDigest = some plan)
      (same : checkIdentities plan (.ok record) = .ok ()) :
      Preparation catalog peer planId planDigest
        (front ++ [⟨.prepare plan, .ok sessionId⟩, ⟨.load sessionId, .ok record⟩])
        (.ok ⟨sessionId, planId, planDigest, peer⟩)
  | aborted {front : List (Exchange HelperAnswer)} {plan : Plan} {sessionId : SessionId}
      {loaded : Except SysboostError SessionRecord} {error : SysboostError}
      (asks : ∀ exchange ∈ front, exchange.request.Asks)
      (fails : checkIdentities plan loaded = .error error) :
      Preparation catalog peer planId planDigest
        (front ++ [⟨.prepare plan, .ok sessionId⟩, ⟨.load sessionId, loaded⟩,
          ⟨.abortPrepared sessionId, .ok ()⟩]) (.error error)
  | stuck {front : List (Exchange HelperAnswer)} {plan : Plan} {sessionId : SessionId}
      {loaded : Except SysboostError SessionRecord} {error failure : SysboostError}
      (asks : ∀ exchange ∈ front, exchange.request.Asks)
      (fails : checkIdentities plan loaded = .error error) :
      Preparation catalog peer planId planDigest
        (front ++ [⟨.prepare plan, .ok sessionId⟩, ⟨.load sessionId, loaded⟩,
          ⟨.abortPrepared sessionId, .error failure⟩]) (.error failure)

namespace PrivilegeService

theorem admitMutation_asks (plan : Plan) (mutation : PlannedMutation) :
    Within HelperCall.Asks (fun _ => True) (admitMutation plan mutation).run := by
  have refuses (condition : Bool) (error : SysboostError) :
      Within HelperCall.Asks (fun _ => True) (Helping.refuseIf condition error).run := by
    cases condition <;> trivial
  unfold admitMutation
  split
  · trivial
  next item found =>
    refine Within.lift_seq (m := fun _ => True) ?_ fun owned _ => ?_
    · unfold backendOwned
      split
      · trivial
      · exact ⟨trivial, fun _ => trivial⟩
    · refine Within.run_seq (refuses _ _) (fun _ _ => trivial) fun _ _ => ?_
      split
      · trivial
      · exact ⟨trivial, fun _ => trivial⟩

theorem validatePlanAdmission_asks (plan : Plan) :
    Within HelperCall.Asks (fun _ => True) (validatePlanAdmission plan).run := by
  refine Within.run_seq (m := fun _ => True) trivial (fun _ _ => trivial) fun _ _ => ?_
  refine Within.run_seq (m := fun _ => True) ?_ (fun _ _ => trivial) fun _ _ => ?_
  · cases plan.mutations.isEmpty <;> trivial
  · exact Within.forM_run (admitMutation_asks plan) plan.mutations

/-- After the check of the identities the handle is bound or the preparation
aborted. -/
theorem bound_or_aborted {service : PrivilegeService} {peer : ProcessIdentity} {planId : PlanId}
    {planDigest : Block 32} {plan : Plan} {sessionId : SessionId}
    {front : List (Exchange HelperAnswer)} {loaded : Except SysboostError SessionRecord}
    (asks : ∀ exchange ∈ front, exchange.request.Asks)
    (approved : service.catalog.get planId planDigest = some plan)
    {outcome : Except SysboostError Unit} (same : checkIdentities plan loaded = outcome) :
    Every (fun trace result => Preparation service.catalog peer planId planDigest
      (front ++ ⟨.prepare plan, .ok sessionId⟩ :: ⟨.load sessionId, loaded⟩ :: trace) result)
      (match outcome with
        | .error error => do
            Helping.port (Prog.perform (HelperCall.abortPrepared sessionId))
            throw error
        | .ok () => (return ⟨sessionId, planId, planDigest, peer⟩ : Helping SessionHandle)).run := by
  rcases outcome with error | done
  · refine Every.call_iff.mpr fun answer => ?_
    rcases answer with failure | done
    · exact Every.ret_iff.mpr (.stuck asks same)
    · exact Every.ret_iff.mpr (.aborted asks same)
  · rcases loaded with error | record
    · cases same
    · exact Every.ret_iff.mpr (.bound asks approved same)

theorem prepareHandle_traces (service : PrivilegeService) (peer : ProcessIdentity)
    (planId : PlanId) (planDigest : Block 32) :
    Every (Preparation service.catalog peer planId planDigest)
      (service.prepareHandle peer planId planDigest).run := by
  unfold prepareHandle
  split
  · exact Every.ret_iff.mpr (.refused (by simp))
  next plan approved =>
    refine Every.run_seq (validatePlanAdmission_asks plan).every
      (fun front error known => .refused known.1) fun front _ known => ?_
    refine Every.call_iff.mpr fun answer => ?_
    rcases answer with error | sessionId
    · exact Every.ret_iff.mpr (.unprepared known.1)
    refine Every.call_iff.mpr fun loaded => ?_
    rcases loaded with error | record
    · exact bound_or_aborted known.1 approved rfl
    · exact bound_or_aborted known.1 approved rfl

end PrivilegeService

/-- Whose lease a preparation leaves behind. -/
theorem Preparation.leased {engine : EngineId} {catalog : ApprovedPlanCatalog}
    {peer : ProcessIdentity} {planId : PlanId} {planDigest : Block 32}
    {trace : List (Exchange HelperAnswer)} {result : Except SysboostError SessionHandle}
    {before after : World} (preparation : Preparation catalog peer planId planDigest trace result)
    (steps : Steps (HelperLaw engine) before trace after) {sessionId : SessionId}
    (active : after.active engine = some sessionId) :
    before.active engine = some sessionId ∨
      (∃ handle, result = .ok handle ∧ handle.sessionId = sessionId ∧ handle.owner = peer) ∨
        ∃ error, ⟨.abortPrepared sessionId, .error error⟩ ∈ trace := by
  cases preparation with
  | refused asks =>
      rw [steps_of_asks asks steps] at active
      exact .inl active
  | unprepared asks =>
      obtain ⟨middle, front, last⟩ := Steps.append_iff.mp steps
      have prepared := Completes.prepared (Steps.singleton_iff.mp last)
      rw [steps_of_asks asks front] at prepared
      exact .inl (prepared.symm.trans active)
  | @bound _ _ bound _ asks approved same =>
      obtain ⟨middle, front, last⟩ := Steps.append_iff.mp steps
      rcases last with _ | ⟨first, _ | ⟨second, _ | _⟩⟩
      have prepared := Completes.prepared first
      rw [second.1, show _ = some bound from prepared, Option.some.injEq] at active
      exact .inr (.inl ⟨_, rfl, active, rfl⟩)
  | aborted asks fails =>
      obtain ⟨middle, front, last⟩ := Steps.append_iff.mp steps
      rcases last with _ | ⟨first, _ | ⟨second, _ | ⟨third, _ | _⟩⟩⟩
      have aborted := Completes.aborted third
      rw [aborted.1] at active
      cases active
  | @stuck _ _ bound _ _ failure asks fails =>
      obtain ⟨middle, front, last⟩ := Steps.append_iff.mp steps
      rcases last with _ | ⟨first, _ | ⟨second, _ | ⟨third, _ | _⟩⟩⟩
      have prepared := Completes.prepared first
      have aborted := Completes.aborted third
      rw [show _ = _ from aborted, second.1, show _ = some bound from prepared,
        Option.some.injEq] at active
      exact .inr (.inr ⟨failure, by simp [active]⟩)

/-- A session whose durable snapshots have the approved identities. -/
structure Approved (plan : Plan) (sessionId : SessionId) (files : List SessionRecord) : Prop where
  stored : ∃ record ∈ files, record.sessionId = sessionId
  identities : ∀ record ∈ files, record.sessionId = sessionId → ∀ operation ∈ record.operations,
    ∃ snapshot, operation.snapshot = some snapshot ∧
      PrivilegeService.approvedIdentity plan operation.mutation.mutationId =
        some snapshot.targetIdentity

theorem identity_of_compare {plan : Plan} {operation : OperationRecord}
    (ok : PrivilegeService.compareIdentity plan operation = .ok ()) :
    ∃ snapshot, operation.snapshot = some snapshot ∧
      PrivilegeService.approvedIdentity plan operation.mutation.mutationId =
        some snapshot.targetIdentity := by
  unfold PrivilegeService.compareIdentity at ok
  split at ok
  · cases ok
  next snapshot has =>
    by_cases same : PrivilegeService.approvedIdentity plan operation.mutation.mutationId =
        some snapshot.targetIdentity
    · exact ⟨snapshot, has, same⟩
    · simp [same] at ok

theorem Preparation.owner {catalog : ApprovedPlanCatalog} {peer : ProcessIdentity}
    {planId : PlanId} {planDigest : Block 32} {trace : List (Exchange HelperAnswer)}
    {handle : SessionHandle}
    (preparation : Preparation catalog peer planId planDigest trace (.ok handle)) :
    handle.owner = peer := by
  cases preparation with
  | bound asks approved same => rfl

theorem Preparation.approved {engine : EngineId} {catalog : ApprovedPlanCatalog}
    {peer : ProcessIdentity} {planId : PlanId} {planDigest : Block 32}
    {trace : List (Exchange HelperAnswer)} {handle : SessionHandle} {before after : World}
    (preparation : Preparation catalog peer planId planDigest trace (.ok handle))
    (steps : Steps (HelperLaw engine) before trace after) (reachable : Reachable ⟨before, none⟩) :
    ∃ plan, catalog.get planId planDigest = some plan ∧
      Approved plan handle.sessionId after.files := by
  have oneEach : OneEach after.files :=
    (Reachable.coherent (reachable_of_steps steps reachable)).oneEach
  cases preparation with
  | @bound _ plan bound record asks approved same =>
      obtain ⟨middle, front, last⟩ := Steps.append_iff.mp steps
      rcases last with _ | ⟨first, _ | ⟨second, _ | _⟩⟩
      obtain ⟨rfl, loaded⟩ := second
      obtain ⟨member, own⟩ := loaded record rfl
      refine ⟨plan, approved, ⟨record, member, own⟩, fun other present same' operation has => ?_⟩
      have only : other = record := oneEach.eq present member (same'.trans own.symm)
      subst only
      exact identity_of_compare (forM_eq_ok_iff.mp same operation has)

/-- A preparation whose identity check fails is aborted; where the abort
succeeds nothing of the session remains. -/
theorem Preparation.gone {engine : EngineId} {catalog : ApprovedPlanCatalog}
    {peer : ProcessIdentity} {planId : PlanId} {planDigest : Block 32}
    {trace : List (Exchange HelperAnswer)} {result : Except SysboostError SessionHandle}
    {before after : World} (preparation : Preparation catalog peer planId planDigest trace result)
    (steps : Steps (HelperLaw engine) before trace after) {plan : Plan} {sessionId : SessionId}
    {loaded : Except SysboostError SessionRecord} {error : SysboostError}
    (prepared : ⟨.prepare plan, .ok sessionId⟩ ∈ trace) (read : ⟨.load sessionId, loaded⟩ ∈ trace)
    (fails : checkIdentities plan loaded = .error error) :
    ∃ answer, ⟨.abortPrepared sessionId, answer⟩ ∈ trace ∧ (answer = .ok () →
      result = .error error ∧ Fresh after.files sessionId ∧ after.active engine = none) := by
  have other {call : HelperCall} {answer : HelperAnswer call} (asked : ¬ call.Asks)
      {front : List (Exchange HelperAnswer)} (asks : ∀ exchange ∈ front, exchange.request.Asks) :
      ⟨call, answer⟩ ∉ front := fun member => asked (asks _ member)
  cases preparation with
  | refused asks => exact absurd prepared (other id asks)
  | unprepared asks =>
      rcases List.mem_append.mp prepared with member | member
      · exact absurd member (other id asks)
      · simp at member
  | @bound front plan' bound record asks approved same =>
      rcases List.mem_append.mp prepared with member | member
      · exact absurd member (other id asks)
      rcases List.mem_append.mp read with member' | member'
      · exact absurd member' (other id asks)
      simp only [List.mem_cons, List.not_mem_nil, or_false] at member member'
      rcases member with ⟨⟨⟩⟩ | ⟨⟨⟩⟩
      rcases member' with ⟨⟨⟩⟩ | ⟨⟨⟩⟩
      rw [same] at fails
      cases fails
  | @aborted front plan' bound loaded' error' asks fails' =>
      rcases List.mem_append.mp prepared with member | member
      · exact absurd member (other id asks)
      rcases List.mem_append.mp read with member' | member'
      · exact absurd member' (other id asks)
      simp only [List.mem_cons, List.not_mem_nil, or_false] at member member'
      rcases member with ⟨⟨⟩⟩ | ⟨⟨⟩⟩ | ⟨⟨⟩⟩
      rcases member' with ⟨⟨⟩⟩ | ⟨⟨⟩⟩ | ⟨⟨⟩⟩
      obtain ⟨middle, -, last⟩ := Steps.append_iff.mp steps
      rcases last with _ | ⟨first, _ | ⟨second, _ | ⟨third, _ | _⟩⟩⟩
      obtain ⟨active, fresh⟩ := Completes.aborted third
      have same : error' = error := Except.error.inj (fails'.symm.trans fails)
      exact ⟨.ok (), by simp, fun _ => ⟨by rw [same], fresh, active⟩⟩
  | @stuck front plan' bound loaded' error' failure asks fails' =>
      rcases List.mem_append.mp prepared with member | member
      · exact absurd member (other id asks)
      simp only [List.mem_cons, List.not_mem_nil, or_false] at member
      rcases member with ⟨⟨⟩⟩ | ⟨⟨⟩⟩ | ⟨⟨⟩⟩
      exact ⟨.error failure, by simp, fun impossible => nomatch impossible⟩

/-! ## Histories -/

/-- Calls of the helper for a session it knows. -/
def HelperCall.Acts : HelperCall → Prop
  | .apply _ | .restore _ | .status _ => True
  | _ => False

/-- Acting on a session keeps the lease or gives it up. -/
theorem steps_of_acts {engine : EngineId} {before after : World}
    {trace : List (Exchange HelperAnswer)} (acts : ∀ exchange ∈ trace, exchange.request.Acts)
    (steps : Steps (HelperLaw engine) before trace after) :
    after.active engine = before.active engine ∨ after.active engine = none := by
  induction steps with
  | nil world => exact .inl rfl
  | @cons request answer trace world middle final law rest ih =>
      have kept : middle.active engine = world.active engine ∨ middle.active engine = none := by
        have act := acts ⟨request, answer⟩ (by simp)
        cases request with
        | apply sessionId => exact Completes.applied law
        | restore sessionId => exact Completes.restored law
        | status sessionId => exact .inl (by rw [law.1])
        | _ => exact act.elim
      rcases ih fun exchange member => acts exchange (by simp [member]) with same | ended
      · rcases kept with same' | ended
        · exact .inl (same.trans same')
        · exact .inr (same.trans ended)
      · exact .inr ended

/-- How an input is served: by acting on a session, or by a preparation for an
authenticated peer. -/
inductive Serving (service : PrivilegeService) :
    List (Exchange HelperAnswer) → PrivilegeService → Prop
  | acts {trace : List (Exchange HelperAnswer)} {left : PrivilegeService}
      (calls : ∀ exchange ∈ trace, exchange.request.Acts)
      (expected : left.expectedPeer = service.expectedPeer)
      (sessions : left.sessions = service.sessions) : Serving service trace left
  | prepares {trace : List (Exchange HelperAnswer)} {left : PrivilegeService}
      {catalog : ApprovedPlanCatalog} {peer : ProcessIdentity} {planId : PlanId}
      {planDigest : Block 32} {result : Except SysboostError SessionHandle}
      (authenticated : peer.sameGeneration service.expectedPeer = true)
      (preparation : Preparation catalog peer planId planDigest trace result)
      (expected : left.expectedPeer = service.expectedPeer)
      (failed : ∀ error, result = .error error → left.sessions = service.sessions)
      (bound : ∀ handle, result = .ok handle → left.sessions =
        Function.update service.sessions handle.sessionId (some handle)) :
      Serving service trace left

/-- Serving reads the expected peer and the sessions of the service only. -/
theorem Serving.of_same {service other : PrivilegeService} {trace : List (Exchange HelperAnswer)}
    {left : PrivilegeService} (serving : Serving other trace left)
    (expected : other.expectedPeer = service.expectedPeer)
    (sessions : other.sessions = service.sessions) : Serving service trace left := by
  cases serving with
  | acts calls samePeer sameSessions =>
      exact .acts calls (samePeer.trans expected) (sameSessions.trans sessions)
  | prepares authenticated preparation samePeer failed bound =>
      exact .prepares (expected ▸ authenticated) preparation (samePeer.trans expected)
        (fun error same => (failed error same).trans sessions)
        (fun handle same => (bound handle same).trans (by rw [sessions]))

namespace PrivilegeService

variable {service : PrivilegeService} {peer : ProcessIdentity}

theorem prepareByIdentity_serving (authenticated : peer.sameGeneration service.expectedPeer = true)
    (planId : PlanId) (planDigest : Block 32) :
    Every (fun trace result => Serving service trace result.2)
      (service.prepareByIdentity peer planId planDigest) := by
  refine Every.seq (service.prepareHandle_traces peer planId planDigest) fun trace result shape => ?_
  rcases result with error | handle
  · refine Every.ret_iff.mpr (.prepares authenticated (by simpa using shape) rfl ?_ ?_)
    · exact fun _ _ => rfl
    · exact fun _ impossible => nomatch impossible
  · refine Every.ret_iff.mpr (.prepares authenticated (by simpa using shape) rfl ?_ ?_)
    · exact fun _ impossible => nomatch impossible
    · rintro _ ⟨⟩
      rfl

theorem serveSession_acts {act : SessionId → Helping SessionState}
    (acts : ∀ sessionId, Within HelperCall.Acts (fun _ => True) (act sessionId).run)
    (requestId : Protocol.RequestId) (sessionId : SessionId) :
    Within HelperCall.Acts (fun _ => True)
      (service.serveSession peer requestId sessionId act).run := by
  refine Within.run_seq (m := fun _ => True) trivial (fun _ _ => trivial) fun handle _ => ?_
  exact Within.run_seq (acts _) (fun _ _ => trivial) fun _ _ => trivial

theorem actForPeer_acts {act : SessionId → Helping SessionState}
    (acts : ∀ sessionId, Within HelperCall.Acts (fun _ => True) (act sessionId).run)
    (handle : SessionHandle) :
    Within HelperCall.Acts (fun _ => True) (service.actForPeer peer handle act).run := by
  refine Within.run_seq (m := fun _ => True) trivial (fun _ _ => trivial) fun _ _ => ?_
  exact Within.run_seq (m := fun _ => True) trivial (fun _ _ => trivial) fun _ _ => acts _

theorem engineApply_acts (sessionId : SessionId) :
    Within HelperCall.Acts (fun _ => True) (engineApply sessionId).run :=
  ⟨trivial, fun _ => trivial⟩

theorem engineRestore_acts (sessionId : SessionId) :
    Within HelperCall.Acts (fun _ => True) (engineRestore sessionId).run :=
  ⟨trivial, fun _ => trivial⟩

theorem engineStatus_acts (sessionId : SessionId) :
    Within HelperCall.Acts (fun _ => True) (engineStatus sessionId).run :=
  Within.run_seq (m := fun _ => True) ⟨trivial, fun _ => trivial⟩ (fun _ _ => trivial)
    fun _ _ => trivial

theorem dispatch_serving (authenticated : peer.sameGeneration service.expectedPeer = true)
    (request : Protocol.Request) :
    Every (fun trace result => Serving service trace result.2) (service.dispatch peer request) := by
  have acting {act : SessionId → Helping SessionState}
      (acts : ∀ sessionId, Within HelperCall.Acts (fun _ => True) (act sessionId).run)
      (requestId : Protocol.RequestId) (sessionId : SessionId) :
      Every (fun trace result => Serving service trace result.2)
        ((service.serveSession peer requestId sessionId act).run.bind fun result =>
          .ret (result, service)) :=
    Every.seq (serveSession_acts acts requestId sessionId).every fun trace result known =>
      Every.ret_iff.mpr (.acts (by simpa using known.1) rfl rfl)
  cases request with
  | prepare requestId planId planDigest =>
      refine Every.seq (prepareByIdentity_serving authenticated planId planDigest) ?_
      rintro trace ⟨result, left⟩ serving
      exact Every.ret_iff.mpr (by simpa using serving)
  | apply requestId sessionId => exact acting engineApply_acts requestId sessionId
  | restore requestId sessionId => exact acting engineRestore_acts requestId sessionId
  | status requestId sessionId => exact acting engineStatus_acts requestId sessionId

theorem strong_of_authenticatePeer (ok : service.authenticatePeer peer = .ok ()) :
    peer.sameGeneration service.expectedPeer = true := by
  by_contra weak
  simp [authenticatePeer, weak] at ok

theorem handleFrame_serving (peer : Option ProcessIdentity) (frame : Bytes) :
    Every (fun trace result => Serving service trace result.2) (service.handleFrame peer frame) := by
  rcases admitted : service.admitFrame peer frame with error | ⟨identity, request, accepted⟩
  · simp only [handleFrame, admitted]
    exact Every.ret_iff.mpr (.acts (by simp) rfl rfl)
  · obtain ⟨-, -, authenticated, -, same⟩ := admitFrame_eq_ok admitted
    subst same
    simp only [handleFrame, admitted]
    refine Every.seq (dispatch_serving (by exact authenticated) request) ?_
    rintro trace ⟨result, left⟩ serving
    have same : Serving service trace left := serving.of_same rfl rfl
    exact Every.ret_iff.mpr (by simpa using same)

theorem serve_serving (input : Input) :
    Every (fun trace result => Serving service trace result.2) (service.serve input) := by
  have unserved {left : PrivilegeService} (expected : left.expectedPeer = service.expectedPeer)
      (sessions : left.sessions = service.sessions) : Serving service [] left :=
    .acts (by simp) expected sessions
  have acting {act : SessionId → Helping SessionState}
      (acts : ∀ sessionId, Within HelperCall.Acts (fun _ => True) (act sessionId).run)
      (peer : ProcessIdentity) (handle : SessionHandle) :
      Every (fun trace result => Serving service trace result.2)
        ((service.actForPeer peer handle act).run.bind fun result =>
          .ret (Output.state result, service)) :=
    Every.seq (actForPeer_acts acts handle).every fun trace result known =>
      Every.ret_iff.mpr (.acts (by simpa using known.1) rfl rfl)
  cases input with
  | frame peer bytes =>
      refine Every.seq (handleFrame_serving peer bytes) fun trace result serving => ?_
      exact Every.ret_iff.mpr (by simpa using serving)
  | registerPlan plan =>
      rcases registers : service.registerPlan plan with error | registered
      · simp only [serve, registers]
        exact Every.ret_iff.mpr (unserved rfl rfl)
      · simp only [serve, registers]
        obtain ⟨catalog, -, same⟩ := bind_eq_ok_iff.mp registers
        cases same
        exact Every.ret_iff.mpr (unserved rfl rfl)
  | prepareForPeer peer plan =>
      have prepares : Every (fun trace result => Serving service trace result.2)
          (service.prepareForPeer peer plan) := by
        unfold prepareForPeer
        split
        · exact Every.ret_iff.mpr (unserved rfl rfl)
        next authenticated =>
          split
          · exact Every.ret_iff.mpr (unserved rfl rfl)
          next registered registers =>
            obtain ⟨catalog, -, same⟩ := bind_eq_ok_iff.mp registers
            cases same
            have strong := strong_of_authenticatePeer authenticated
            exact (prepareByIdentity_serving (by exact strong) plan.id plan.planDigest).mono
              fun trace result serving => serving.of_same rfl rfl
      refine Every.seq prepares fun trace result serving => ?_
      exact Every.ret_iff.mpr (by simpa using serving)
  | applyForPeer peer handle => exact acting engineApply_acts peer handle
  | restoreForPeer peer handle => exact acting engineRestore_acts peer handle
  | statusForPeer peer handle => exact acting engineStatus_acts peer handle

end PrivilegeService

/-- The lease of the engine belongs to a session the service knows, unless an
abort of that session has failed. -/
def Bound (engine : EngineId) (expectedPeer : ProcessIdentity) (handled : List Handled)
    (service : PrivilegeService) (world : World) : Prop :=
  ∀ sessionId, world.active engine = some sessionId →
    (∃ handle, service.sessions sessionId = some handle ∧
      handle.owner.sameGeneration expectedPeer = true) ∨
      ∃ step ∈ handled, ∃ error, ⟨.abortPrepared sessionId, .error error⟩ ∈ step.trace

theorem Serving.bound {engine : EngineId} {expectedPeer : ProcessIdentity} {older : List Handled}
    {step : Handled} (serving : Serving step.before step.trace step.after)
    (expected : step.before.expectedPeer = expectedPeer)
    (steps : Steps (HelperLaw engine) step.world step.trace step.final)
    (before : Bound engine expectedPeer older step.before step.world) :
    Bound engine expectedPeer (step :: older) step.after step.final := by
  intro sessionId active
  have kept (same : step.after.sessions sessionId = step.before.sessions sessionId)
      (held : step.world.active engine = some sessionId) :
      (∃ handle, step.after.sessions sessionId = some handle ∧
        handle.owner.sameGeneration expectedPeer = true) ∨
        ∃ earlier ∈ step :: older, ∃ error,
          ⟨.abortPrepared sessionId, .error error⟩ ∈ earlier.trace := by
    rw [same]
    refine (before sessionId held).imp_right ?_
    rintro ⟨earlier, member, failed⟩
    exact ⟨earlier, List.mem_cons_of_mem _ member, failed⟩
  generalize traced : step.trace = trace at serving steps
  generalize step.after = left at serving kept ⊢
  cases serving with
  | acts calls samePeer sameSessions =>
      rcases steps_of_acts calls steps with same | ended
      · exact kept (by rw [sameSessions]) (same ▸ active)
      · rw [active] at ended
        cases ended
  | @prepares _ peer _ _ result authenticated preparation samePeer failed bound =>
      rcases preparation.leased steps active with held | ⟨handle, rfl, own, owner⟩ | ⟨error, abort⟩
      · rcases result with error | handle
        · exact kept (by rw [failed error rfl]) held
        rcases Decidable.em (sessionId = handle.sessionId) with same | differs
        · refine .inl ⟨handle, by rw [bound handle rfl, same, Function.update_self], ?_⟩
          rw [preparation.owner, ← expected]
          exact authenticated
        · exact kept (by rw [bound handle rfl, Function.update_of_ne differs]) held
      · refine .inl ⟨handle, by rw [bound handle rfl, own, Function.update_self], ?_⟩
        rw [owner, ← expected]
        exact authenticated
      · exact .inr ⟨step, List.mem_cons_self, error, traced ▸ abort⟩

theorem Opened.idle {engine : EngineId} {expectedPeer : ProcessIdentity}
    {service : PrivilegeService} {world : World}
    (opened : Opened engine expectedPeer service world) : world.active engine = none := by
  obtain ⟨earlier, trace, -, traces, steps⟩ := opened
  have recovers : Every (fun trace result => ∀ service, result = .ok service →
      ∃ statuses, trace = [⟨.recoverUnfinished, .ok statuses⟩])
      (PrivilegeService.new expectedPeer).run := by
    unfold PrivilegeService.new Helping.refuseIf
    split
    · exact Every.ret_iff.mpr fun _ impossible => nomatch impossible
    · refine Every.call_iff.mpr fun answer => ?_
      rcases answer with error | statuses
      · exact Every.ret_iff.mpr fun _ impossible => nomatch impossible
      · exact Every.ret_iff.mpr fun _ _ => ⟨statuses, rfl⟩
  obtain ⟨statuses, rfl⟩ := recovers _ _ traces service rfl
  exact Completes.recovered (Steps.singleton_iff.mp steps)

theorem History.bound {engine : EngineId} {expectedPeer : ProcessIdentity}
    {service left : PrivilegeService} {world final : World} {handled : List Handled}
    (history : History engine service world handled left final)
    (opened : Opened engine expectedPeer service world) :
    Bound engine expectedPeer handled left final := by
  induction history with
  | start =>
      intro sessionId active
      rw [opened.idle] at active
      cases active
  | @serve older before after middle final input trace output history traces steps ih =>
      have serving : Serving before trace after :=
        PrivilegeService.serve_serving input _ _ traces
      have expected := (history.remembers opened).expected
      have served : Bound engine expectedPeer older
          (Handled.mk input before middle trace output after final).before middle := ih
      exact Serving.bound serving expected steps served

theorem PrivilegeService.prepareByIdentity_traces (service : PrivilegeService)
    (peer : ProcessIdentity) (planId : PlanId) (planDigest : Block 32) :
    Every (fun trace result => Preparation service.catalog peer planId planDigest trace result.1)
      (service.prepareByIdentity peer planId planDigest) := by
  refine Every.seq (service.prepareHandle_traces peer planId planDigest) fun trace result shape => ?_
  rcases result with error | handle
  · exact Every.ret_iff.mpr (by simpa using shape)
  · exact Every.ret_iff.mpr (by simpa using shape)

/-- In every history of the helper the lease of its engine belongs to a session
it knows the owner of, unless an abort of that session has failed; a handle is
returned for approved identities only; and a preparation whose identity check
fails is aborted, after which nothing of its session remains if the abort did
not fail. -/
theorem sessions_bound_or_gone {engine : EngineId} {expectedPeer : ProcessIdentity}
    {service left : PrivilegeService} {world final : World} {handled : List Handled}
    (opened : Opened engine expectedPeer service world)
    (history : History engine service world handled left final) :
    Bound engine expectedPeer handled left final ∧
      ∀ peer planId planDigest trace result left' final',
        Traces (left.prepareByIdentity peer planId planDigest) trace (result, left') →
        Steps (HelperLaw engine) final trace final' →
          (∀ handle, result = .ok handle → ∃ plan, left.catalog.get planId planDigest = some plan ∧
            Approved plan handle.sessionId final'.files) ∧
          ∀ plan sessionId loaded error, ⟨.prepare plan, .ok sessionId⟩ ∈ trace →
            ⟨.load sessionId, loaded⟩ ∈ trace → checkIdentities plan loaded = .error error →
              ∃ answer, ⟨.abortPrepared sessionId, answer⟩ ∈ trace ∧ (answer = .ok () →
                result = .error error ∧ Fresh final'.files sessionId ∧
                  final'.active engine = none) := by
  refine ⟨history.bound opened, fun peer planId planDigest trace result left' final' traces steps => ?_⟩
  have shape : Preparation left.catalog peer planId planDigest trace result :=
    left.prepareByIdentity_traces peer planId planDigest _ _ traces
  constructor
  · rintro handle rfl
    exact shape.approved steps (history.reachable opened.reachable)
  · intro plan sessionId loaded error prepared read fails
    exact shape.gone steps prepared read fails

/-- The expected peer prepares the registered plan. -/
def boundOutcome : (Except SysboostError SessionHandle × PrivilegeService) × World :=
  (registeredStep.after.prepareByIdentity helperPeer (fixturePlan governorMutation).id
    (fixturePlan governorMutation).planDigest).exec (help (steadyKit.respond 0) 0)
      registeredStep.final

theorem sessions_bound_or_gone_prepare :
    Bound 0 helperPeer [registeredStep] registeredStep.after registeredStep.final ∧
      boundOutcome.1.1.isOk = true ∧ ∀ handle, boundOutcome.1.1 = .ok handle →
        ∃ plan, registeredStep.after.catalog.get (fixturePlan governorMutation).id
          (fixturePlan governorMutation).planDigest = some plan ∧
            Approved plan handle.sessionId boundOutcome.2.files := by
  have history : History 0 freshService openedWorld [registeredStep] registeredStep.after
      registeredStep.final := History.handle (fun _ => steadyKit.law) .start _
  obtain ⟨bound, prepares⟩ := sessions_bound_or_gone freshService_opened history
  refine ⟨bound, by decide +kernel, ?_⟩
  have traces := Prog.traces_trace (help (steadyKit.respond 0) 0)
    (registeredStep.after.prepareByIdentity helperPeer (fixturePlan governorMutation).id
      (fixturePlan governorMutation).planDigest) registeredStep.final
  have steps := Prog.steps_trace (help (steadyKit.respond 0) 0) (help_law fun _ => steadyKit.law)
    (registeredStep.after.prepareByIdentity helperPeer (fixturePlan governorMutation).id
      (fixturePlan governorMutation).planDigest) registeredStep.final
  unfold boundOutcome
  generalize Prog.exec _ _ _ = outcome at traces steps ⊢
  obtain ⟨⟨result, left⟩, final⟩ := outcome
  exact (prepares _ _ _ _ _ _ _ traces steps).1

/-! ### A store that cannot remove -/

/-- The ports of the test kit with a store that cannot remove. -/
def unremovable (world : World) : (call : Call) → Answer call × World
  | .remove sessionId =>
      (.error (.new .durabilityError "state removal failed"),
        { world with log := .port 0 ⟨.remove sessionId,
            .error (.new .durabilityError "state removal failed"), false⟩ :: world.log })
  | call => steadyKit.respond 0 world call

theorem unremovable_law (world : World) (call : Call) :
    Law 0 world call (unremovable world call).1 (unremovable world call).2 := by
  cases call with
  | remove sessionId => exact ⟨.inl rfl, rfl, ⟨false, trivial, rfl⟩⟩
  | _ => exact steadyKit.law _

/-- A plan whose item is approved for another object than its target reads as. -/
def misidentifiedPlan : Plan :=
  { fixturePlan governorMutation with
    items := (fixturePlan governorMutation).items.map fun item =>
      { item with targetIdentity := some ⟨.fill 16 0xee⟩ } }

def misidentifiedStep : Handled :=
  handle unremovable 0 freshService openedWorld (.registerPlan misidentifiedPlan)

/-- The expected peer asks for the plan. -/
def orphanedStep : Handled :=
  handle unremovable 0 misidentifiedStep.after misidentifiedStep.final
    (.frame (some helperPeer) (prepareFrame misidentifiedPlan))

theorem sessions_bound_or_gone_unremoved :
    Opened 0 helperPeer freshService openedWorld ∧
      History 0 freshService openedWorld [orphanedStep, misidentifiedStep] orphanedStep.after
        orphanedStep.final ∧
      orphanedStep.final.active 0 = some steadyKit.sessionId ∧
      orphanedStep.after.sessions steadyKit.sessionId = none ∧
      ¬ Fresh orphanedStep.final.files steadyKit.sessionId ∧
      orphanedStep.final.files.all (fun record =>
        (checkIdentities misidentifiedPlan (.ok record)).toBool) = false := by
  have history : History 0 freshService openedWorld [orphanedStep, misidentifiedStep]
      orphanedStep.after orphanedStep.final :=
    History.handle unremovable_law (History.handle unremovable_law .start _) _
  refine ⟨freshService_opened, history, by decide +kernel, by decide +kernel, ?_, by decide +kernel⟩
  rw [← Testkit.fresh_of_stored, Bool.not_eq_false]
  decide +kernel

end Sysboost.Platform
