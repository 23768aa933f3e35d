import Sysboost.Platform.RestoreTrace

/-!
# The calls of an apply

An apply that fails after the backend has applied something restores what was
applied, in reverse order, through one rollback.  Two early returns miss it: a
receipt of another mutation, and a clock that fails once everything is verified.
-/

namespace Sysboost.Platform

open Sysboost.Core Interaction

/-- What `backend.apply` has returned for a mutation. -/
abbrev Holding := PlannedMutation × Snapshot × ApplyReceipt

/-- A `backend.apply` that returned `Ok`. -/
def applied : Exchange Answer → Option Holding
  | ⟨.apply _ mutation snapshot, .ok receipt⟩ => some (mutation, snapshot, receipt)
  | _ => none

/-- What a restorable operation holds. -/
def holding (operation : OperationRecord) : Option Holding :=
  match operation.snapshot, operation.applyReceipt with
  | some snapshot, some receipt =>
      if operation.state.canTransition .restoring then some (operation.mutation, snapshot, receipt)
      else none
  | _, _ => none

/-- A readback of the owned value is followed by the restore. -/
def Follows (holdings : List Holding) (trace : Trace) : Prop :=
  ∀ mutation snapshot receipt, (mutation, snapshot, receipt) ∈ holdings →
    receipt.ownershipFingerprint ≠ snapshot.originalFingerprint →
    ∀ (earlier later : Trace) (sessionId : SessionId),
      trace = earlier ++ ⟨.verify sessionId .restore mutation snapshot.originalFingerprint
        snapshot.targetIdentity, .ok receipt.ownershipFingerprint⟩ :: later →
      ∃ (result : Except SysboostError RestoreReceipt) (rest : Trace),
        later = ⟨.restore sessionId mutation snapshot receipt.ownershipFingerprint, result⟩ :: rest

/-- Restoration of everything that was applied has been started, in reverse order. -/
structure RolledBack (trace : Trace) : Prop where
  reversed : trace.filterMap readback = ((trace.filterMap applied).map Prod.fst).reverse
  restored : Follows (trace.filterMap applied) trace

/-- Every receipt names the mutation it was asked for. -/
def Identified (trace : Trace) : Prop :=
  ∀ mutation snapshot receipt, (mutation, snapshot, receipt) ∈ trace.filterMap applied →
    receipt.mutationId = mutation.mutationId

/-- The last call is no failed clock read. -/
def Timed (trace : Trace) : Prop :=
  ∀ (before : Trace) (error : SysboostError), trace ≠ before ++ [⟨.now, .error error⟩]

/-- When a trace with an apply is rolled back. -/
def Verdict (trace : Trace) : Prop :=
  trace.filterMap applied ≠ [] → (RolledBack trace ↔ Identified trace ∧ Timed trace)

/-! ## What the trace of a restore adds -/

theorem holding_eq_some {operation : OperationRecord} {mutation : PlannedMutation}
    {snapshot : Snapshot} {receipt : ApplyReceipt} :
    holding operation = some (mutation, snapshot, receipt) ↔
      Restorable operation = true ∧ operation.mutation = mutation ∧
        operation.snapshot = some snapshot ∧ operation.applyReceipt = some receipt := by
  unfold holding Restorable
  cases has : operation.snapshot <;> cases received : operation.applyReceipt <;> simp

theorem map_restorable (operations : List OperationRecord) :
    (operations.filter Restorable).map OperationRecord.mutation =
      (operations.filterMap holding).map Prod.fst := by
  induction operations with
  | nil => rfl
  | cons operation rest ih =>
      cases held : holding operation with
      | none =>
          have skip : Restorable operation = false := by
            by_contra restorable
            rw [Bool.not_eq_false] at restorable
            obtain ⟨⟨received, has⟩, -⟩ : (operation.applyReceipt.isSome = true ∧
                operation.snapshot.isSome = true) ∧ _ := by
              simpa only [Restorable, Bool.and_eq_true] using restorable
            obtain ⟨receipt, received⟩ := Option.isSome_iff_exists.mp received
            obtain ⟨snapshot, has⟩ := Option.isSome_iff_exists.mp has
            rw [holding_eq_some.mpr ⟨restorable, rfl, has, received⟩] at held
            cases held
          rw [List.filter_cons_of_neg (by simp [skip]), List.filterMap_cons_none held, ih]
      | some found =>
          obtain ⟨mutation, snapshot, receipt⟩ := found
          obtain ⟨restorable, rfl, -⟩ := holding_eq_some.mp held
          rw [List.filter_cons_of_pos restorable, List.filterMap_cons_some held, List.map_cons,
            List.map_cons, ih]

theorem Follows.append {holdings : List Holding} {first second : Trace}
    (follows : Follows holdings first) (follows' : Follows holdings second) :
    Follows holdings (first ++ second) := by
  intro mutation snapshot receipt member changed earlier later sessionId split
  rcases List.append_eq_append_iff.mp split with ⟨middle, here, there⟩ | ⟨middle, here, there⟩
  · exact follows' mutation snapshot receipt member changed middle later sessionId there
  · rcases middle with _ | ⟨exchange, middle⟩
    · exact follows' mutation snapshot receipt member changed [] later sessionId there.symm
    · rw [List.cons_append, List.cons.injEq] at there
      rw [← there.1] at here
      obtain ⟨result, rest, same⟩ :=
        follows mutation snapshot receipt member changed earlier middle sessionId here
      exact ⟨result, rest ++ second, by rw [there.2, same, List.cons_append]⟩

theorem follows_of_unread {holdings : List Holding} {trace : Trace}
    (unread : trace.filterMap readback = []) : Follows holdings trace := by
  rintro mutation snapshot receipt - - earlier later sessionId rfl
  simp [readback] at unread

theorem Visit.follows {sessionId : SessionId} {operation : OperationRecord} {trace : Trace}
    {holdings : List Holding} (visit : Visit sessionId operation trace)
    (unique : ∀ held ∈ holdings, held.1 = operation.mutation → holding operation = some held) :
    Follows holdings trace := by
  intro mutation snapshot receipt member changed earlier later session split
  have read : (⟨.verify session .restore mutation snapshot.originalFingerprint
      snapshot.targetIdentity, .ok receipt.ownershipFingerprint⟩ : Exchange Answer) ∈ trace := by
    simp [split]
  have same := visit.readback_eq read rfl
  obtain ⟨-, -, has', received'⟩ := holding_eq_some.mp (unique _ member same)
  cases visit with
  | skipped skip => cases read
  | @read snapshot' receipt' begun stored observed more restorable has received unowned silent =>
      rw [has', Option.some.injEq] at has
      rw [received', Option.some.injEq] at received
      subst has received
      have second := eq_of_readback read (by simp [readback]) rfl
        fun other => silent.readback_eq_none
      cases second
      exact absurd (unowned rfl) changed
  | @restored snapshot' receipt' begun stored result more restorable has received different silent =>
      rw [has', Option.some.injEq] at has
      rw [received', Option.some.injEq] at received
      subst has received
      rcases earlier with _ | ⟨first, _ | ⟨second, earlier⟩⟩
      · simp at split
      · simp only [List.cons_append, List.nil_append, List.cons.injEq, Exchange.mk.injEq,
          Call.verify.injEq] at split
        obtain ⟨-, ⟨⟨rfl, -, rfl, -⟩, -⟩, rfl⟩ := split
        exact ⟨result, more, rfl⟩
      · simp only [List.cons_append, List.cons.injEq] at split
        have later : (⟨.verify session .restore mutation snapshot.originalFingerprint
            snapshot.targetIdentity, .ok receipt.ownershipFingerprint⟩ : Exchange Answer) ∈
            ⟨.restore sessionId operation.mutation snapshot receipt.ownershipFingerprint, result⟩ ::
              more := by
          rw [split.2.2]
          simp
        rcases List.mem_cons.mp later with impossible | later
        · cases impossible
        · have none := silent.readback_eq_none later
          simp [readback] at none

theorem Visits.follows {sessionId : SessionId} {operations : List OperationRecord} {trace : Trace}
    {holdings : List Holding} (visits : Visits sessionId operations trace)
    (unique : ∀ operation ∈ operations, ∀ held ∈ holdings, held.1 = operation.mutation →
      holding operation = some held) : Follows holdings trace := by
  induction visits with
  | nil => exact follows_of_unread rfl
  | cons visit visits ih =>
      exact (visit.follows (unique _ (by simp))).append
        (ih fun operation member => unique operation (by simp [member]))

theorem Silent.filterMap_applied {trace : Trace} (silent : Silent trace) :
    trace.filterMap applied = [] := by
  refine List.filterMap_eq_nil_iff.mpr fun exchange member => ?_
  obtain ⟨call, answer⟩ := exchange
  have other := silent _ member
  cases call <;> first | rfl | cases other

/-- A restore neither applies anything nor ends with a clock read. -/
theorem Visits.calls {sessionId : SessionId} {operations : List OperationRecord} {trace : Trace}
    (visits : Visits sessionId operations trace) {exchange : Exchange Answer}
    (member : exchange ∈ trace) : applied exchange = none ∧ exchange.request ≠ .now := by
  have silently {more : Trace} (silent : Silent more) {other : Exchange Answer}
      (inside : other ∈ more) : applied other = none ∧ other.request ≠ .now := by
    have quiet := silent other inside
    refine ⟨List.filterMap_eq_nil_iff.mp silent.filterMap_applied other inside, ?_⟩
    rintro same
    rw [same] at quiet
    cases quiet
  induction visits with
  | nil => cases member
  | cons visit visits ih =>
      rcases List.mem_append.mp member with member | member
      · cases visit with
        | skipped skip => cases member
        | read restorable has received unowned silent =>
            rcases List.mem_cons.mp member with rfl | member
            · exact ⟨rfl, by simp⟩
            rcases List.mem_cons.mp member with rfl | member
            · exact ⟨rfl, by simp⟩
            · exact silently silent member
        | restored restorable has received changed silent =>
            rcases List.mem_cons.mp member with rfl | member
            · exact ⟨rfl, by simp⟩
            rcases List.mem_cons.mp member with rfl | member
            · exact ⟨rfl, by simp⟩
            rcases List.mem_cons.mp member with rfl | member
            · exact ⟨rfl, by simp⟩
            · exact silently silent member
      · exact ih member

/-! ## Rolling back -/

/-- What the trace so far says about the operations of the record. -/
structure Kept (operations : List OperationRecord) (done : Trace) : Prop where
  distinct : Distinct operations
  holding : done.filterMap applied = operations.filterMap holding
  identified : Identified done
  unread : done.filterMap readback = []

namespace Kept

variable {operations : List OperationRecord} {done more : Trace}

theorem append (kept : Kept operations done) (nothing : more.filterMap applied = [])
    (unread : more.filterMap readback = []) : Kept operations (done ++ more) := by
  refine ⟨kept.distinct, ?_, ?_, ?_⟩
  · rw [List.filterMap_append, nothing, List.append_nil, kept.holding]
  · intro mutation snapshot receipt member
    rw [List.filterMap_append, nothing, List.append_nil] at member
    exact kept.identified mutation snapshot receipt member
  · rw [List.filterMap_append, kept.unread, unread, List.append_nil]

/-- Changes of the operations that keep their mutations and what they hold. -/
theorem replace {operations' : List OperationRecord} (kept : Kept operations done)
    (mutations : operations'.map OperationRecord.mutation =
      operations.map OperationRecord.mutation)
    (holdings : operations'.filterMap Platform.holding = operations.filterMap Platform.holding) :
    Kept operations' done := by
  refine ⟨?_, by rw [holdings, kept.holding], kept.identified, kept.unread⟩
  have ids := congrArg (List.map PlannedMutation.mutationId) mutations
  rw [List.map_map, List.map_map] at ids
  have distinct := kept.distinct
  unfold Distinct at distinct ⊢
  exact (congrArg List.Nodup ids).mpr distinct

end Kept

theorem Verdict.of_foreign {trace : Trace} (unread : trace.filterMap readback = [])
    (foreign : ¬ Identified trace) : Verdict trace := by
  intro some
  constructor
  · intro rolled
    have reversed := rolled.reversed
    rw [unread] at reversed
    simp [some] at reversed
  · rintro ⟨identified, -⟩
    exact absurd identified foreign

theorem Verdict.of_clock {trace : Trace} (unread : trace.filterMap readback = [])
    (late : ¬ Timed trace) : Verdict trace := by
  intro some
  constructor
  · intro rolled
    have reversed := rolled.reversed
    rw [unread] at reversed
    simp [some] at reversed
  · rintro ⟨-, timed⟩
    exact absurd timed late

/-- A restore of the record rolls back everything that was applied. -/
theorem restoreRecord_verdict {record : SessionRecord} {done : Trace}
    (kept : Kept record.operations done) :
    Every (fun trace _ => Verdict (done ++ trace)) (restoreRecord record) := by
  refine (restoreRecord_traces kept.distinct).mono fun trace outcome known some => ?_
  obtain ⟨answer, visited, last, rfl, visits, silent, -⟩ := known
  have none : (visited.filterMap applied) = [] :=
    List.filterMap_eq_nil_iff.mpr fun exchange member => (visits.calls member).1
  have holdings : (done ++ ⟨.now, answer⟩ :: (visited ++ last)).filterMap applied =
      record.operations.filterMap holding := by
    rw [List.filterMap_append, List.filterMap_cons_none rfl, List.filterMap_append, none,
      silent.filterMap_applied, List.append_nil, List.append_nil, kept.holding]
  have readbacks : (done ++ ⟨.now, answer⟩ :: (visited ++ last)).filterMap readback =
      ((record.operations.filterMap holding).map Prod.fst).reverse := by
    rw [List.filterMap_append, List.filterMap_cons_none rfl, List.filterMap_append, kept.unread,
      visits.filterMap_readback, silent.filterMap_readback, List.append_nil, List.nil_append,
      List.filter_reverse, List.map_reverse, map_restorable]
  rw [holdings] at some
  refine iff_of_true ⟨by rw [readbacks, holdings], ?_⟩ ⟨?_, ?_⟩
  · have unique : ∀ operation ∈ record.operations.reverse,
        ∀ held ∈ record.operations.filterMap holding, held.1 = operation.mutation →
          holding operation = .some held := by
      rintro operation member ⟨mutation, snapshot, receipt⟩ present same
      obtain ⟨other, member', held⟩ := List.mem_filterMap.mp present
      have same' := (holding_eq_some.mp held).2.1
      have identical : other = operation :=
        List.inj_on_of_nodup_map kept.distinct member' (List.mem_reverse.mp member)
          (by rw [same', ← same])
      rw [← identical, held]
    rw [holdings]
    have clock : Follows (record.operations.filterMap holding) [⟨.now, answer⟩] :=
      follows_of_unread rfl
    exact (follows_of_unread kept.unread).append (clock.append
      ((visits.follows unique).append (follows_of_unread silent.filterMap_readback)))
  · intro mutation snapshot receipt member
    rw [holdings, ← kept.holding] at member
    exact kept.identified mutation snapshot receipt member
  · intro before error split
    have started : visited ++ last ≠ [] := by
      intro empty
      rw [List.append_eq_nil_iff] at empty
      have nothing := visits.filterMap_readback
      rw [empty.1, List.filter_reverse, List.map_reverse, map_restorable] at nothing
      simp [some] at nothing
    obtain ⟨initial, final, same⟩ := (List.eq_nil_or_concat _).resolve_left started
    have ends : final = ⟨.now, .error error⟩ := by
      rw [same, List.concat_eq_append, ← List.cons_append, ← List.append_assoc] at split
      simpa using (List.append_inj' split rfl).2
    have member : final ∈ visited ++ last := by simp [same]
    rcases List.mem_append.mp member with member | member
    · exact (visits.calls member).2 (by rw [ends])
    · have quiet := silent final member
      rw [ends] at quiet
      cases quiet

/-- A failed rollback result. -/
def Failed (trace : Trace) (result : Except SysboostError SessionState) : Prop :=
  (∃ error, result = .error error) ∧ Verdict trace

theorem transition_operations (record : SessionRecord) (next : SessionState) (now : Timestamp)
    (reason : String) :
    (match record.transition next now reason with
      | (.error error, left) => left.recordFailure error
      | (.ok (), left) => left).operations = record.operations := by
  rcases result : record.transition next now reason with ⟨error | done, left⟩
  · unfold SessionRecord.transition at result
    split at result
    · cases result
      rfl
    · split at result
      · cases result
        rfl
      · cases result
  · rw [(SessionRecord.moved_of_transition result).2]
    rfl

theorem enterRollback_operations (record : SessionRecord) (now : Timestamp) :
    (enterRollback record now).operations = record.operations := by
  unfold enterRollback
  cases record.session.state <;> first | rfl | exact transition_operations record _ now _

/-- Nothing is applied and nothing is read back for a restore. -/
def Uneventful (trace : Trace) : Prop :=
  trace.filterMap applied = [] ∧ trace.filterMap readback = []

theorem startRollback_traces (record : SessionRecord) :
    Every (fun trace entered => Uneventful trace ∧ entered.operations = record.operations)
      (startRollback record true) := by
  refine Every.seq (now_traces _) ?_
  rintro _ result ⟨answer, rfl, -⟩
  exact Every.ret_iff.mpr ⟨⟨rfl, rfl⟩, enterRollback_operations _ _⟩

theorem persistRollback_traces (record : SessionRecord) :
    Every (fun trace left => Uneventful trace ∧ left.operations = record.operations)
      (persistRollback record) := by
  refine Every.seq (persist_traces _ _) ?_
  rintro _ result ⟨answer, rfl, -⟩
  rcases result with error | done <;> exact Every.ret_iff.mpr ⟨⟨rfl, rfl⟩, rfl⟩

theorem rollbackAfterFailure_verdict {record : SessionRecord} {done : Trace}
    {error : SysboostError} (kept : Kept record.operations done) :
    Every (fun trace result => Failed (done ++ trace) result)
      (rollbackAfterFailure record error true) := by
  refine Every.seq (startRollback_traces record) ?_
  rintro first entered ⟨⟨nothing, unread⟩, same⟩
  have kept := kept.append nothing unread
  rw [← same] at kept
  refine Every.seq (persistRollback_traces entered) ?_
  rintro second left ⟨⟨nothing, unread⟩, same⟩
  have kept := kept.append nothing unread
  rw [← same] at kept
  refine Every.seq (restoreRecord_verdict kept) fun third outcome verdict => ?_
  obtain ⟨failure, failed⟩ := rollbackResult_eq_error error record.sessionId outcome.1
  refine Every.ret_iff.mpr ⟨⟨failure, failed⟩, ?_⟩
  simpa only [List.append_assoc, List.append_nil] using verdict

/-! ## One operation -/

theorem Kept.place {front back : List OperationRecord} {operation operation' : OperationRecord}
    {done : Trace} (kept : Kept (front ++ operation :: back) done)
    (mutation : operation'.mutation = operation.mutation)
    (holds : Platform.holding operation' = Platform.holding operation) :
    Kept (front ++ operation' :: back) done := by
  refine kept.replace (by simp [mutation]) ?_
  rw [List.filterMap_append, List.filterMap_append, List.filterMap_cons, List.filterMap_cons, holds]

theorem holding_congr {operation operation' : OperationRecord}
    (mutation : operation'.mutation = operation.mutation)
    (snapshot : operation'.snapshot = operation.snapshot)
    (receipt : operation'.applyReceipt = operation.applyReceipt)
    (legal : operation'.state.canTransition .restoring = operation.state.canTransition .restoring) :
    holding operation' = holding operation := by
  unfold holding
  rw [mutation, snapshot, receipt, legal]

theorem holding_of_unapplied {operation : OperationRecord}
    (unapplied : operation.applyReceipt = none) : holding operation = none := by
  unfold holding
  cases operation.snapshot <;> simp [unapplied]

/-- An operation that the loop has not reached. -/
structure Pending (operation : OperationRecord) : Prop where
  intended : operation.state = .intentRecorded
  unapplied : operation.applyReceipt = none
  captured : operation.snapshot.isSome

/-- The loop of `apply` has gone through `front` and not through `rest`. -/
structure Underway (record : SessionRecord) (front rest : List OperationRecord) (done : Trace) :
    Prop where
  split : record.operations = front ++ rest
  applying : record.session.state = .applying
  kept : Kept record.operations done
  pending : ∀ operation ∈ rest, Pending operation

/-- How an iteration may end. -/
def Continues (front rest : List OperationRecord) (trace : Trace) : Step → Prop
  | .next left => ∃ operation, Underway left (front ++ [operation]) rest trace
  | .done result => Failed trace result

/-- Whatever is answered, the iteration ends well after the calls already done. -/
abbrev Proceeds (front rest : List OperationRecord) (done : Trace) (program : Engine Step) :
    Prop :=
  Every (fun trace step => Continues front rest (done ++ trace) step) program

section Iteration

variable {record : SessionRecord} {front rest : List OperationRecord} {done : Trace}
  {operation : OperationRecord} {error : SysboostError} {snapshot : Snapshot}
  {receipt : ApplyReceipt} {sessionId : SessionId} {stage : Stage}

theorem Kept.one {operations : List OperationRecord} (kept : Kept operations done)
    {exchange : Exchange Answer} (nothing : applied exchange = none)
    (unread : readback exchange = none) : Kept operations (done ++ [exchange]) :=
  kept.append (List.filterMap_cons_none nothing) (List.filterMap_cons_none unread)

theorem Proceeds.call {call : Call} {next : Answer call → Engine Step}
    (goes : ∀ answer, Proceeds front rest (done ++ [⟨call, answer⟩]) (next answer)) :
    Proceeds front rest done (Prog.perform call >>= next) := by
  refine Every.perform_bind_iff.mpr fun answer => (goes answer).mono fun trace step known => ?_
  rwa [List.append_assoc] at known

theorem Proceeds.persist {next : Except SysboostError Unit → Engine Step}
    (kept : Kept record.operations done)
    (goes : ∀ result answer, Kept record.operations (done ++ [⟨.replace record, answer⟩]) →
      Proceeds front rest (done ++ [⟨.replace record, answer⟩]) (next result)) :
    Proceeds front rest done ((persist record stage).run >>= next) := by
  refine Every.seq (persist_traces _ _) ?_
  rintro _ result ⟨answer, rfl, -⟩
  refine (goes result answer (kept.one rfl rfl)).mono fun trace step known => ?_
  rwa [List.append_assoc] at known

theorem stepRollback_proceeds (kept : Kept record.operations done) :
    Proceeds front rest done (Step.rollback record error) := by
  refine Every.seq (rollbackAfterFailure_verdict kept) fun trace result failed => ?_
  refine Every.ret_iff.mpr ?_
  rw [List.append_nil]
  exact failed

theorem persistAndRollback_proceeds (kept : Kept record.operations done) :
    Proceeds front rest done (persistAndRollback record stage error) :=
  Proceeds.persist kept fun _ _ kept => stepRollback_proceeds kept

theorem persistOrRollback_proceeds {next : Engine Step} (kept : Kept record.operations done)
    (goes : ∀ answer, Kept record.operations (done ++ [⟨.replace record, answer⟩]) →
      Proceeds front rest (done ++ [⟨.replace record, answer⟩]) next) :
    Proceeds front rest done (persistOrRollback record stage next) := by
  refine Proceeds.persist kept fun result answer kept => ?_
  rcases result with error | written
  · exact stepRollback_proceeds kept
  · exact goes answer kept

theorem refuseVerification_proceeds {verification : VerificationResult}
    (finds : record.Finds front operation rest) (kept : Kept record.operations done)
    (applied : operation.state = .applied)
    (own : verification.mutationId = operation.mutation.mutationId)
    (unmatched : verification.matched = false) :
    Proceeds front rest done
      (refuseVerification record operation.mutation.mutationId verification error) := by
  rw [finds.split] at kept
  unfold refuseVerification SessionRecord.failOperation
  rw [finds.recordVerification own applied]
  have placed : (record.place front { operation with
      verification := some verification, state := .failed } rest).Finds front
      { operation with verification := some verification, state := .failed } rest :=
    finds.place rfl
  simp only [unmatched, Bool.false_eq_true, if_false, placed.failTo_again rfl]
  refine persistAndRollback_proceeds (kept.place rfl (holding_congr rfl rfl rfl ?_))
  rw [applied]
  rfl

theorem verifyApplied_proceeds (finds : record.Finds front operation rest)
    (applying : record.session.state = .applying) (kept : Kept record.operations done)
    (applied : operation.state = .applied) (pending : ∀ other ∈ rest, Pending other) :
    Proceeds front rest done
      (verifyApplied sessionId record operation.mutation snapshot receipt) := by
  unfold verifyApplied
  refine Proceeds.call fun answer => ?_
  have kept : Kept record.operations (done ++ [⟨.verify sessionId .verify operation.mutation
    receipt.ownershipFingerprint snapshot.targetIdentity, answer⟩]) := kept.one rfl rfl
  rcases answer with failure | observed
  · exact refuseVerification_proceeds finds kept applied rfl rfl
  by_cases matched : observed = receipt.ownershipFingerprint
  · subst observed
    simp only [decide_true, Bool.not_true, Bool.false_eq_true, if_false]
    rw [finds.recordVerification rfl applied]
    have legal : OperationState.verified.canTransition .restoring =
        operation.state.canTransition .restoring := by rw [applied]; rfl
    rw [finds.split] at kept
    refine persistOrRollback_proceeds (kept.place rfl (holding_congr rfl rfl rfl legal))
      fun stored verified => ?_
    refine Every.ret_iff.mpr ?_
    rw [List.append_nil]
    exact ⟨_, List.append_cons front _ rest, applying, verified, pending⟩
  · simp only [matched, decide_false, Bool.not_false, if_true]
    exact refuseVerification_proceeds finds kept applied rfl rfl

/-- The receipt of the operation joins what is held. -/
theorem Kept.receive {back : List OperationRecord} {operation' : OperationRecord}
    {exchange : Exchange Answer} (kept : Kept (front ++ operation :: back) done)
    (mutation : operation'.mutation = operation.mutation)
    (idle : ∀ other ∈ operation :: back, Platform.holding other = none)
    (own : receipt.mutationId = operation.mutation.mutationId)
    (held : Platform.holding operation' = some (operation.mutation, snapshot, receipt))
    (answered : applied exchange = some (operation.mutation, snapshot, receipt))
    (unread : readback exchange = none) :
    Kept (front ++ operation' :: back) (done ++ [exchange]) := by
  have none : back.filterMap Platform.holding = [] :=
    List.filterMap_eq_nil_iff.mpr fun other member => idle other (by simp [member])
  have before : done.filterMap applied = front.filterMap Platform.holding := by
    rw [kept.holding, List.filterMap_append, List.filterMap_cons_none (idle operation (by simp)),
      none, List.append_nil]
  refine ⟨?_, ?_, ?_, ?_⟩
  · have distinct := kept.distinct
    unfold Distinct at distinct ⊢
    simpa [mutation] using distinct
  · rw [List.filterMap_append, List.filterMap_append, List.filterMap_cons_some held, none, before,
      List.filterMap_cons_some answered]
    rfl
  · intro mutation' snapshot' receipt' member
    rw [List.filterMap_append, List.filterMap_cons_some answered] at member
    rcases List.mem_append.mp member with member | member
    · exact kept.identified mutation' snapshot' receipt' member
    · cases List.mem_singleton.mp member
      exact own
  · rw [List.filterMap_append, kept.unread, List.filterMap_cons_none unread]
    rfl

theorem applyIntended_proceeds (finds : record.Finds front operation rest)
    (applying : record.session.state = .applying) (kept : Kept record.operations done)
    (begun : operation.state = .applying) (unapplied : operation.applyReceipt = none)
    (has : operation.snapshot = some snapshot) (pending : ∀ other ∈ rest, Pending other) :
    Proceeds front rest done
      (applyIntended sessionId record operation.mutation snapshot) := by
  have legal : operation.state.canTransition .failed = true := by rw [begun]; rfl
  have idle : ∀ other ∈ operation :: rest, holding other = none := by
    intro other member
    rcases List.mem_cons.mp member with rfl | member
    · exact holding_of_unapplied unapplied
    · exact holding_of_unapplied (pending other member).unapplied
  unfold applyIntended
  refine Proceeds.call fun answer => ?_
  rcases answer with failure | receipt
  · have kept : Kept record.operations (done ++ [⟨.apply sessionId operation.mutation snapshot,
        .error failure⟩]) := kept.one rfl rfl
    by_cases known : failure.retryability = .unknown
    · simp only [contextual_retryability, known, ne_eq, not_true_eq_false, if_false]
      exact persistAndRollback_proceeds kept
    · simp only [contextual_retryability, known, ne_eq, not_false_eq_true, if_true]
      rw [SessionRecord.failOperation, finds.failTo legal (by simp [begun])]
      rw [finds.split] at kept
      refine persistAndRollback_proceeds (kept.place rfl ?_)
      rw [idle operation (by simp)]
      exact holding_of_unapplied unapplied
  by_cases own : receipt.mutationId = operation.mutation.mutationId
  · rw [finds.split] at kept
    have received : Kept (front ++ { operation with
        applyReceipt := some receipt, state := .applied } :: rest)
        (done ++ [⟨.apply sessionId operation.mutation snapshot, .ok receipt⟩]) :=
      kept.receive rfl idle own (holding_eq_some.mpr
        ⟨by simp [Restorable, has, OperationState.canTransition], rfl, has, rfl⟩) rfl rfl
    have placed : (record.place front { operation with
        applyReceipt := some receipt, state := .applied } rest).Finds front
        { operation with applyReceipt := some receipt, state := .applied } rest := finds.place rfl
    by_cases unbound : receipt.mutationId ≠ operation.mutation.mutationId ∨
        receipt.observedPrecondition ≠ operation.mutation.precondition ∨
        receipt.observedPostcondition ≠ receipt.ownershipFingerprint
    · simp only [unbound, if_true, finds.recordApply own begun]
      rw [SessionRecord.failOperation, placed.failTo rfl (by simp)]
      exact persistAndRollback_proceeds (received.place rfl (holding_congr rfl rfl rfl rfl))
    · simp only [unbound, if_false, finds.recordApply own begun]
      refine persistOrRollback_proceeds received fun stored received => ?_
      show Proceeds front rest _ (verifyApplied sessionId _ ({ operation with
        applyReceipt := some receipt, state := .applied } : OperationRecord).mutation snapshot
        receipt)
      exact verifyApplied_proceeds placed applying received rfl pending
  · obtain ⟨left, foreign⟩ := finds.recordApply_foreign own
    simp only [own, ne_eq, not_false_eq_true, true_or, if_true, foreign]
    refine Every.ret_iff.mpr ⟨⟨_, rfl⟩, Verdict.of_foreign ?_ fun identified => ?_⟩
    · rw [List.append_nil, List.filterMap_append, kept.unread]
      rfl
    · refine own (identified operation.mutation snapshot receipt ?_)
      rw [List.append_nil, List.filterMap_append]
      exact List.mem_append_right _ (List.mem_singleton.mpr rfl)

theorem applyOperation_proceeds (underway : Underway record front (operation :: rest) done) :
    Proceeds front rest done (applyOperation sessionId record front.length) := by
  have finds := underway.kept.distinct.finds underway.split
  have found : record.operations[front.length]? = some operation := by simp [underway.split]
  obtain ⟨intended, unapplied, captured⟩ := underway.pending operation (by simp)
  have pending : ∀ other ∈ rest, Pending other :=
    fun other member => underway.pending other (by simp [member])
  have legal : operation.state.canTransition .applying = true := by rw [intended]; rfl
  unfold applyOperation
  simp only [found, intended, reduceCtorEq, or_self, if_false, ne_eq, not_true_eq_false,
    OperationRecord.transition_of_legal legal, finds.set]
  have kept := underway.kept
  rw [underway.split] at kept
  have begun : Kept (front ++ { operation with state := .applying } :: rest) done := by
    refine kept.place rfl ?_
    rw [holding_of_unapplied unapplied]
    exact holding_of_unapplied unapplied
  refine persistOrRollback_proceeds begun fun stored begun => ?_
  have placed : (record.place front { operation with state := .applying } rest).Finds front
      { operation with state := .applying } rest := finds.place rfl
  split
  · rename_i missing
    simp [missing] at captured
  · rename_i snapshot has
    show Proceeds front rest _ (applyIntended sessionId _
      ({ operation with state := .applying } : OperationRecord).mutation snapshot)
    exact applyIntended_proceeds placed underway.applying begun rfl unapplied has pending

/-- The whole loop and the code after it. -/
theorem applyOperations_verdict (underway : Underway record front rest done) :
    Every (fun trace result => (∃ error, result = .error error) → Verdict (done ++ trace))
      (applyOperations sessionId record (List.range' front.length rest.length)) := by
  induction rest generalizing record front done with
  | nil =>
      refine Every.seq (now_traces _) ?_
      rintro _ result ⟨answer, rfl, rfl⟩
      rcases answer with error | now
      · refine Every.ret_iff.mpr fun _ => Verdict.of_clock ?_ fun timed => ?_
        · rw [List.append_nil, List.filterMap_append, underway.kept.unread]
          rfl
        · exact timed done error (by simp)
      have legal : record.session.state.canTransition .active = true := by
        rw [underway.applying]
        rfl
      have reason : SessionRecord.GoodReason "all ordered applies and readbacks verified" := by
        decide
      simp only [Except.mapError, SessionRecord.transition_of_legal reason legal]
      have kept : Kept record.operations (done ++ [⟨.now, .ok now⟩]) := underway.kept.one rfl rfl
      refine Every.seq (persist_traces _ _) ?_
      rintro _ result ⟨answer, rfl, -⟩
      rcases result with error | written
      · have kept : Kept ((record.moved .active now
            "all ordered applies and readbacks verified").recordFailure error).operations
            (done ++ [⟨.now, .ok now⟩] ++ [⟨.replace (record.moved .active now
              "all ordered applies and readbacks verified"), answer⟩]) := kept.one rfl rfl
        refine (rollbackAfterFailure_verdict kept).mono fun trace result failed _ => ?_
        simpa only [List.append_assoc] using failed.2
      · refine Every.ret_iff.mpr ?_
        rintro ⟨error, impossible⟩
        cases impossible
  | cons operation rest ih =>
      rw [List.length_cons, List.range'_succ]
      refine Every.seq (applyOperation_proceeds underway) fun trace step continues => ?_
      cases step with
      | done result =>
          refine Every.ret_iff.mpr fun _ => ?_
          rw [List.append_nil]
          exact continues.2
      | next left =>
          obtain ⟨operation', later⟩ := continues
          have length : (front ++ [operation']).length = front.length + 1 := by simp
          refine (length ▸ ih later).mono fun more result verdict failed => ?_
          rw [← List.append_assoc]
          exact verdict failed

end Iteration

/-! ## The whole apply -/

/-- A record that can be applied: nothing has been applied before. -/
structure Launches (record : SessionRecord) : Prop where
  distinct : Distinct record.operations
  pending : record.session.state = .intentDurable → ∀ operation ∈ record.operations,
    Pending operation

theorem Possible.launches {log : List Entry} {record : SessionRecord}
    (possible : Possible log record) : Launches record := by
  refine ⟨possible.distinct_operations, fun durable operation member => ?_⟩
  have intended := possible.intended durable operation member
  obtain ⟨⟨snapshot, has, -⟩, -, -, -, shaped⟩ := possible.formed operation member
  simp only [Shaped, intended] at shaped
  exact ⟨intended, shaped.1, by simp [has]⟩

theorem Verdict.of_nothing {trace : Trace} (nothing : trace.filterMap applied = []) :
    Verdict trace :=
  fun some => absurd nothing some

theorem requireActive_traces (sessionId : SessionId) :
    Every (fun trace _ => Uneventful trace) (requireActive sessionId).run := by
  have called : Every (fun trace _ => Uneventful trace) (Prog.perform Call.active) :=
    Every.call_iff.mpr fun answer => Every.ret_iff.mpr ⟨rfl, rfl⟩
  refine Every.lift_seq called fun trace active quiet => ?_
  rcases active with _ | active
  · exact Every.ret_iff.mpr (by simpa using quiet)
  by_cases same : active = sessionId
  · simp only [same, if_true]
    exact Every.ret_iff.mpr (by simpa using quiet)
  · simp only [same, if_false]
    exact Every.ret_iff.mpr (by simpa using quiet)

theorem loadActiveRecord_traces (sessionId : SessionId) :
    Every (fun trace result => Uneventful trace ∧ ∀ record, result = .ok record →
        ⟨.load sessionId, .ok record⟩ ∈ trace) (loadActiveRecord sessionId).run := by
  refine Every.call_iff.mpr fun answer => Every.ret_iff.mpr ⟨⟨rfl, rfl⟩, ?_⟩
  rintro record same
  rcases answer with error | stored
  · cases same
  · cases same
    simp

/-- The part of `apply` behind the durable intent. -/
theorem applyIntent_verdict {record : SessionRecord} {sessionId : SessionId} {now : Timestamp}
    {done : Trace} (durable : record.session.state = .intentDurable)
    (launches : Launches record) (quiet : Uneventful done) :
    Every (fun trace result => (∃ error, result = .error error) → Verdict (done ++ trace))
      (match record.transition .applying now "ordered mutation application started" with
        | (.error error, _) => throw error
        | (.ok (), record) => do
            match ← Fallible.attempt (persist record .apply) with
            | .error error =>
                Fallible.port (rollbackAfterFailure (record.recordFailure error) error true)
            | .ok () =>
                Fallible.port (applyOperations sessionId record
                  (List.range record.operations.length)) : Fallible SessionState).run := by
  have legal : record.session.state.canTransition .applying = true := by rw [durable]; rfl
  have reason : SessionRecord.GoodReason "ordered mutation application started" := by decide
  have pending := launches.pending durable
  simp only [SessionRecord.transition_of_legal reason legal]
  have kept : Kept record.operations done := by
    refine ⟨launches.distinct, ?_, ?_, quiet.2⟩
    · rw [quiet.1]
      refine (List.filterMap_eq_nil_iff.mpr fun operation member => ?_).symm
      exact holding_of_unapplied (pending operation member).unapplied
    · intro mutation snapshot receipt member
      rw [quiet.1] at member
      cases member
  refine Every.lift_seq (persist_traces _ _) ?_
  rintro _ result ⟨answer, rfl, -⟩
  have started : Kept (record.moved .applying now "ordered mutation application started").operations
      (done ++ [⟨.replace (record.moved .applying now "ordered mutation application started"),
        answer⟩]) := kept.one rfl rfl
  rcases result with error | written
  · have kept : Kept ((record.moved .applying now
        "ordered mutation application started").recordFailure error).operations _ := started
    refine (rollbackAfterFailure_verdict kept).mono fun trace result failed _ => ?_
    simpa only [List.append_assoc] using failed.2
  · have underway : Underway (record.moved .applying now "ordered mutation application started")
        [] record.operations (done ++ [⟨.replace (record.moved .applying now
          "ordered mutation application started"), answer⟩]) := ⟨rfl, rfl, started, pending⟩
    have verdict := @applyOperations_verdict _ _ _ _ sessionId underway
    rw [List.length_nil, ← List.range_eq_range'] at verdict
    refine verdict.mono fun trace result known failed => ?_
    simpa only [List.append_assoc] using known failed

theorem apply_verdict (sessionId : SessionId) :
    Every (fun trace result =>
        (∀ record, ⟨.load sessionId, .ok record⟩ ∈ trace → Launches record) →
        (∃ error, result = .error error) → Verdict trace)
      (apply sessionId).run := by
  refine Every.run_seq (requireActive_traces sessionId)
    (fun trace error quiet _ _ => .of_nothing quiet.1) fun first _ quiet => ?_
  refine Every.run_seq (loadActiveRecord_traces sessionId)
    (fun trace error known _ _ => .of_nothing ?_) fun second record known => ?_
  · rw [List.filterMap_append, quiet.1, known.1.1]
    rfl
  obtain ⟨quiet', loaded⟩ := known
  have member := loaded record rfl
  have both : Uneventful (first ++ second) := by
    constructor <;> rw [List.filterMap_append]
    · rw [quiet.1, quiet'.1]
      rfl
    · rw [quiet.2, quiet'.2]
      rfl
  have nothing : Verdict (first ++ (second ++ [])) := by
    rw [List.append_nil]
    exact .of_nothing both.1
  cases state : record.session.state with
  | intentDurable =>
      refine Every.run_seq (now_traces _) (fun third error known _ _ => ?_)
        fun third now known => ?_
      · obtain ⟨answer, rfl, -⟩ := known
        refine .of_nothing ?_
        rw [← List.append_assoc, List.filterMap_append, both.1]
        rfl
      · obtain ⟨answer, rfl, -⟩ := known
        have timed : Uneventful (first ++ second ++ [⟨.now, answer⟩]) := by
          constructor <;> rw [List.filterMap_append]
          · rw [both.1]
            rfl
          · rw [both.2]
            rfl
        intro trace result run launches failed
        have launched := launches record (by simp [member])
        have verdict := applyIntent_verdict state launched timed trace result run failed
        simpa only [List.append_assoc] using verdict
  | active => exact Every.ret_iff.mpr fun _ _ => nothing
  | restored =>
      refine Every.lift_seq (releaseIfRestored_traces sessionId) fun third _ silent => ?_
      refine Every.ret_iff.mpr fun _ _ => .of_nothing ?_
      rw [List.append_nil, ← List.append_assoc, List.filterMap_append, both.1,
        silent.filterMap_applied]
      rfl
  | _ => exact Every.ret_iff.mpr fun _ _ => nothing

/-- **Every failing apply exit rolls back**, but for two: when the backend has
applied something and `apply` fails, everything applied has been restored in
reverse order exactly when every receipt named its own mutation and the last
call was no failed clock read. -/
theorem apply_rolls_back {run : Run} (reachable : Reachable run) {engine : EngineId}
    {sessionId : SessionId} {trace : Trace} {error : SysboostError} {after : World}
    (traces : Traces (apply sessionId).run trace (.error error))
    (steps : Steps (Law engine) run.world trace after)
    (some : trace.filterMap applied ≠ []) :
    RolledBack trace ↔ Identified trace ∧ Timed trace := by
  refine apply_verdict sessionId trace _ traces (fun record member => ?_) ⟨error, rfl⟩ some
  have conducts : Conducts engine _ (apply sessionId).run run.world :=
    apply_conducts reachable.coherent
  obtain ⟨before, later, ⟨coherent, -⟩, law⟩ := conducts.guard_of_mem traces steps member
  exact (coherent.possible record law.store.2.1).launches

/-- Ports whose backend answers with this receipt. -/
def receiptKit (receipt : PlannedMutation → ApplyReceipt) : Testkit :=
  { steadyKit with receipt := fun mutation => .ok (receipt mutation) }

/-- A session prepared with these ports. -/
def preparedWorld (kit : Testkit) : World :=
  kit.serve 0 (.prepare (fixturePlan governorMutation)) World.empty

/-- The apply of the prepared session fails. -/
theorem apply_fails {kit : Testkit} (fails : ((apply kit.sessionId).run.exec (kit.respond 0)
      (preparedWorld kit)).1.toBool = false) :
    ∃ trace error after, trace = (apply kit.sessionId).run.trace (kit.respond 0)
        (preparedWorld kit) ∧
      Traces (apply kit.sessionId).run trace (.error error) ∧
      Steps (Law 0) (preparedWorld kit) trace after := by
  have traces := Prog.traces_trace (kit.respond 0) (apply kit.sessionId).run (preparedWorld kit)
  have steps := Prog.steps_trace (kit.respond 0) (fun _ => kit.law) (apply kit.sessionId).run
    (preparedWorld kit)
  cases result : ((apply kit.sessionId).run.exec (kit.respond 0) (preparedWorld kit)).1 with
  | error error =>
      rw [result] at traces
      exact ⟨_, error, _, rfl, traces, steps⟩
  | ok state =>
      rw [result] at fails
      cases fails

theorem apply_rolls_back_unbound :
    ∃ trace, trace.filterMap applied ≠ [] ∧ (RolledBack trace ↔ Identified trace ∧ Timed trace) := by
  let kit := receiptKit fun mutation =>
    ⟨mutation.mutationId, fixtureOwned, fixtureOwned, fixtureOwned⟩
  obtain ⟨trace, error, after, same, traces, steps⟩ := @apply_fails kit (by decide +kernel)
  have some : trace.filterMap applied ≠ [] := by
    rw [same]
    decide +kernel
  have reachable : Reachable ⟨preparedWorld kit, none⟩ := kit.reachable_serve .refl 0 _
  exact ⟨trace, some, apply_rolls_back reachable traces steps some⟩

/-- A receipt of another mutation is returned as an error, and what was applied
stays applied. -/
theorem apply_keeps_foreign :
    ¬ ∀ (run : Run) (engine : EngineId) (sessionId : SessionId) (trace : Trace)
      (error : SysboostError) (after : World), Reachable run →
      Traces (apply sessionId).run trace (.error error) → Steps (Law engine) run.world trace after →
      trace.filterMap applied ≠ [] → RolledBack trace := by
  intro claim
  let kit := receiptKit fun mutation =>
    ⟨⟨2⟩, mutation.precondition, fixtureOwned, fixtureOwned⟩
  obtain ⟨trace, error, after, same, traces, steps⟩ := @apply_fails kit (by decide +kernel)
  have some : trace.filterMap applied ≠ [] := by
    rw [same]
    decide +kernel
  have unread : trace.filterMap readback = [] := by
    rw [same]
    decide +kernel
  have reachable : Reachable ⟨preparedWorld kit, none⟩ := kit.reachable_serve .refl 0 _
  have rolled := claim _ 0 kit.sessionId trace error after reachable traces steps some
  have reversed := rolled.reversed
  rw [unread] at reversed
  simp [some] at reversed

end Sysboost.Platform
