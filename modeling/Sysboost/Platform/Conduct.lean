import Sysboost.Platform.RestoreConduct

/-!
# The conduct of the engine

Every public operation makes permitted calls only, and replies that a session
is restored only when every apply of it is accounted for.
-/

namespace Sysboost.Platform

open Sysboost.Core Interaction

/-! ## Entering a restore -/

theorem enterRestore_possible {log : List Entry} {record : SessionRecord}
    (possible : Possible log record) (unrestored : record.session.state ≠ .restored)
    (now : Timestamp) :
    ∃ left, enterRestore record now = (.ok (), left) ∧ Possible log left ∧
      left.sessionId = record.sessionId ∧ left.operations = record.operations ∧
      Restorative left.session.state := by
  have started := possible.started
  have move (next : SessionState) (reason : String) (good : SessionRecord.GoodReason reason)
      (legal : record.session.state.canTransition next = true) (restorative : Restorative next) :
      ∃ left, record.transition next now reason = (.ok (), left) ∧ Possible log left ∧
        left.sessionId = record.sessionId ∧ left.operations = record.operations ∧
        Restorative left.session.state := by
    refine ⟨_, SessionRecord.transition_of_legal good legal, ?_, rfl, rfl, restorative⟩
    refine possible.move now reason good legal ?_
    rintro rfl
    simp [Restorative] at restorative
  unfold enterRestore
  cases state : record.session.state with
  | new => simp [Started, state] at started
  | detected => simp [Started, state] at started
  | planned => simp [Started, state] at started
  | snapshotted => simp [Started, state] at started
  | intentDurable => exact move _ _ (by decide) (by rw [state]; rfl) (.inr rfl)
  | applying => exact move _ _ (by decide) (by rw [state]; rfl) (.inr rfl)
  | active => exact move _ _ (by decide) (by rw [state]; rfl) (.inl rfl)
  | restoring => exact ⟨record, rfl, possible, rfl, rfl, .inl state⟩
  | rollingBack => exact ⟨record, rfl, possible, rfl, rfl, .inr state⟩
  | restored => exact absurd state unrestored
  | recoveryPending => exact move _ _ (by decide) (by rw [state]; rfl) (.inl rfl)
  | degraded =>
      have legal : record.session.state.canTransition .recoveryPending = true := by rw [state]; rfl
      have reason : SessionRecord.GoodReason "retrying degraded restore" := by decide
      have reason' : SessionRecord.GoodReason "recovery restore started" := by decide
      have legal' : (record.moved .recoveryPending now
          "retrying degraded restore").session.state.canTransition .restoring = true := rfl
      simp only [SessionRecord.transition_of_legal reason legal,
        SessionRecord.transition_of_legal reason' legal']
      exact ⟨_, rfl, (possible.move now _ reason legal (by simp)).move now _ reason' legal'
        (by simp), rfl, rfl, .inl rfl⟩

theorem prepareRestoreState_conducts {engine : EngineId} {world : World} {record : SessionRecord}
    (coherent : Coherent world) (possible : Possible world.log record)
    (unrestored : record.session.state ≠ .restored) :
    Conducts engine (fun result after => Later world after ∧ Possible after.log result.2 ∧
        result.2.sessionId = record.sessionId ∧
        (result.1 = .ok () → Restorative result.2.session.state))
      (prepareRestoreState record) world := by
  refine Alone.seq (now_conducts coherent) fun result started later => ?_
  have possible' := later.possible possible
  rcases result with error | now
  · exact Alone.ret_iff.mpr ⟨later, possible', rfl, by simp⟩
  obtain ⟨left, entered, leftPossible, session, -, restorative⟩ :=
    enterRestore_possible possible' unrestored now
  simp only [entered, unrestored, if_false]
  refine Alone.seq (persist_conducts later.coherent leftPossible) fun result after known => ?_
  exact Alone.ret_iff.mpr ⟨later.trans known.1, known.1.possible leftPossible, session,
    fun _ => restorative⟩

/-! ## Rolling back -/

/-- A session whose apply can fail. -/
def Rollable (state : SessionState) : Prop :=
  state = .applying ∨ state = .active

theorem enterRollback_possible {log : List Entry} {record : SessionRecord}
    (possible : Possible log record) (rollable : Rollable record.session.state)
    (now : Timestamp) :
    Possible log (enterRollback record now) ∧
      (enterRollback record now).operations = record.operations ∧
      Restorative (enterRollback record now).session.state := by
  unfold enterRollback
  rcases rollable with state | state
  · have legal : record.session.state.canTransition .rollingBack = true := by rw [state]; rfl
    have reason : SessionRecord.GoodReason "apply failure triggered reverse rollback" := by decide
    simp only [state, SessionRecord.transition_of_legal reason legal]
    exact ⟨possible.move now _ reason legal (by simp), rfl, .inr rfl⟩
  · have legal : record.session.state.canTransition .restoring = true := by rw [state]; rfl
    have reason : SessionRecord.GoodReason "apply durability failure triggered normal restore" := by
      decide
    simp only [state, SessionRecord.transition_of_legal reason legal]
    exact ⟨possible.move now _ reason legal (by simp), rfl, .inl rfl⟩

section Apply

variable {engine : EngineId} {world : World} {sessionId : SessionId} {record : SessionRecord}
  {error : SysboostError}

theorem rollbackResult_eq_error (trigger : SysboostError) (sessionId : SessionId)
    (result : Except SysboostError SessionState) :
    ∃ error, rollbackResult trigger sessionId result = .error error := by
  rcases result with error | state
  · exact ⟨_, rfl⟩
  · cases state <;> exact ⟨_, rfl⟩

theorem startRollback_conducts (coherent : Coherent world) (possible : Possible world.log record)
    (rollable : Rollable record.session.state) :
    Conducts engine (fun entered after => Later world after ∧ Possible after.log entered ∧
      Restorative entered.session.state) (startRollback record true) world := by
  refine Alone.seq (now_conducts coherent) fun result after later => ?_
  obtain ⟨entered, -, restorative⟩ := enterRollback_possible (later.possible possible) rollable
    (result.toOption.getD (.fromUnixMillis 0))
  exact Alone.ret_iff.mpr ⟨later, entered, restorative⟩

theorem persistRollback_conducts (coherent : Coherent world)
    (possible : Possible world.log record) (restorative : Restorative record.session.state) :
    Conducts engine (fun left after => Later world after ∧ Possible after.log left ∧
      Restorative left.session.state) (persistRollback record) world := by
  refine Alone.seq (persist_conducts coherent possible) fun result after known => ?_
  obtain ⟨later, outcome⟩ := known
  rcases result with error | done
  · exact Alone.ret_iff.mpr
      ⟨later, (later.possible possible).edit (.failure outcome), restorative⟩
  · exact Alone.ret_iff.mpr ⟨later, later.possible possible, restorative⟩

/-- A rollback ends in an error. -/
theorem rollbackAfterFailure_conducts (coherent : Coherent world)
    (possible : Possible world.log record) (rollable : Rollable record.session.state) :
    Conducts engine (fun result after => Later world after ∧ ∃ error, result = .error error)
      (rollbackAfterFailure record error true) world := by
  refine Alone.seq (startRollback_conducts coherent possible rollable)
    fun entered started known => ?_
  obtain ⟨later, possible, restorative⟩ := known
  refine Alone.seq (persistRollback_conducts later.coherent possible restorative)
    fun left middle known => ?_
  obtain ⟨later', possible, restorative⟩ := known
  refine Alone.seq (restoreRecord_conducts later'.coherent possible restorative)
    fun result final known => ?_
  exact Alone.ret_iff.mpr ⟨later.trans (later'.trans known.1), rollbackResult_eq_error _ _ _⟩

/-! ## Applying -/

/-- An operation that `apply` has finished or not begun. -/
def Ready (operation : OperationRecord) : Prop :=
  operation.state = .verified ∨ operation.state = .intentRecorded

/-- What the loop of `apply` keeps. -/
structure Applying (sessionId : SessionId) (world : World) (record : SessionRecord) : Prop where
  coherent : Coherent world
  possible : Possible world.log record
  session : record.sessionId = sessionId
  applying : record.session.state = .applying
  ready : ∀ operation ∈ record.operations, Ready operation

/-- How an iteration of the loop may end. -/
def StepGood (sessionId : SessionId) (world : World) : Step → Prop
  | .next record => Applying sessionId world record
  | .done result => Coherent world ∧ ∃ error, result = .error error

theorem stepRollback_conducts (coherent : Coherent world) (possible : Possible world.log record)
    (applying : record.session.state = .applying) :
    Conducts engine (fun step after => StepGood sessionId after step)
      (Step.rollback record error) world :=
  Alone.seq (rollbackAfterFailure_conducts coherent possible (.inl applying))
    fun _ _ known => Alone.ret_iff.mpr ⟨known.1.coherent, known.2⟩

theorem stepFail_conducts (coherent : Coherent world) (possible : Possible world.log record)
    (applying : record.session.state = .applying) (reported : Reported world.log error) :
    Conducts engine (fun step after => StepGood sessionId after step) (Step.fail record error)
      world :=
  stepRollback_conducts coherent (possible.edit (.failure reported)) applying

theorem persistOrRollback_conducts {stage : Stage} {next : Engine Step}
    (coherent : Coherent world) (possible : Possible world.log record)
    (applying : record.session.state = .applying)
    (rest : ∀ after, Later world after → Written after.log record →
      Conducts engine (fun step final => StepGood sessionId final step) next after) :
    Conducts engine (fun step after => StepGood sessionId after step)
      (persistOrRollback record stage next) world := by
  refine Alone.seq (persist_conducts coherent possible) fun result after known => ?_
  obtain ⟨later, outcome⟩ := known
  rcases result with error | done
  · exact stepFail_conducts later.coherent (later.possible possible) applying outcome
  · exact rest after later outcome

section Operation

variable {front back : List OperationRecord} {operation : OperationRecord} {snapshot : Snapshot}
  {receipt : ApplyReceipt}

theorem persistAndRollback_conducts {stage : Stage} (coherent : Coherent world)
    (possible : Possible world.log record) (applying : record.session.state = .applying) :
    Conducts engine (fun step after => StepGood sessionId after step)
      (persistAndRollback record stage error) world :=
  Alone.seq (persist_conducts coherent possible) fun _ _ known =>
    stepRollback_conducts known.1.coherent (known.1.possible possible) applying

/-- `fail_operation` takes a legal step of the operation and records the failure. -/
theorem failOperation_possible {log : List Entry} (possible : Possible log record)
    (busy : Busy record.session.state) (finds : record.Finds front operation back)
    (step : OperationStep log record.sessionId operation
      { operation with failure := some (.fromError error), state := .failed })
    (legal : operation.state = .failed ∨ operation.state.canTransition .failed = true)
    (reported : Reported log error) :
    Possible log (record.failOperation operation.mutation.mutationId error).2 ∧
      (record.failOperation operation.mutation.mutationId error).2.session = record.session := by
  have edited := (possible.edit (.operation busy finds.split step)).edit (.failure reported)
  unfold SessionRecord.failOperation
  by_cases failed : operation.state = .failed
  · rw [finds.failTo_again failed]
    rw [← failed] at edited
    exact ⟨edited, rfl⟩
  · rw [finds.failTo (legal.resolve_left failed) failed]
    exact ⟨edited, rfl⟩

theorem refuseVerification_conducts {verification : VerificationResult}
    (coherent : Coherent world) (possible : Possible world.log record)
    (applying : record.session.state = .applying)
    (finds : record.Finds front operation back) (applied : operation.state = .applied)
    (has : operation.applyReceipt = some receipt)
    (own : verification.mutationId = operation.mutation.mutationId)
    (expected : verification.expected = receipt.ownershipFingerprint)
    (refused : verification.observed ≠ some receipt.ownershipFingerprint)
    (unmatched : verification.matched = false) (reported : Reported world.log error) :
    Conducts engine (fun step after => StepGood sessionId after step)
      (refuseVerification record operation.mutation.mutationId verification error) world := by
  have busy : Busy record.session.state := .inl applying
  have matched : verification.matched =
      decide (verification.observed = some verification.expected) := by
    simp [unmatched, expected, refused]
  have recorded := possible.edit
    (.operation busy finds.split (.verify applied has own expected matched))
  unfold refuseVerification
  rw [finds.recordVerification own applied]
  simp only [unmatched, Bool.false_eq_true, if_false] at recorded ⊢
  obtain ⟨failed, session⟩ := failOperation_possible recorded busy (finds.place rfl)
    (.annotate rfl reported) (.inl rfl) reported
  exact persistAndRollback_conducts coherent failed ((congrArg Session.state session).trans applying)

theorem verifyApplied_conducts (coherent : Coherent world) (possible : Possible world.log record)
    (session : record.sessionId = sessionId) (applying : record.session.state = .applying)
    (finds : record.Finds front operation back) (applied : operation.state = .applied)
    (has : operation.applyReceipt = some receipt)
    (ready : ∀ other ∈ front ++ back, Ready other) :
    Conducts engine (fun step after => StepGood sessionId after step)
      (verifyApplied sessionId record operation.mutation snapshot receipt) world := by
  have busy : Busy record.session.state := .inl applying
  unfold verifyApplied
  refine Alone.seq (conducts_port coherent trivial (by simp)) fun answer after known => ?_
  obtain ⟨later, law⟩ := known
  obtain ⟨changed, -, log⟩ := law.log
  have possible' := later.possible possible
  rcases answer with failure | observed
  · exact refuseVerification_conducts later.coherent possible' applying finds applied has rfl rfl
      (by simp) rfl (reported_contextual log rfl)
  by_cases matched : observed = receipt.ownershipFingerprint
  · have recorded := possible'.edit (.operation busy finds.split (.verify applied has
      (show (VerificationResult.mk operation.mutation.mutationId receipt.ownershipFingerprint
        (some observed) true).mutationId = _ from rfl) rfl (by simp [matched])))
    simp only [matched, decide_true, Bool.not_true, Bool.false_eq_true, if_false]
    rw [finds.recordVerification rfl applied]
    simp only [if_true, matched] at recorded ⊢
    refine persistOrRollback_conducts later.coherent recorded applying fun final later' _ => ?_
    refine Alone.ret_iff.mpr
      ⟨later'.coherent, later'.possible recorded, session, applying, fun other member => ?_⟩
    rcases List.mem_append.mp member with member | member
    · exact ready other (by simp [member])
    rcases List.mem_cons.mp member with rfl | member
    · exact .inl rfl
    · exact ready other (by simp [member])
  · simp only [matched, decide_false, Bool.not_false, if_true]
    refine refuseVerification_conducts later.coherent possible' applying finds applied has rfl rfl
      (by simpa using matched) rfl (reported_operationError ?_)
    decide

theorem intends_of_finds (possible : Possible world.log record)
    (session : record.sessionId = sessionId) (applying : record.session.state = .applying)
    (finds : record.Finds front operation back) (begun : operation.state = .applying)
    (has : operation.snapshot = some snapshot) (ready : ∀ other ∈ front ++ back, Ready other)
    (written : Written world.log record)
    (unapplied : Unapplied world.log sessionId operation.mutation) :
    Intends world.log sessionId operation.mutation snapshot record := by
  refine ⟨written, possible, session, applying, unapplied, operation, by simp [finds.split], rfl,
    has, begun, fun other member state => ?_⟩
  rw [finds.split] at member
  have idle (member : other ∈ front ++ back) : other = operation := by
    rcases ready other member with verified | intended
    · simp [state] at verified
    · simp [state] at intended
  rcases List.mem_append.mp member with member | member
  · exact idle (by simp [member])
  rcases List.mem_cons.mp member with rfl | member
  · rfl
  · exact idle (by simp [member])

theorem applyIntended_conducts (coherent : Coherent world)
    (intends : Intends world.log sessionId operation.mutation snapshot record)
    (finds : record.Finds front operation back) (begun : operation.state = .applying)
    (has : operation.snapshot = some snapshot)
    (ready : ∀ other ∈ front ++ back, Ready other) :
    Conducts engine (fun step after => StepGood sessionId after step)
      (applyIntended sessionId record operation.mutation snapshot) world := by
  have busy : Busy record.session.state := .inl intends.applying
  have session := intends.session
  have legal : operation.state.canTransition .failed = true := by rw [begun]; rfl
  unfold applyIntended
  refine Alone.perform_bind_iff.mpr ⟨⟨coherent, record, intends⟩, fun answer after law => ?_⟩
  have coherent' := law.coherent coherent ⟨record, intends⟩
  obtain ⟨changed, applyLaw, log⟩ := law.log
  have possible' : Possible after.log record := by
    rw [log]
    refine intends.possible.grow fun mutation original isApply => ?_
    obtain ⟨-, rfl, rfl⟩ := Entry.IsApply.inj ⟨engine, answer, changed, rfl⟩ isApply
    exact ⟨session ▸ intends.unapplied, operation, by simp [finds.split], rfl, has, begun⟩
  rcases answer with failure | receipt
  · have reported : Reported after.log (contextual failure .apply (some sessionId)
        (some operation.mutation.mutationId)) := reported_contextual log rfl
    by_cases known : failure.retryability = .unknown
    · simp only [contextual_retryability, known, ne_eq, not_true_eq_false, if_false]
      exact persistAndRollback_conducts coherent' (possible'.edit (.failure reported))
        intends.applying
    · simp only [contextual_retryability, known, ne_eq, not_false_eq_true, if_true]
      have failed : ∀ entry ∈ after.log, ∀ original,
          entry.IsApply record.sessionId operation.mutation original →
            entry.ReportedFailure := by
        intro entry member original isApply
        rw [log] at member
        rcases List.mem_cons.mp member with rfl | member
        · exact ⟨known, applyLaw known⟩
        · exact absurd isApply (session ▸ intends.unapplied entry member original)
      obtain ⟨rejected, same⟩ := failOperation_possible possible' busy finds
        (.reject begun failed reported) (.inr legal) reported
      exact persistAndRollback_conducts coherent' rejected
        ((congrArg Session.state same).trans intends.applying)
  by_cases own : receipt.mutationId = operation.mutation.mutationId
  · have received : Received after.log record.sessionId operation.mutation receipt :=
      ⟨engine, snapshot, changed, by simp [log, session]⟩
    have recorded := possible'.edit (.operation busy finds.split (.receive begun own received))
    by_cases unbound : receipt.mutationId ≠ operation.mutation.mutationId ∨
        receipt.observedPrecondition ≠ operation.mutation.precondition ∨
        receipt.observedPostcondition ≠ receipt.ownershipFingerprint
    · simp only [unbound, if_true, finds.recordApply own begun]
      have reported : Reported after.log (operationError .applyError
          "backend apply receipt failed its typed identity or precondition checks" .apply
          sessionId operation.mutation.mutationId) := reported_operationError (by decide)
      obtain ⟨refused, same⟩ := failOperation_possible recorded busy (finds.place rfl)
        (.refuse rfl reported) (.inr rfl) reported
      exact persistAndRollback_conducts coherent' refused
        ((congrArg Session.state same).trans intends.applying)
    · simp only [unbound, if_false, finds.recordApply own begun]
      refine persistOrRollback_conducts coherent' recorded intends.applying
        fun final later _ => ?_
      have placed : SessionRecord.Finds _ front
          { operation with applyReceipt := some receipt, state := .applied } back :=
        finds.place rfl
      show Conducts engine _ (verifyApplied sessionId _ ({ operation with
        applyReceipt := some receipt, state := .applied } : OperationRecord).mutation snapshot
        receipt) final
      exact verifyApplied_conducts later.coherent (later.possible recorded) session
        intends.applying placed rfl rfl ready
  · obtain ⟨left, foreign⟩ := finds.recordApply_foreign own
    simp only [own, ne_eq, not_false_eq_true, true_or, if_true, foreign]
    exact Alone.ret_iff.mpr ⟨coherent', _, rfl⟩

end Operation

theorem applyOperation_conducts (index : Nat) (good : Applying sessionId world record) :
    Conducts engine (fun step after => StepGood sessionId after step)
      (applyOperation sessionId record index) world := by
  unfold applyOperation
  rcases found : record.operations[index]? with _ | operation
  · exact Alone.ret_iff.mpr good
  obtain ⟨front, back, split, rfl⟩ := split_of_getElem? found
  have finds := good.possible.finds split
  have member : operation ∈ record.operations := by simp [split]
  rcases good.ready operation member with verified | intended
  · simp only [verified, true_or, if_true]
    exact Alone.ret_iff.mpr good
  obtain ⟨snapshot, has, -⟩ := (good.possible.formed operation member).snapshot
  have legal : operation.state.canTransition .applying = true := by rw [intended]; rfl
  have begun := good.possible.edit (.operation (.inl good.applying) split (.begin intended))
  simp only [intended, reduceCtorEq, or_self, if_false, ne_eq, not_true_eq_false,
    OperationRecord.transition_of_legal legal, finds.set]
  refine persistOrRollback_conducts good.coherent begun good.applying
    fun after later written => ?_
  have ready : ∀ other ∈ front ++ back, Ready other := fun other present =>
    good.ready other (by
      rw [split]
      rcases List.mem_append.mp present with present | present <;> simp [present])
  have placed : SessionRecord.Finds _ front { operation with state := .applying } back :=
    finds.place rfl
  have unapplied := good.possible.tracks.untouched operation member intended
  rw [good.session] at unapplied
  split
  · rename_i missing
    simp [missing] at has
  · rename_i captured held
    have intends := intends_of_finds (later.possible begun) good.session good.applying placed rfl
      held ready written (later.unapplied unapplied)
    show Conducts engine _ (applyIntended sessionId _
      ({ operation with state := .applying } : OperationRecord).mutation captured) after
    exact applyIntended_conducts later.coherent intends placed rfl held ready

/-- The result of `apply` past its checks is never a restored session. -/
theorem applyOperations_conducts (indices : List Nat) (good : Applying sessionId world record) :
    Conducts engine (fun result after => Coherent after ∧ result ≠ .ok .restored)
      (applyOperations sessionId record indices) world := by
  induction indices generalizing world record with
  | nil =>
      refine Alone.seq (now_conducts good.coherent) fun result after later => ?_
      rcases result with error | now
      · exact Alone.ret_iff.mpr ⟨later.coherent, by simp⟩
      have legal : record.session.state.canTransition .active = true := by
        rw [good.applying]; rfl
      have reason : SessionRecord.GoodReason "all ordered applies and readbacks verified" := by
        decide
      have moved := (later.possible good.possible).move now _ reason legal (by simp)
      simp only [SessionRecord.transition_of_legal reason legal]
      refine Alone.seq (persist_conducts later.coherent moved) fun result final known => ?_
      rcases result with error | done
      · have recorded := (known.1.possible moved).edit (.failure known.2)
        refine (rollbackAfterFailure_conducts known.1.coherent recorded (.inr rfl)).mono
          fun result last known => ⟨known.1.coherent, ?_⟩
        obtain ⟨failure, rfl⟩ := known.2
        simp
      · exact Alone.ret_iff.mpr ⟨known.1.coherent, by simp⟩
  | cons index rest ih =>
      refine Alone.seq (applyOperation_conducts index good) fun step after known => ?_
      cases step with
      | next record => exact ih known
      | done result =>
          obtain ⟨coherent, error, rfl⟩ := known
          exact Alone.ret_iff.mpr ⟨coherent, by simp⟩

end Apply

end Sysboost.Platform
