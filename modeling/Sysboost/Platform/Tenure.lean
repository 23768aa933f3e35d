import Sysboost.Platform.Handoff

/-!
# The tenure of a session

Until its last calls an engine that applies or restores a session only replaces
the record of that session; it keeps its lease, and then gives it up at most
once.  Once it has written the session as restored it replaces the record no
more.  `Tenure` lists what such a program needs to know of the world, and one
lemma per function follows the program through all answers.
-/

namespace Sysboost.Platform

open Sysboost.Core Interaction

/-! ## Calls that keep a lease -/

/-- Calls that leave the lease, the lock and the records of other sessions alone
and do not write the session as restored. -/
def Call.Tame (sessionId : SessionId) : Call → Prop
  | .replace record => record.sessionId = sessionId ∧ record.session.state ≠ .restored
  | .hold _ | .release | .acquire | .dropGuard | .create _ | .remove _ => False
  | _ => True

/-- Calls about an outline leave other sessions alone. -/
theorem Call.Concerns.tame {outline : Outline} {call : Call} (concerns : call.Concerns outline) :
    call.Tame outline.sessionId := by
  cases call with
  | replace record =>
      have draft : record.Drafts outline := concerns
      exact ⟨congrArg Outline.sessionId draft.follows, draft.unrestored⟩
  | apply sessionId mutation taken => trivial
  | restore sessionId mutation taken ownership => trivial
  | now => trivial
  | active => trivial
  | verify sessionId stage mutation expected identity => trivial
  | _ => exact concerns.elim

/-! ## The tenure -/

/-- What a program that serves a session knows of the world: nothing is changed
while it is idle; it loads the record under its lease, makes tame calls while
the session is held, and may write any record of the session before it makes no
more of them; and afterwards the lease is gone. -/
structure Tenure (env : Environment Answer World) (rely : World → World → Prop)
    (guard : World → Call → Prop) (sessionId : SessionId) (lease : Option SessionId) where
  idle : World → Prop
  leased : World → Prop
  held : World → Prop
  ended : World → Prop
  refl : ∀ world, rely world world
  idle_stable : ∀ {before after}, rely before after → idle before → idle after
  leased_stable : ∀ {before after}, rely before after → leased before → leased after
  held_stable : ∀ {before after}, rely before after → held before → held after
  ended_stable : ∀ {before after}, rely before after → ended before → ended after
  idle_active : ∀ {world}, idle world → guard world .active ∧ ∀ answer after,
    env world .active answer after → answer = lease ∧ idle after
  idle_load : ∀ {world}, idle world → guard world (.load sessionId) ∧ ∀ answer after,
    env world (.load sessionId) answer after → idle after
  enter : ∀ {world}, idle world → lease = some sessionId → leased world
  leased_active : ∀ {world}, leased world → guard world .active ∧ ∀ answer after,
    env world .active answer after → answer = lease ∧ leased after
  leased_load : ∀ {world}, leased world → guard world (.load sessionId) ∧ ∀ answer after,
    env world (.load sessionId) answer after → leased after ∧ ∀ record, answer = .ok record →
      record.sessionId = sessionId ∧ (record.session.state ≠ .restored → held after)
  held_leased : ∀ {world}, held world → leased world
  held_tame : ∀ {world request}, held world → request.Tame sessionId →
    guard world request ∧ ∀ answer after, env world request answer after → held after
  finish : ∀ {world record}, held world → record.sessionId = sessionId →
    guard world (.replace record) ∧ ∀ answer after,
      env world (.replace record) answer after → leased after
  release : ∀ {world}, leased world → lease = some sessionId → guard world .release ∧
    ∀ answer after, env world .release answer after → ended after
  ended_active : ∀ {world}, ended world → guard world .active ∧ ∀ answer after,
    env world .active answer after → answer = none ∧ ended after

namespace Tenure

variable {env : Environment Answer World} {rely : World → World → Prop}
  {guard : World → Call → Prop} {sessionId : SessionId} {lease : Option SessionId}
  (tenure : Tenure env rely guard sessionId lease)

/-- The lease is still there, or it has been given up. -/
def Over (world : World) : Prop :=
  tenure.leased world ∨ lease = some sessionId ∧ tenure.ended world

theorem over_stable {before after : World} (step : rely before after)
    (past : tenure.Over before) : tenure.Over after := by
  rcases past with leased | ⟨own, ended⟩
  · exact .inl (tenure.leased_stable step leased)
  · exact .inr ⟨own, tenure.ended_stable step ended⟩

theorem ret_over {α : Type} {value : α} {world : World} (past : tenure.Over world) :
    Safe env rely guard (fun _ after => tenure.Over after) (.ret value : Engine α) world :=
  Safe.ret tenure.over_stable past fun _ past => past

/-- A program that stops while the session is held. -/
theorem ret_held {α : Type} {value : α} {world : World} (held : tenure.held world) :
    Safe env rely guard (fun _ after => tenure.Over after) (.ret value : Engine α) world :=
  tenure.ret_over (.inl (tenure.held_leased held))

theorem releaseIfRestored_safe {world : World} (past : tenure.Over world) :
    Safe env rely guard (fun _ after => tenure.Over after) (releaseIfRestored sessionId)
      world := by
  refine Safe.perform_bind tenure.over_stable past fun later past => ?_
  rcases past with leased | ⟨own, ended⟩
  · obtain ⟨guarded, keeps⟩ := tenure.leased_active leased
    refine ⟨guarded, fun answer after law => ?_⟩
    obtain ⟨answered, leased⟩ := keeps answer after law
    rcases answer with _ | active
    · exact tenure.ret_over (.inl leased)
    by_cases same : active = sessionId
    · have own : lease = some sessionId := by rw [← answered, same]
      simp only [same, if_true]
      refine Safe.perform tenure.leased_stable leased fun last leased => ?_
      obtain ⟨guarded, ends⟩ := tenure.release leased own
      exact ⟨guarded, fun answer after law =>
        tenure.ret_over (.inr ⟨own, ends answer after law⟩)⟩
    · simp only [same, if_false]
      exact tenure.ret_over (.inl leased)
  · obtain ⟨guarded, keeps⟩ := tenure.ended_active ended
    refine ⟨guarded, fun answer after law => ?_⟩
    obtain ⟨rfl, ended⟩ := keeps answer after law
    exact tenure.ret_over (.inr ⟨own, ended⟩)

section Outline

variable {outline : Outline} (mine : outline.sessionId = sessionId)

include mine

/-- A program that handles the session keeps it. -/
theorem handles {α : Type} {post : α → Prop} {program : Engine α} {world : World}
    (handles : Handles outline post program) (held : tenure.held world) :
    Safe env rely guard (fun value after => post value ∧ tenure.held after) program world := by
  refine Within.safe ?_ ?_ handles held
  · exact fun step held => tenure.held_stable step held
  · exact fun held concerns => tenure.held_tame held (mine ▸ concerns.tame)

/-! ### Restoring -/

/-- The last record of the session. -/
theorem persist_safe {record : SessionRecord} {world : World} (own : record.outline = outline)
    (held : tenure.held world) (stage : Stage) :
    Safe env rely guard (fun _ after => tenure.leased after) (persist record stage).run world := by
  have own' : record.sessionId = sessionId := (congrArg Outline.sessionId own).trans mine
  refine Safe.perform_bind tenure.held_stable held fun later held => ?_
  obtain ⟨guarded, keeps⟩ := tenure.finish held own'
  exact ⟨guarded, fun answer after law =>
    Safe.ret tenure.leased_stable (keeps answer after law) fun _ leased => leased⟩

theorem finishRestore_safe {pass : RestorePass} {world : World} (draft : pass.Drafts outline)
    (held : tenure.held world) (at_ : Timestamp) :
    Safe env rely guard (fun _ after => tenure.Over after) (finishRestore sessionId pass at_)
      world := by
  unfold finishRestore
  split
  · dsimp only
    split
    · exact tenure.ret_held held
    next record proven =>
      refine Safe.seq tenure.refl
        (tenure.persist_safe mine (proven_outline draft proven) held .restore)
        fun result after leased => ?_
      rcases result with error | done
      · exact tenure.ret_over (.inl leased)
      · exact Safe.seq tenure.refl (tenure.releaseIfRestored_safe (.inl leased))
          fun _ after past => tenure.ret_over past
  · split
    · exact tenure.ret_held held
    next record degraded =>
      have draft' := (degrade_drafts draft at_).of_eq degraded
      exact Safe.seq tenure.refl (tenure.handles mine (persist_handles draft' .recovery) held)
        fun result after kept => tenure.ret_held kept.2

theorem restoreRecord_safe {record : SessionRecord} {world : World}
    (draft : record.Drafts outline) (held : tenure.held world) :
    Safe env rely guard (fun _ after => tenure.Over after) (restoreRecord record) world := by
  have own : record.sessionId = sessionId := (congrArg Outline.sessionId draft.follows).trans mine
  subst own
  refine Safe.seq tenure.refl (tenure.handles mine (now_handles .restore) held)
    fun _ after kept => ?_
  have draft' : RestorePass.Drafts outline ⟨record, [], false⟩ := draft
  exact Safe.seq tenure.refl (tenure.handles mine (restoreOperations_handles draft' _ _) kept.2)
    fun pass last kept => tenure.finishRestore_safe mine kept.1 kept.2 _

theorem rollbackAfterFailure_safe {record : SessionRecord} {world : World}
    (draft : record.Drafts outline) (held : tenure.held world) (trigger : SysboostError)
    (fromApply : Bool) :
    Safe env rely guard (fun _ after => tenure.Over after)
      (rollbackAfterFailure record trigger fromApply) world := by
  refine Safe.seq tenure.refl (tenure.handles mine (startRollback_handles draft fromApply) held)
    fun entered after kept => ?_
  refine Safe.seq tenure.refl (tenure.handles mine (persistRollback_handles kept.1) kept.2)
    fun left after kept => ?_
  exact Safe.seq tenure.refl (tenure.restoreRecord_safe mine kept.1 kept.2)
    fun result after past => tenure.ret_over past

/-! ### Applying -/

/-- How an iteration of the apply loop leaves the world. -/
def Continues (outline : Outline) (step : Step) (world : World) : Prop :=
  match step with
  | .next record => record.Drafts outline ∧ tenure.held world
  | .done _ => tenure.Over world

variable {record : SessionRecord} {world : World}

omit mine in
theorem done_safe {result : Except SysboostError SessionState} (past : tenure.Over world) :
    Safe env rely guard (tenure.Continues outline) (.ret (.done result)) world :=
  Safe.ret tenure.over_stable past fun _ past => past

omit mine in
theorem abort_safe {result : Except SysboostError SessionState} (held : tenure.held world) :
    Safe env rely guard (tenure.Continues outline) (.ret (.done result)) world :=
  tenure.done_safe (.inl (tenure.held_leased held))

omit mine in
theorem next_safe (draft : record.Drafts outline) (held : tenure.held world) :
    Safe env rely guard (tenure.Continues outline) (.ret (.next record)) world :=
  Safe.ret tenure.held_stable held fun _ held => ⟨draft, held⟩

theorem rollback_safe (draft : record.Drafts outline) (held : tenure.held world)
    (error : SysboostError) :
    Safe env rely guard (tenure.Continues outline) (Step.rollback record error) world :=
  Safe.seq tenure.refl (tenure.rollbackAfterFailure_safe mine draft held error true)
    fun _ _ past => tenure.done_safe past

theorem fail_safe (draft : record.Drafts outline) (held : tenure.held world)
    (error : SysboostError) :
    Safe env rely guard (tenure.Continues outline) (Step.fail record error) world :=
  tenure.rollback_safe mine (draft.recordFailure error) held error

theorem persistOrRollback_safe (draft : record.Drafts outline) (held : tenure.held world)
    (stage : Stage) {next : Engine Step}
    (goesOn : ∀ after, tenure.held after →
      Safe env rely guard (tenure.Continues outline) next after) :
    Safe env rely guard (tenure.Continues outline) (persistOrRollback record stage next)
      world := by
  refine Safe.seq tenure.refl (tenure.handles mine (persist_handles draft stage) held)
    fun result after kept => ?_
  rcases result with error | done
  · exact tenure.fail_safe mine draft kept.2 error
  · exact goesOn after kept.2

theorem persistAndRollback_safe (draft : record.Drafts outline) (held : tenure.held world)
    (stage : Stage) (error : SysboostError) :
    Safe env rely guard (tenure.Continues outline) (persistAndRollback record stage error)
      world :=
  Safe.seq tenure.refl (tenure.handles mine (persist_handles draft stage) held)
    fun _ _ kept => tenure.rollback_safe mine draft kept.2 error

theorem refuseVerification_safe (draft : record.Drafts outline) (held : tenure.held world)
    (mutationId : MutationId) (verification : VerificationResult) (error : SysboostError) :
    Safe env rely guard (tenure.Continues outline)
      (refuseVerification record mutationId verification error) world := by
  unfold refuseVerification
  split
  · exact tenure.abort_safe held
  next left recorded =>
    have draft' := (draft.recordVerification mutationId verification).of_eq recorded
    exact tenure.persistAndRollback_safe mine (draft'.failOperation _ _) held _ _

theorem verifyApplied_safe (draft : record.Drafts outline) (held : tenure.held world)
    (mutation : PlannedMutation) (snapshot : Snapshot) (receipt : ApplyReceipt) :
    Safe env rely guard (tenure.Continues outline)
      (verifyApplied sessionId record mutation snapshot receipt) world := by
  refine Safe.perform_bind tenure.held_stable held fun later held => ?_
  have tame : Call.Tame sessionId (.verify sessionId .verify mutation
      receipt.ownershipFingerprint snapshot.targetIdentity) := trivial
  obtain ⟨guarded, keeps⟩ := tenure.held_tame held tame
  refine ⟨guarded, fun answer after law => ?_⟩
  have held := keeps answer after law
  rcases answer with error | observed
  · exact tenure.refuseVerification_safe mine draft held _ _ _
  dsimp only
  split
  · exact tenure.refuseVerification_safe mine draft held _ _ _
  split
  · exact tenure.abort_safe held
  next left recorded =>
    have draft' := (draft.recordVerification _ _).of_eq recorded
    exact tenure.persistOrRollback_safe mine draft' held _ fun after held =>
      tenure.next_safe draft' held

theorem applyIntended_safe (draft : record.Drafts outline) (held : tenure.held world)
    (mutation : PlannedMutation) (snapshot : Snapshot) :
    Safe env rely guard (tenure.Continues outline)
      (applyIntended sessionId record mutation snapshot) world := by
  refine Safe.perform_bind tenure.held_stable held fun later held => ?_
  have tame : Call.Tame sessionId (.apply sessionId mutation snapshot) := trivial
  obtain ⟨guarded, keeps⟩ := tenure.held_tame held tame
  refine ⟨guarded, fun answer after law => ?_⟩
  have held := keeps answer after law
  rcases answer with error | receipt
  · dsimp only
    split
    · exact tenure.persistAndRollback_safe mine (draft.failOperation _ _) held _ _
    · exact tenure.persistAndRollback_safe mine (draft.recordFailure _) held _ _
  have recorded := draft.recordApply mutation.mutationId receipt
  dsimp only
  split
  · split
    · exact tenure.abort_safe held
    next left same =>
      exact tenure.persistAndRollback_safe mine ((recorded.of_eq same).failOperation _ _) held _ _
  · split
    · exact tenure.abort_safe held
    next left same =>
      have draft' := recorded.of_eq same
      exact tenure.persistOrRollback_safe mine draft' held _ fun after held =>
        tenure.verifyApplied_safe mine draft' held _ _ _

theorem applyOperation_safe (draft : record.Drafts outline) (held : tenure.held world)
    (index : Nat) :
    Safe env rely guard (tenure.Continues outline) (applyOperation sessionId record index)
      world := by
  unfold applyOperation
  split
  · exact tenure.next_safe draft held
  next operation found =>
    dsimp only
    split
    · exact tenure.next_safe draft held
    split
    · exact tenure.fail_safe mine draft held _
    split
    · exact tenure.fail_safe mine draft held _
    split
    · exact tenure.abort_safe held
    next applying begun =>
      have draft' : SessionRecord.Drafts outline
          { record with operations := record.operations.set index applying } := by
        have moved : (operation.transition .applying).2 = applying := congrArg Prod.snd begun
        rw [← moved]
        exact draft.set found
      refine tenure.persistOrRollback_safe mine draft' held _ fun after held => ?_
      split
      · exact tenure.abort_safe held
      · exact tenure.applyIntended_safe mine draft' held _ _

theorem applyOperations_safe (draft : record.Drafts outline) (held : tenure.held world)
    (indices : List Nat) :
    Safe env rely guard (fun _ after => tenure.Over after)
      (applyOperations sessionId record indices) world := by
  induction indices generalizing record world with
  | nil =>
      refine Safe.seq tenure.refl (tenure.handles mine (now_handles .verify) held)
        fun result after kept => ?_
      rcases result with error | now
      · exact tenure.ret_held kept.2
      dsimp only
      split
      · exact tenure.ret_held kept.2
      next left moved =>
        have draft' := (draft.transition (by decide) _ _).of_eq moved
        refine Safe.seq tenure.refl (tenure.handles mine (persist_handles draft' .verify) kept.2)
          fun result after kept => ?_
        rcases result with error | done
        · exact tenure.rollbackAfterFailure_safe mine (draft'.recordFailure error) kept.2 error true
        · exact tenure.ret_held kept.2
  | cons index rest ih =>
      refine Safe.seq tenure.refl (tenure.applyOperation_safe mine draft held index)
        fun step after continues => ?_
      rcases step with left | result
      · exact ih continues.1 continues.2
      · exact tenure.ret_over continues

end Outline

/-! ### After a restart -/

theorem recoverOne_safe {record : SessionRecord} {world : World} {recovery : Recovery}
    (own : record.sessionId = sessionId) (unrestored : record.session.state ≠ .restored)
    (held : tenure.held world) :
    Safe env rely guard (fun left after => tenure.Over after ∧
        ∃ state, left.statuses = recovery.statuses ++ [⟨sessionId, state⟩])
      (recoverOne recovery record) world := by
  have ends {left : Recovery} {after : World} (past : tenure.Over after)
      (status : ∃ state, left.statuses = recovery.statuses ++ [⟨sessionId, state⟩]) :
      Safe env rely guard (fun left after => tenure.Over after ∧
        ∃ state, left.statuses = recovery.statuses ++ [⟨sessionId, state⟩])
        (.ret left : Engine Recovery) after :=
    Safe.ret tenure.over_stable past fun _ past => ⟨past, status⟩
  have draft : record.Drafts record.outline := ⟨rfl, unrestored⟩
  subst own
  refine Safe.seq tenure.refl (tenure.handles rfl (prepareRestoreState_handles draft) held)
    fun result after kept => ?_
  obtain ⟨prepared, left⟩ := result
  rcases prepared with error | done
  · exact ends (.inl (tenure.held_leased kept.2)) ⟨_, rfl⟩
  refine Safe.seq tenure.refl (tenure.restoreRecord_safe rfl kept.1 kept.2)
    fun result after past => ?_
  obtain ⟨outcome, last⟩ := result
  rcases outcome with error | state
  · exact ends past ⟨_, rfl⟩
  · exact ends past ⟨_, rfl⟩

/-! ### The public operations of a session -/

/-- The operation did not touch the session, or it is over. -/
def Done (world : World) : Prop :=
  tenure.idle world ∨ tenure.Over world

theorem ret_done {α : Type} {value : α} {world : World} (done : tenure.Done world) :
    Safe env rely guard (fun _ after => tenure.Done after) (.ret value : Engine α) world := by
  have stable {before after : World} (step : rely before after) (done : tenure.Done before) :
      tenure.Done after := by
    rcases done with idle | past
    · exact .inl (tenure.idle_stable step idle)
    · exact .inr (tenure.over_stable step past)
  exact Safe.ret stable done fun _ done => done

theorem requireActive_safe {world : World} (idle : tenure.idle world) :
    Safe env rely guard (fun result after => tenure.idle after ∧
      (result = .ok () → lease = some sessionId)) (requireActive sessionId).run world := by
  have refused {error : SysboostError} {world : World} (idle : tenure.idle world) :
      Safe env rely guard (fun result after => tenure.idle after ∧
        (result = .ok () → lease = some sessionId))
        (.ret (.error error) : Engine (Except SysboostError Unit)) world :=
    Safe.ret tenure.idle_stable idle fun _ idle => ⟨idle, by simp⟩
  have read : Safe env rely guard (fun answer after => answer = lease ∧ tenure.idle after)
      (Prog.perform Call.active : Engine (Option SessionId)) world := by
    refine Safe.perform tenure.idle_stable idle fun later idle => ?_
    obtain ⟨guarded, keeps⟩ := tenure.idle_active idle
    refine ⟨guarded, fun answer after law => ?_⟩
    obtain ⟨answered, idle⟩ := keeps answer after law
    exact Safe.ret tenure.idle_stable idle fun _ idle => ⟨answered, idle⟩
  refine Safe.lift_seq tenure.refl read fun answer after known => ?_
  obtain ⟨answered, idle⟩ := known
  rcases answer with _ | active
  · exact refused idle
  by_cases same : active = sessionId
  · simp only [same, if_true]
    have own : lease = some sessionId := by rw [← answered, same]
    exact Safe.ret tenure.idle_stable idle fun _ idle => ⟨idle, fun _ => own⟩
  · simp only [same, if_false]
    exact refused idle

/-- A loaded record is of the session; unless it is restored, the session is held. -/
def Loads (result : Except SysboostError SessionRecord) (world : World) : Prop :=
  tenure.leased world ∧ ∀ record, result = .ok record → record.sessionId = sessionId ∧
    (record.session.state ≠ .restored → tenure.held world)

theorem loads_stable {result : Except SysboostError SessionRecord} {before after : World}
    (step : rely before after) (loads : tenure.Loads result before) :
    tenure.Loads result after := by
  obtain ⟨leased, loaded⟩ := loads
  refine ⟨tenure.leased_stable step leased, fun record same => ?_⟩
  obtain ⟨own, opens⟩ := loaded record same
  exact ⟨own, fun unrestored => tenure.held_stable step (opens unrestored)⟩

theorem loadActiveRecord_safe {world : World} (leased : tenure.leased world) :
    Safe env rely guard tenure.Loads (loadActiveRecord sessionId).run world := by
  refine Safe.perform_bind tenure.leased_stable leased fun later leased => ?_
  obtain ⟨guarded, keeps⟩ := tenure.leased_load leased
  refine ⟨guarded, fun answer after law => ?_⟩
  obtain ⟨leased, loaded⟩ := keeps answer after law
  refine Safe.ret tenure.loads_stable ⟨leased, ?_⟩ fun _ loads => loads
  rcases answer with error | stored
  · simp [Except.mapError]
  · rintro record ⟨⟩
    exact loaded _ rfl

/-- The part that `apply`, `restore` and `abort_prepared` share. -/
theorem active_safe {α : Type} {world : World} {next : SessionRecord → Fallible α}
    (idle : tenure.idle world)
    (serves : ∀ record after, record.sessionId = sessionId → lease = some sessionId →
      tenure.leased after → (record.session.state ≠ .restored → tenure.held after) →
        Safe env rely guard (fun _ last => tenure.Over last) (next record).run after) :
    Safe env rely guard (fun _ after => tenure.Done after) (do
      requireActive sessionId
      let record ← loadActiveRecord sessionId
      next record : Fallible α).run world := by
  refine Safe.run_seq tenure.refl (tenure.requireActive_safe idle)
    (fun _ _ known => tenure.ret_done (.inl known.1)) fun _ after known => ?_
  have mine := known.2 rfl
  have leased := tenure.enter known.1 mine
  refine Safe.run_seq tenure.refl (tenure.loadActiveRecord_safe leased)
    (fun _ _ known => tenure.ret_done (.inr (.inl known.1))) fun record after known => ?_
  obtain ⟨own, opens⟩ := known.2 record rfl
  exact Safe.mono (serves record after own mine known.1 opens) fun _ _ past => .inr past

theorem apply_safe {world : World} (idle : tenure.idle world) :
    Safe env rely guard (fun _ after => tenure.Done after) (apply sessionId).run world := by
  refine tenure.active_safe idle fun record after own _ leased opens => ?_
  split
  next state =>
    have draft : record.Drafts record.outline := ⟨rfl, by simp [state]⟩
    have mine : record.outline.sessionId = sessionId := own
    have held := opens draft.unrestored
    refine Safe.run_seq tenure.refl (tenure.handles mine (now_handles .apply) held)
      (fun _ _ kept => tenure.ret_held kept.2) fun now after kept => ?_
    split
    · exact tenure.ret_held kept.2
    next left moved =>
      have draft' := (draft.transition (by decide) _ _).of_eq moved
      refine Safe.lift_seq tenure.refl (tenure.handles own (persist_handles draft' .apply) kept.2)
        fun result after kept => ?_
      rcases result with error | done
      · exact tenure.rollbackAfterFailure_safe own (draft'.recordFailure error) kept.2 error true
      · exact tenure.applyOperations_safe own draft' kept.2 _
  · exact tenure.ret_over (.inl leased)
  · exact Safe.lift_seq tenure.refl (tenure.releaseIfRestored_safe (.inl leased))
      fun _ _ past => tenure.ret_over past
  · exact tenure.ret_over (.inl leased)

theorem restoreActive_safe {world : World} (idle : tenure.idle world) :
    Safe env rely guard (fun _ after => tenure.Done after) (restoreActive sessionId).run
      world := by
  refine tenure.active_safe idle fun record after own _ leased opens => ?_
  split
  · exact Safe.lift_seq tenure.refl (tenure.releaseIfRestored_safe (.inl leased))
      fun _ _ past => tenure.ret_over past
  next unrestored =>
    have draft : record.Drafts record.outline := ⟨rfl, unrestored⟩
    have held := opens unrestored
    refine Safe.lift_seq tenure.refl (tenure.handles own (prepareRestoreState_handles draft) held)
      fun result after kept => ?_
    obtain ⟨prepared, left⟩ := result
    rcases prepared with error | done
    · exact tenure.ret_held kept.2
    refine Safe.lift_seq tenure.refl (tenure.restoreRecord_safe own kept.1 kept.2)
      fun result after past => ?_
    obtain ⟨outcome, last⟩ := result
    rcases outcome with error | state
    · exact tenure.ret_over past
    refine Safe.lift_seq tenure.refl (m := fun _ after => tenure.Over after) ?_
      fun _ after past => tenure.ret_over past
    unfold releaseAfter
    split
    · exact tenure.releaseIfRestored_safe past
    · exact tenure.ret_over past

theorem restore_safe {world : World} (idle : tenure.idle world) :
    Safe env rely guard (fun _ after => tenure.Done after) (restore sessionId).run world := by
  have before : Safe env rely guard (fun _ after => tenure.idle after)
      (restoredBefore sessionId).run world := by
    refine Safe.perform_bind tenure.idle_stable idle fun later idle => ?_
    obtain ⟨guarded, keeps⟩ := tenure.idle_active idle
    refine ⟨guarded, fun answer after law => ?_⟩
    obtain ⟨-, idle⟩ := keeps answer after law
    rcases answer with _ | active
    · refine Safe.perform_bind tenure.idle_stable idle fun later idle => ?_
      obtain ⟨guarded, keeps⟩ := tenure.idle_load idle
      refine ⟨guarded, fun answer after law => ?_⟩
      rcases answer with error | stored
      · exact Safe.ret tenure.idle_stable (keeps _ _ law) fun _ idle => idle
      · exact Safe.ret tenure.idle_stable (keeps _ _ law) fun _ idle => idle
    · exact Safe.ret tenure.idle_stable idle fun _ idle => idle
  refine Safe.run_seq tenure.refl before (fun _ _ idle => tenure.ret_done (.inl idle))
    fun restored after idle => ?_
  cases restored with
  | true => exact tenure.ret_done (.inl idle)
  | false => exact tenure.restoreActive_safe idle

end Tenure

end Sysboost.Platform
