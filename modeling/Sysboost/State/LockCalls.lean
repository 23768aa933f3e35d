import Sysboost.Interaction.Raising
import Sysboost.State.FileSessionLock

/-!
# The calls of an acquirer

What each function of the lock calls: only an attempt creates and closes a lock
file, and what is written is always the whole identity of a process.
-/

namespace Sysboost.State

open Sysboost.Core Sysboost.Platform ByteCodec Interaction Results Storage

/-- What is written names a process that platform evidence stands for. -/
def LockCall.Proper : LockCall → Prop
  | .writeCreated content => ∃ owner : ProcessIdentity, owner.Strong ∧ content = encodeLockOwner owner
  | _ => True

/-- Everything but creating and closing a lock file. -/
def LockCall.Neutral : LockCall → Prop
  | .createNew _ | .closeCreated => False
  | call => call.Proper

theorem LockCall.Neutral.proper {call : LockCall} (neutral : call.Neutral) : call.Proper := by
  unfold LockCall.Neutral at neutral
  split at neutral
  · exact neutral.elim
  · exact neutral.elim
  · exact neutral

/-- The calls of a program, whatever its errors are. -/
abbrev Makes {ε α : Type} (allowed : LockCall → Prop) (program : Early LockAnswer ε α) : Prop :=
  Raising allowed (fun _ => True) program

theorem raises_any {ε α : Type} (result : Except ε α) : Raises (fun _ => True) result :=
  fun _ _ => trivial

section Functions

variable {ε α : Type}

theorem onRoot_makes (program : ExceptT ε (Prog Storage.Answer) α) :
    Makes LockCall.Neutral (onRoot program) := by
  have within : Within (fun _ => True) (Raises (fun _ => True)) program.run :=
    (Within.any program.run).mono fun result _ => raises_any result
  exact within.embed fun _ _ => trivial

/-- One call whose error is replaced. -/
theorem attempt_makes {change : IoErrorKind → ε} {request : LockCall}
    {next : LockAnswer request → Prog LockAnswer (Except IoErrorKind α)}
    (neutral : request.Neutral) (returns : ∀ answer, ∃ result, next answer = .ret result) :
    Makes LockCall.Neutral (Early.attempt change (.call request next)) :=
  .call neutral returns fun _ => trivial

theorem readBootId_makes : Makes LockCall.Neutral readBootId :=
  .bind (attempt_makes trivial fun answer => ⟨answer, rfl⟩) fun _ => .check (raises_any _)

theorem probeProcess_makes (pid : UInt32) : Makes LockCall.Neutral (probeProcess pid) := by
  refine .lift_bind ⟨trivial, fun _ => trivial⟩ fun found => ?_
  split
  · exact .pure _
  · exact .throw trivial
  · split
    · exact .throw trivial
    · exact .bind readBootId_makes fun _ => .bind (.check (raises_any _)) fun _ => .pure _

/-- A probed process has a strong identity. -/
theorem probeProcess_strong (pid : UInt32) :
    Within LockCall.Neutral (fun result => ∀ identity, result = .ok (some identity) →
      identity.Strong) (probeProcess pid).run := by
  refine Within.lift_seq ⟨trivial, fun _ => trivial⟩ fun found (_ : True) => ?_
  split
  · exact fun _ impossible => nomatch impossible
  · exact fun _ impossible => nomatch impossible
  · split
    · exact fun _ impossible => nomatch impossible
    · refine Within.run_seq readBootId_makes (fun _ _ => nofun) fun bootId _ => ?_
      rename_i generation _
      refine Within.run_seq (m := fun result => ∀ identity, result = .ok identity →
        identity.Strong) ?_ (fun _ _ => nofun) fun identity strong => ?_
      · intro identity made
        exact (ProcessIdentity.withBootId_eq_ok_iff.mp made).2
      · rintro _ ⟨⟩
        exact strong identity rfl

/-- So has the current process. -/
theorem currentProcess_strong :
    Within LockCall.Neutral (fun result => ∀ identity, result = .ok identity → identity.Strong)
      currentProcess.run := by
  refine Within.lift_seq ⟨trivial, fun _ => trivial⟩ fun pid (_ : True) => ?_
  refine Within.run_seq (probeProcess_strong pid) (fun _ _ => nofun) fun found strong => ?_
  cases found with
  | none => exact fun _ impossible => nomatch impossible
  | some identity =>
      rintro _ ⟨⟩
      exact strong identity rfl

theorem removeFileIfIdentity_makes (expected : FileIdentity) :
    Makes LockCall.Neutral (removeFileIfIdentity expected) := by
  refine .lift_bind ⟨trivial, fun _ => trivial⟩ fun found => ?_
  split
  · exact .pure _
  · exact .throw trivial
  · split
    · exact .pure _
    · exact .bind (attempt_makes trivial fun answer => ⟨answer, rfl⟩) fun _ => .pure _

namespace FileSessionLock

variable (lock : FileSessionLock)

theorem readVerifiedFile_makes (maximum : Nat) :
    Makes LockCall.Neutral (lock.readVerifiedFile maximum) :=
  .bind (attempt_makes trivial fun answer => ⟨answer, rfl⟩) fun _ =>
    .bind (attempt_makes trivial fun answer => ⟨answer, rfl⟩) fun _ =>
      .bind (.check (raises_any _)) fun _ =>
        .bind (attempt_makes trivial fun answer => ⟨answer, rfl⟩) fun _ =>
          .bind (.refuseIf trivial) fun _ => .pure _

theorem syncParent_within : Within LockCall.Neutral (fun _ => True) syncParent := by
  refine ⟨trivial, fun answer => ?_⟩
  cases answer with
  | ok _ => exact ⟨trivial, fun _ => trivial⟩
  | error _ => trivial

theorem reclaimStaleLock_makes : Makes LockCall.Neutral lock.reclaimStaleLock := by
  refine .bind (attempt_makes trivial fun answer => ⟨answer, rfl⟩) fun _ => ?_
  refine .bind (.check (raises_any _)) fun identity => ?_
  refine .bind (lock.readVerifiedFile_makes 256) fun _ => ?_
  refine .bind (.check (raises_any _)) fun owner => ?_
  refine .bind (probeProcess_makes _) fun current => ?_
  split
  · exact .pure _
  · refine .bind (.attempt (removeFileIfIdentity_makes identity).calls fun _ => trivial) fun _ => ?_
    split
    · exact .pure _
    · exact .lift_bind syncParent_within fun _ => .pure _

theorem discardCreated_within (created : Option FileIdentity) :
    Within LockCall.Neutral (fun _ => True) (discardCreated created) := by
  cases created with
  | none => trivial
  | some identity => exact (removeFileIfIdentity_makes identity).calls.seq fun _ _ => trivial

theorem fillCreated_makes {owner : ProcessIdentity} (strong : owner.Strong) :
    Makes LockCall.Neutral (lock.fillCreated owner) := by
  refine .bind (attempt_makes trivial fun answer => ⟨answer, rfl⟩) fun _ => ?_
  refine .bind (.check (raises_any _)) fun _ => ?_
  refine .bind (attempt_makes ⟨owner, strong, rfl⟩ fun answer => ⟨answer, rfl⟩) fun _ => ?_
  refine .bind (attempt_makes trivial fun answer => ⟨answer, rfl⟩) fun _ => ?_
  exact .bind (.attempt (onRoot_makes _).calls fun _ => trivial) fun _ => .pure _

/-! ### Proper calls -/

theorem tryCreate_makes {owner : ProcessIdentity} (strong : owner.Strong) :
    Makes LockCall.Proper (lock.tryCreate owner) := by
  refine .bind (.call trivial (fun answer => ⟨answer, rfl⟩) fun _ => trivial) fun _ => ?_
  refine .inspect ((lock.fillCreated_makes strong).weaken fun _ => LockCall.Neutral.proper) ?_
  intro filled _
  cases filled with
  | ok identity => exact .pure _
  | error failure => exact .lift_bind ⟨trivial, fun _ => trivial⟩ fun _ => .throw trivial

theorem attempts_makes {owner : ProcessIdentity} (strong : owner.Strong) (left : Nat) :
    Makes LockCall.Proper (lock.attempts owner left) := by
  induction left with
  | zero => exact .throw trivial
  | succ left ih =>
      refine .inspect (lock.tryCreate_makes strong) fun tried _ => ?_
      split
      · exact .pure _
      · refine .bind (lock.reclaimStaleLock_makes.weaken fun _ => LockCall.Neutral.proper)
          fun reclaimed => ?_
        split
        · exact ih
        · exact .throw trivial
      · refine .lift_bind ?_ fun _ => .throw trivial
        exact (discardCreated_within _).weaken fun _ => LockCall.Neutral.proper

theorem acquire_makes : Makes LockCall.Proper lock.acquire := by
  refine .bind ((onRoot_makes _).weaken fun _ => LockCall.Neutral.proper) fun _ => ?_
  refine Within.run_seq (currentProcess_strong.weaken fun _ => LockCall.Neutral.proper)
    (fun _ _ => raises_any _) fun owner strong => ?_
  exact lock.attempts_makes (strong owner rfl) 2

end FileSessionLock

theorem unlink_within (guard : FileSessionLockGuard) :
    Within LockCall.Neutral (fun _ => True) guard.unlink := by
  refine ⟨trivial, fun found => ?_⟩
  cases found with
  | error kind => trivial
  | ok stat =>
      change Within LockCall.Neutral (fun _ => True) (if _ ∧ _ then _ else _)
      split
      · exact ⟨trivial, fun _ => trivial⟩
      · trivial

theorem drop_within (guard : FileSessionLockGuard) :
    Within LockCall.Proper (fun _ => True) guard.drop :=
  ⟨trivial, fun _ => (unlink_within guard).weaken fun _ => LockCall.Neutral.proper⟩

end Functions

end Sysboost.State
