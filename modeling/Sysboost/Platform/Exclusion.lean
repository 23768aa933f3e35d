import Sysboost.Platform.Coherence
import Sysboost.Platform.Tenure
import Sysboost.Platform.Testkit

/-!
# One unresolved session

Any number of engines share a store and an exclusive lock and make their calls
in any order.  A record is created under the lock and only after no unfinished
record was found under it, and the lock is kept until the session is restored;
so at most one record is unfinished and at most one engine holds a lease.
-/

namespace Sysboost.Platform

open Sysboost.Core Interaction

/-! ## The shared store and lock -/

/-- A create that reports a violated invariant had no effect. -/
def CreateLaw (files after : List SessionRecord) : (call : Call) → Answer call → Prop
  | .create _, .error error => error.code = .invariantViolation → after = files
  | _, _ => True

/-- One port call of an engine that shares its store and an exclusive lock. -/
structure SharedLaw (engine : EngineId) (before : World) (call : Call) (answer : Answer call)
    (after : World) : Prop extends Law engine before call answer after where
  lock : LockLaw engine before.holder after.holder call answer
  created : CreateLaw before.files after.files call answer

/-! ## The invariant -/

/-- A restored record of the session is stored. -/
def Concluded (files : List SessionRecord) (sessionId : SessionId) : Prop :=
  ∃ stored ∈ files, stored.sessionId = sessionId ∧ stored.session.state = .restored

/-- The engine holds the lock, and no other session is unfinished. -/
structure Owns (engine : EngineId) (sessionId : SessionId) (world : World) : Prop where
  holder : world.holder = some engine
  only : ∀ stored ∈ unfinished world.files, stored.sessionId = sessionId

structure Exclusive (world : World) : Prop where
  oneEach : OneEach world.files
  sole : ∃ sessionId, ∀ stored ∈ unfinished world.files, stored.sessionId = sessionId
  leased : ∀ engine sessionId, world.active engine = some sessionId →
    Owns engine sessionId world

/-- What an engine may do to a world with at most one unresolved session; the
record of a restored session is not touched again. -/
def Permits (engine : EngineId) (world : World) : Call → Prop
  | .create _ =>
      world.holder = some engine ∧ world.active engine = none ∧ unfinished world.files = []
  | .replace record =>
      Owns engine record.sessionId world ∧
        (∀ sessionId, world.active engine = some sessionId → sessionId = record.sessionId) ∧
          ¬Concluded world.files record.sessionId
  | .remove sessionId => world.holder = some engine ∧ ¬Concluded world.files sessionId
  | .hold sessionId => Owns engine sessionId world
  | .dropGuard => world.active engine = none
  | _ => True

/-- The steps of the others leave the lease of an engine and the restored
sessions alone, and all files while it holds the lock. -/
structure Unmoved (engine : EngineId) (before after : World) : Prop where
  exclusive : Exclusive before → Exclusive after
  concluded : ∀ sessionId, Concluded before.files sessionId → Concluded after.files sessionId
  active : after.active engine = before.active engine
  locked : before.holder = some engine →
    after.holder = some engine ∧ after.files = before.files

namespace Unmoved

theorem refl (engine : EngineId) (world : World) : Unmoved engine world world :=
  ⟨id, fun _ => id, rfl, fun holder => ⟨holder, rfl⟩⟩

theorem trans {engine : EngineId} {first second third : World} (one : Unmoved engine first second)
    (two : Unmoved engine second third) : Unmoved engine first third where
  exclusive holds := two.exclusive (one.exclusive holds)
  concluded sessionId known := two.concluded sessionId (one.concluded sessionId known)
  active := two.active.trans one.active
  locked holder := by
    obtain ⟨holder', files⟩ := one.locked holder
    obtain ⟨holder'', files'⟩ := two.locked holder'
    exact ⟨holder'', files'.trans files⟩

theorem owns {engine : EngineId} {sessionId : SessionId} {before after : World}
    (step : Unmoved engine before after) (owns : Owns engine sessionId before) :
    Owns engine sessionId after := by
  obtain ⟨holder, files⟩ := step.locked owns.holder
  exact ⟨holder, files ▸ owns.only⟩

end Unmoved

/-! ## What a call can do -/

theorem mem_unfinished {stored : SessionRecord} {files : List SessionRecord} :
    stored ∈ unfinished files ↔ stored ∈ files ∧ stored.session.state ≠ .restored := by
  simp [unfinished]

theorem StoreLaw.oneEach {files after : List SessionRecord} {call : Call} {answer : Answer call}
    (law : StoreLaw files after call answer) (oneEach : OneEach files) : OneEach after := by
  have created {record : SessionRecord}
      (effect : after = files ∨ Fresh files record.sessionId ∧ after = files ++ [record]) :
      OneEach after := by
    rcases effect with rfl | ⟨fresh, rfl⟩
    · exact oneEach
    · exact oneEach.append fresh
  have replaced {record : SessionRecord}
      (effect : after = files ∨ after = substitute record files) : OneEach after := by
    rcases effect with rfl | rfl
    · exact oneEach
    · rw [OneEach, substitute_sessionIds]
      exact oneEach
  have removed {sessionId : SessionId}
      (effect : after = files ∨ after = discard sessionId files) : OneEach after := by
    rcases effect with rfl | rfl
    · exact oneEach
    · exact oneEach.sublist (List.Sublist.map _ List.filter_sublist)
  cases call with
  | create record =>
      rcases answer with error | done
      · exact created law
      · exact created (.inr law)
  | replace record =>
      rcases answer with error | done
      · exact replaced law
      · exact replaced (.inr law.2)
  | remove sessionId =>
      rcases answer with error | done
      · exact removed law
      · exact removed (.inr law)
  | apply sessionId mutation snapshot =>
      have same : after = files := law
      rw [same]
      exact oneEach
  | _ =>
      rw [law.files_eq trivial]
      exact oneEach

/-- The record of another session survives. -/
theorem Concluded.substitute {files : List SessionRecord} {sessionId : SessionId}
    {record : SessionRecord} (concluded : Concluded files sessionId)
    (other : record.sessionId ≠ sessionId) :
    Concluded (Platform.substitute record files) sessionId := by
  obtain ⟨stored, member, same, restored⟩ := concluded
  refine ⟨stored, List.mem_map.mpr ⟨stored, member, if_neg ?_⟩, same, restored⟩
  rw [same]
  exact other.symm

theorem Concluded.discard {files : List SessionRecord} {sessionId removed : SessionId}
    (concluded : Concluded files sessionId) (other : removed ≠ sessionId) :
    Concluded (Platform.discard removed files) sessionId := by
  obtain ⟨stored, member, same, restored⟩ := concluded
  refine ⟨stored, List.mem_filter.mpr ⟨member, decide_eq_true ?_⟩, same, restored⟩
  rw [same]
  exact other.symm

/-- The only record of a session tells whether the session is restored. -/
theorem OneEach.concluded_iff {files : List SessionRecord} (oneEach : OneEach files)
    {stored : SessionRecord} (member : stored ∈ files) :
    Concluded files stored.sessionId ↔ stored.session.state = .restored := by
  constructor
  · rintro ⟨other, present, same, restored⟩
    rwa [oneEach.eq member present same.symm]
  · exact fun restored => ⟨stored, member, rfl, restored⟩

namespace SharedLaw

variable {engine : EngineId} {before after : World} {call : Call} {answer : Answer call}

/-- A restored session stays so. -/
theorem concluded (law : SharedLaw engine before call answer after)
    (permits : Permits engine before call) {sessionId : SessionId}
    (concluded : Concluded before.files sessionId) : Concluded after.files sessionId := by
  have created {record : SessionRecord}
      (effect : after.files = before.files ∨
        Fresh before.files record.sessionId ∧ after.files = before.files ++ [record]) :
      Concluded after.files sessionId := by
    rcases effect with files | ⟨-, files⟩
    · rwa [files]
    · obtain ⟨stored, member, same, restored⟩ := concluded
      exact ⟨stored, files ▸ List.mem_append_left _ member, same, restored⟩
  have replaced {record : SessionRecord}
      (spared : ¬Concluded before.files record.sessionId)
      (effect : after.files = before.files ∨ after.files = substitute record before.files) :
      Concluded after.files sessionId := by
    rcases effect with files | files
    · rwa [files]
    · rw [files]
      refine concluded.substitute fun same => spared ?_
      rwa [same]
  have removed {removed : SessionId} (spared : ¬Concluded before.files removed)
      (effect : after.files = before.files ∨ after.files = discard removed before.files) :
      Concluded after.files sessionId := by
    rcases effect with files | files
    · rwa [files]
    · rw [files]
      refine concluded.discard fun same => spared ?_
      rwa [same]
  cases call with
  | create record =>
      rcases answer with error | done
      · exact created law.store
      · exact created (.inr law.store)
  | replace record =>
      rcases answer with error | done
      · exact replaced permits.2.2 law.store
      · exact replaced permits.2.2 (.inr law.store.2)
  | remove sessionId =>
      rcases answer with error | done
      · exact removed permits.2 law.store
      · exact removed permits.2 (.inr law.store)
  | apply sessionId mutation snapshot =>
      rwa [show after.files = before.files from law.store]
  | _ => rwa [law.store.files_eq trivial]

/-- Files are written under the lock only. -/
theorem files_eq (law : SharedLaw engine before call answer after)
    (permits : Permits engine before call) (unlocked : before.holder ≠ some engine) :
    after.files = before.files := by
  cases call with
  | create record => exact absurd permits.1 unlocked
  | replace record => exact absurd permits.1.holder unlocked
  | remove sessionId => exact absurd permits.1 unlocked
  | apply sessionId mutation snapshot => exact law.store
  | _ => exact law.store.files_eq trivial

/-- A record under the lock stays the only unfinished one. -/
theorem only (law : SharedLaw engine before call answer after) {sessionId : SessionId}
    (only : ∀ stored ∈ unfinished before.files, stored.sessionId = sessionId)
    (own : ∀ record, call = .create record ∨ call = .replace record →
      record.sessionId = sessionId) :
    ∀ stored ∈ unfinished after.files, stored.sessionId = sessionId := by
  have created {record : SessionRecord} (same : record.sessionId = sessionId)
      (effect : after.files = before.files ∨
        Fresh before.files record.sessionId ∧ after.files = before.files ++ [record]) :
      ∀ stored ∈ unfinished after.files, stored.sessionId = sessionId := by
    rcases effect with files | ⟨-, files⟩
    · rw [files]
      exact only
    · intro stored member
      rw [files, mem_unfinished, List.mem_append, List.mem_singleton] at member
      obtain ⟨member | rfl, state⟩ := member
      · exact only stored (mem_unfinished.mpr ⟨member, state⟩)
      · exact same
  have replaced {record : SessionRecord} (same : record.sessionId = sessionId)
      (effect : after.files = before.files ∨ after.files = substitute record before.files) :
      ∀ stored ∈ unfinished after.files, stored.sessionId = sessionId := by
    rcases effect with files | files
    · rw [files]
      exact only
    · intro stored member
      rw [files, mem_unfinished] at member
      rcases mem_substitute member.1 with rfl | old
      · exact same
      · exact only stored (mem_unfinished.mpr ⟨old, member.2⟩)
  have removed {removed : SessionId}
      (effect : after.files = before.files ∨ after.files = discard removed before.files) :
      ∀ stored ∈ unfinished after.files, stored.sessionId = sessionId := by
    rcases effect with files | files
    · rw [files]
      exact only
    · intro stored member
      rw [files, mem_unfinished] at member
      exact only stored (mem_unfinished.mpr ⟨List.mem_of_mem_filter member.1, member.2⟩)
  cases call with
  | create record =>
      rcases answer with error | done
      · exact created (own record (.inl rfl)) law.store
      · exact created (own record (.inl rfl)) (.inr law.store)
  | replace record =>
      rcases answer with error | done
      · exact replaced (own record (.inr rfl)) law.store
      · exact replaced (own record (.inr rfl)) (.inr law.store.2)
  | remove sessionId =>
      rcases answer with error | done
      · exact removed law.store
      · exact removed (.inr law.store)
  | apply sessionId mutation snapshot =>
      rw [show after.files = before.files from law.store]
      exact only
  | _ =>
      rw [law.store.files_eq trivial]
      exact only

theorem active_other (law : SharedLaw engine before call answer after) {other : EngineId}
    (different : other ≠ engine) : after.active other = before.active other := by
  have lease := law.lease
  cases call with
  | active => rw [lease.2]
  | hold sessionId => rw [lease, Function.update_of_ne different]
  | release => rw [lease, Function.update_of_ne different]
  | _ => rw [lease]

theorem holder_other (law : SharedLaw engine before call answer after) {other : EngineId}
    (different : other ≠ engine) (holder : before.holder = some other) :
    after.holder = some other := by
  have lock := law.lock
  have kept : Platform.unlocked engine before.holder = some other := by
    simp [Platform.unlocked, holder, different]
  cases call with
  | acquire =>
      rcases answer with error | done
      · exact lock.trans holder
      · simp [lock.1] at holder
  | release => exact lock.trans kept
  | dropGuard => exact lock.trans kept
  | _ => exact lock.trans holder

theorem locked_other (law : SharedLaw engine before call answer after)
    (permits : Permits engine before call) {other : EngineId} (different : other ≠ engine)
    (holder : before.holder = some other) :
    after.holder = some other ∧ after.files = before.files := by
  refine ⟨law.holder_other different holder, law.files_eq permits ?_⟩
  rw [holder]
  exact fun same => different (Option.some.inj same)

/-- A lease of the engine after one of its calls is still under the lock. -/
theorem leased (law : SharedLaw engine before call answer after) (exclusive : Exclusive before)
    (permits : Permits engine before call) {sessionId : SessionId}
    (active : after.active engine = some sessionId) : Owns engine sessionId after := by
  have keep (tame : after.active = before.active ∧ after.holder = before.holder)
      (own : ∀ record, call = .create record ∨ call = .replace record →
        record.sessionId = sessionId) : Owns engine sessionId after := by
    have owned := exclusive.leased engine sessionId (by rw [← tame.1, active])
    exact ⟨tame.2.trans owned.holder, law.only owned.only own⟩
  have lease := law.lease
  have lock := law.lock
  cases call with
  | active => exact keep ⟨lease.2, lock⟩ (by simp)
  | hold held =>
      rw [lease, Function.update_self, Option.some.injEq] at active
      have owned : Owns engine held before := permits
      rw [← active]
      exact ⟨(show after.holder = before.holder from lock).trans owned.holder,
        law.only owned.only (by simp)⟩
  | release => simp [show after.active = _ from lease] at active
  | dropGuard =>
      have idle : before.active engine = none := permits
      rw [show after.active = before.active from lease, idle] at active
      cases active
  | acquire =>
      rcases answer with error | done
      · exact keep ⟨lease, lock⟩ (by simp)
      · have owned := exclusive.leased engine sessionId
          (by rw [← active, show after.active = before.active from lease])
        exact absurd owned.holder (by simp [lock.1])
  | create record =>
      rw [show after.active = before.active from lease, permits.2.1] at active
      cases active
  | replace record =>
      refine keep ⟨lease, lock⟩ fun other same => ?_
      have replaced : record = other := by simpa using same
      subst replaced
      exact (permits.2.1 sessionId (by rw [← active, show after.active = _ from lease])).symm
  | _ => exact keep ⟨lease, lock⟩ (by simp)

/-- Permitted calls keep the invariant. -/
theorem exclusive (law : SharedLaw engine before call answer after)
    (exclusive : Exclusive before) (permits : Permits engine before call) :
    Exclusive after where
  oneEach := law.store.oneEach exclusive.oneEach
  sole := by
    obtain ⟨sessionId, only⟩ := exclusive.sole
    cases call with
    | create record =>
        refine ⟨record.sessionId, law.only (by simp [permits.2.2]) fun other same => ?_⟩
        have created : record = other := by simpa using same
        rw [created]
    | replace record =>
        refine ⟨record.sessionId, law.only permits.1.only fun other same => ?_⟩
        have replaced : record = other := by simpa using same
        rw [replaced]
    | _ => exact ⟨sessionId, law.only only (by simp)⟩
  leased := by
    intro other sessionId active
    by_cases same : other = engine
    · subst other
      exact law.leased exclusive permits active
    · rw [law.active_other same] at active
      have owned := exclusive.leased other sessionId active
      obtain ⟨holder, files⟩ := law.locked_other permits same owned.holder
      exact ⟨holder, files ▸ owned.only⟩

/-- The other engines see nothing of a permitted call. -/
theorem unmoved (law : SharedLaw engine before call answer after)
    (permits : Permits engine before call) {other : EngineId} (different : other ≠ engine) :
    Unmoved other before after where
  exclusive holds := law.exclusive holds permits
  concluded _ concluded := law.concluded permits concluded
  active := law.active_other different
  locked holder := law.locked_other permits different holder

end SharedLaw

/-! ## Calls an engine makes in safety -/

/-- The program makes permitted calls whatever the other engines do. -/
abbrev Shares {α : Type} (engine : EngineId) (post : α → World → Prop) (program : Engine α)
    (world : World) : Prop :=
  Safe (SharedLaw engine) (Unmoved engine) (Permits engine) post program world

/-- The invariant holds along the program. -/
theorem Shares.exclusive {α : Type} {engine : EngineId} {post : α → World → Prop}
    {program : Engine α} {world : World} (shares : Shares engine post program world)
    (exclusive : Exclusive world) :
    Shares engine (fun value after => post value after ∧ Exclusive after) program world := by
  have carried := shares.carry (fun step exclusive => step.exclusive exclusive)
    (fun exclusive permits law => law.exclusive exclusive permits) exclusive
  exact carried.weaken (fun _ _ _ _ _ law => law) fun _ _ guarded => guarded.1

/-- Calls that change neither the files nor the lease nor the lock. -/
def Call.Calm : Call → Prop
  | .hold _ | .release | .acquire | .dropGuard | .create _ | .remove _ | .replace _ => False
  | _ => True

theorem SharedLaw.calm {engine : EngineId} {before after : World} {call : Call}
    {answer : Answer call} (law : SharedLaw engine before call answer after) (calm : call.Calm) :
    after.active = before.active ∧ after.holder = before.holder ∧ after.files = before.files := by
  have store := law.store
  have lease := law.lease
  have lock := law.lock
  cases call with
  | active => exact ⟨lease.2, lock, store⟩
  | apply sessionId mutation snapshot => exact ⟨lease, lock, store⟩
  | hold sessionId => exact calm.elim
  | release => exact calm.elim
  | acquire => exact calm.elim
  | dropGuard => exact calm.elim
  | create record => exact calm.elim
  | remove sessionId => exact calm.elim
  | replace record => exact calm.elim
  | _ => exact ⟨lease, lock, store.files_eq trivial⟩

theorem permits_of_calm {engine : EngineId} {world : World} {call : Call} (calm : call.Calm) :
    Permits engine world call := by
  cases call with
  | create record => exact calm.elim
  | replace record => exact calm.elim
  | remove sessionId => exact calm.elim
  | hold sessionId => exact calm.elim
  | dropGuard => exact calm.elim
  | _ => trivial

/-! ### A session that is served -/

/-- The world of an engine between two public operations. -/
structure Idle (engine : EngineId) (lease : Option SessionId) (world : World) : Prop where
  exclusive : Exclusive world
  active : world.active engine = lease
  owned : ∀ sessionId, lease = some sessionId → Owns engine sessionId world

/-- The world of an engine that serves a session under the lock. -/
structure Serves (engine : EngineId) (sessionId : SessionId) (lease : Option SessionId)
    (world : World) : Prop where
  exclusive : Exclusive world
  active : world.active engine = lease
  owned : Owns engine sessionId world
  own : ∀ leased, lease = some leased → leased = sessionId

/-- The same, as long as the session is not restored. -/
structure Opens (engine : EngineId) (sessionId : SessionId) (lease : Option SessionId)
    (world : World) : Prop extends Serves engine sessionId lease world where
  unconcluded : ¬Concluded world.files sessionId

theorem Idle.moved {engine : EngineId} {lease : Option SessionId} {before after : World}
    (idle : Idle engine lease before) (step : Unmoved engine before after) :
    Idle engine lease after where
  exclusive := step.exclusive idle.exclusive
  active := step.active.trans idle.active
  owned sessionId same := step.owns (idle.owned sessionId same)

theorem Idle.calm {engine : EngineId} {lease : Option SessionId} {before after : World}
    {call : Call} {answer : Answer call} (idle : Idle engine lease before)
    (law : SharedLaw engine before call answer after) (calm : call.Calm) :
    Idle engine lease after := by
  obtain ⟨active, holder, files⟩ := law.calm calm
  refine ⟨law.exclusive idle.exclusive (permits_of_calm calm), by rw [active, idle.active], ?_⟩
  intro sessionId same
  have owned := idle.owned sessionId same
  exact ⟨holder.trans owned.holder, files ▸ owned.only⟩

namespace Serves

variable {engine : EngineId} {sessionId : SessionId} {lease : Option SessionId}
  {before after world : World} {call : Call} {answer : Answer call}

theorem moved (serves : Serves engine sessionId lease before)
    (step : Unmoved engine before after) : Serves engine sessionId lease after where
  exclusive := step.exclusive serves.exclusive
  active := step.active.trans serves.active
  owned := step.owns serves.owned
  own := serves.own

/-- A permitted call that leaves the lease and the lock alone, about no other session. -/
theorem step (serves : Serves engine sessionId lease before)
    (law : SharedLaw engine before call answer after) (permits : Permits engine before call)
    (active : after.active = before.active) (holder : after.holder = before.holder)
    (own : ∀ record, call = .create record ∨ call = .replace record →
      record.sessionId = sessionId) : Serves engine sessionId lease after where
  exclusive := law.exclusive serves.exclusive permits
  active := by rw [active, serves.active]
  owned := ⟨holder.trans serves.owned.holder, law.only serves.owned.only own⟩
  own := serves.own

theorem calm (serves : Serves engine sessionId lease before)
    (law : SharedLaw engine before call answer after) (calm : call.Calm) :
    Serves engine sessionId lease after := by
  obtain ⟨active, holder, files⟩ := law.calm calm
  refine ⟨law.exclusive serves.exclusive (permits_of_calm calm), by rw [active, serves.active], ?_,
    serves.own⟩
  exact ⟨holder.trans serves.owned.holder, files ▸ serves.owned.only⟩

end Serves

namespace Opens

variable {engine : EngineId} {sessionId : SessionId} {lease : Option SessionId}
  {before after world : World} {call : Call} {answer : Answer call}

theorem moved (opens : Opens engine sessionId lease before)
    (step : Unmoved engine before after) : Opens engine sessionId lease after where
  toServes := opens.toServes.moved step
  unconcluded := by
    rw [(step.locked opens.owned.holder).2]
    exact opens.unconcluded

/-- Any record of the session may be written. -/
theorem permits_replace (opens : Opens engine sessionId lease world) {record : SessionRecord}
    (own : record.sessionId = sessionId) : Permits engine world (.replace record) := by
  subst own
  refine ⟨opens.owned, fun leased active => ?_, opens.unconcluded⟩
  exact opens.own leased (opens.active ▸ active)

theorem permits (opens : Opens engine sessionId lease world) (tame : call.Tame sessionId) :
    Permits engine world call := by
  cases call with
  | replace record => exact opens.permits_replace tame.1
  | hold sessionId => exact tame.elim
  | dropGuard => exact tame.elim
  | create record => exact tame.elim
  | remove sessionId => exact tame.elim
  | _ => trivial

theorem replace {record : SessionRecord} {answer : Answer (.replace record)}
    (opens : Opens engine sessionId lease before) (own : record.sessionId = sessionId)
    (law : SharedLaw engine before (.replace record) answer after) :
    Serves engine sessionId lease after := by
  refine opens.toServes.step law (opens.permits_replace own) law.lease law.lock fun other same => ?_
  have replaced : record = other := by simpa using same
  exact replaced ▸ own

/-- Tame calls do not end the session. -/
theorem tame (opens : Opens engine sessionId lease before) (tame : call.Tame sessionId)
    (law : SharedLaw engine before call answer after) : Opens engine sessionId lease after := by
  have calm (calm : call.Calm) : Opens engine sessionId lease after := by
    refine ⟨opens.toServes.calm law calm, ?_⟩
    rw [(law.calm calm).2.2]
    exact opens.unconcluded
  cases call with
  | replace record =>
      refine ⟨opens.replace tame.1 law, ?_⟩
      rintro ⟨stored, member, same, restored⟩
      have effect : after.files = before.files ∨
          after.files = substitute record before.files := by
        rcases answer with error | done
        · exact law.store
        · exact .inr law.store.2
      rcases effect with files | files
      · exact opens.unconcluded ⟨stored, files ▸ member, same, restored⟩
      · rw [files] at member
        rcases mem_substitute member with rfl | old
        · exact tame.2 restored
        · exact opens.unconcluded ⟨stored, old, same, restored⟩
  | hold sessionId => exact tame.elim
  | release => exact tame.elim
  | acquire => exact tame.elim
  | dropGuard => exact tame.elim
  | create record => exact tame.elim
  | remove sessionId => exact tame.elim
  | _ => exact calm trivial

end Opens

/-- A stored record that is not restored opens its session. -/
theorem Serves.opens {engine : EngineId} {lease : Option SessionId} {world : World}
    {record : SessionRecord} (serves : Serves engine record.sessionId lease world)
    (member : record ∈ world.files) (unrestored : record.session.state ≠ .restored) :
    Opens engine record.sessionId lease world where
  toServes := serves
  unconcluded := mt (serves.exclusive.oneEach.concluded_iff member).mp unrestored

/-- The tenure of a session among engines that share a store and a lock. -/
def sharedTenure (engine : EngineId) (sessionId : SessionId) (lease : Option SessionId) :
    Tenure (SharedLaw engine) (Unmoved engine) (Permits engine) sessionId lease where
  idle := Idle engine lease
  leased := Serves engine sessionId lease
  held := Opens engine sessionId lease
  ended world := world.active engine = none
  refl := Unmoved.refl engine
  idle_stable step idle := idle.moved step
  leased_stable step serves := serves.moved step
  held_stable step opens := opens.moved step
  ended_stable step ended := step.active.trans ended
  idle_active idle := ⟨trivial, fun answer after law =>
    ⟨law.lease.1.trans idle.active, idle.calm law trivial⟩⟩
  idle_load idle := ⟨trivial, fun answer after law => idle.calm law trivial⟩
  enter {world} idle same := by
    refine ⟨idle.exclusive, idle.active, idle.owned sessionId same, fun leased same' => ?_⟩
    rw [same] at same'
    exact (Option.some.inj same').symm
  leased_active serves := ⟨trivial, fun answer after law =>
    ⟨law.lease.1.trans serves.active, serves.calm law trivial⟩⟩
  leased_load {world} serves := by
    refine ⟨trivial, fun answer after law => ⟨serves.calm law trivial, ?_⟩⟩
    rintro record rfl
    obtain ⟨files, member, rfl⟩ := law.store
    rw [← files] at member
    exact ⟨rfl, fun unrestored => (serves.calm law trivial).opens member unrestored⟩
  held_leased opens := opens.toServes
  held_tame opens tame := ⟨opens.permits tame, fun answer after law => opens.tame tame law⟩
  finish opens own := ⟨opens.permits_replace own, fun answer after law => opens.replace own law⟩
  release serves same := by
    refine ⟨trivial, fun answer after law => ?_⟩
    rw [show after.active = _ from law.lease, Function.update_self]
  ended_active {world} ended := by
    refine ⟨trivial, fun answer after law => ?_⟩
    exact ⟨law.lease.1.trans ended, by rw [law.lease.2, ended]⟩

/-! ### Preparing a session -/

/-- The world of an engine without a lease: whether it holds the lock, and
whether it has found no unfinished record under it. -/
structure Preparing (engine : EngineId) (locked clear : Prop) (world : World) : Prop where
  exclusive : Exclusive world
  active : world.active engine = none
  holder : locked → world.holder = some engine
  files : clear → locked ∧ unfinished world.files = []

namespace Preparing

variable {engine : EngineId} {locked clear : Prop} {before after world : World}

theorem moved (preparing : Preparing engine locked clear before)
    (step : Unmoved engine before after) : Preparing engine locked clear after where
  exclusive := step.exclusive preparing.exclusive
  active := step.active.trans preparing.active
  holder lock := (step.locked (preparing.holder lock)).1
  files known := by
    obtain ⟨lock, files⟩ := preparing.files known
    refine ⟨lock, ?_⟩
    rw [(step.locked (preparing.holder lock)).2, files]

theorem calm (preparing : Preparing engine locked clear before) {call : Call}
    {answer : Answer call} (calm : call.Calm) (law : SharedLaw engine before call answer after) :
    Preparing engine locked clear after := by
  obtain ⟨active, holder, files⟩ := law.calm calm
  refine ⟨law.exclusive preparing.exclusive (permits_of_calm calm), ?_, ?_, ?_⟩
  · rw [active, preparing.active]
  · rw [holder]
    exact preparing.holder
  · rw [files]
    exact preparing.files

theorem calmly {α : Type} {p : α → Prop} {program : Engine α}
    (calm : Within Call.Calm p program) (preparing : Preparing engine locked clear world) :
    Shares engine (fun value after => p value ∧ Preparing engine locked clear after) program
      world := by
  refine Within.safe ?_ ?_ calm preparing
  · exact fun step preparing => preparing.moved step
  · exact fun preparing calm =>
      ⟨permits_of_calm calm, fun answer after law => preparing.calm calm law⟩

theorem ret {α : Type} {value : α} {post : α → World → Prop}
    (preparing : Preparing engine locked clear world)
    (holds : ∀ later, Preparing engine locked clear later → post value later) :
    Shares engine post (.ret value) world :=
  Safe.ret (fun step preparing => preparing.moved step) preparing holds

/-- Any call in a world of this kind. -/
theorem call {β : Type} {request : Call} {next : Answer request → Engine β}
    {post : β → World → Prop} (preparing : Preparing engine locked clear world)
    (made : ∀ later, Preparing engine locked clear later → Permits engine later request ∧
      ∀ answer after, SharedLaw engine later request answer after →
        Shares engine post (next answer) after) :
    Shares engine post (.call request next) world :=
  Safe.perform_bind (fun step preparing => preparing.moved step) preparing made

theorem perform {request : Call} {post : Answer request → World → Prop}
    (preparing : Preparing engine locked clear world)
    (made : ∀ later, Preparing engine locked clear later → Permits engine later request ∧
      ∀ answer after, SharedLaw engine later request answer after →
        Shares engine post (.ret answer) after) :
    Shares engine post (Prog.perform request) world :=
  Safe.perform (fun step preparing => preparing.moved step) preparing made

end Preparing

theorem refuseIf_calm (condition : Bool) (error : SysboostError) :
    Within Call.Calm (fun result => result = .ok () → condition = false)
      (Fallible.refuseIf condition error).run := by
  cases condition with
  | true => exact fun impossible => nomatch impossible
  | false => exact fun _ => rfl

theorem check_calm {α : Type} (result : Except SysboostError α) :
    Within Call.Calm (fun returned => returned = result) (Fallible.check result).run :=
  rfl

theorem now_calm (stage : Stage) : Within Call.Calm (fun _ => True) (now stage).run :=
  ⟨trivial, fun _ => trivial⟩

theorem captureOne_calm (now : Timestamp) (mutation : PlannedMutation) :
    Within Call.Calm (fun _ => True) (captureOne now mutation).run := by
  refine Within.run_seq (m := fun _ => True) ⟨trivial, fun _ => trivial⟩
    (fun _ _ => trivial) fun snapshot _ => ?_
  refine Within.run_seq (check_calm _) (fun _ _ => trivial) fun _ _ => ?_
  exact Within.run_seq (refuseIf_calm _ _) (fun _ _ => trivial) fun _ _ => trivial

section Requests

variable {engine : EngineId} {world : World}

/-- An engine that fails to prepare holds no lease. -/
def Unleased {α : Type} (engine : EngineId) (result : Except SysboostError α) (world : World) :
    Prop :=
  ∀ error, result = .error error → Preparing engine False False world

theorem unleased_error {α : Type} {locked clear : Prop} {error : SysboostError} {world : World}
    (preparing : Preparing engine locked clear world) :
    Shares engine (Unleased engine) (.ret (.error error) : Engine (Except SysboostError α))
      world := by
  refine preparing.ret fun later preparing _ _ => ?_
  exact ⟨preparing.exclusive, preparing.active, False.elim, False.elim⟩

theorem createSession_shares {plan : Plan} {now : Timestamp} {snapshots : List Snapshot}
    (attempts : Nat) (preparing : Preparing engine True True world) :
    Shares engine (Unleased engine) (createSession plan now snapshots attempts).run world := by
  induction attempts generalizing world with
  | zero => exact unleased_error preparing
  | succ attempts ih =>
      refine Safe.run_seq (Unmoved.refl engine)
        (preparing.calmly (p := fun _ => True) ⟨trivial, fun _ => trivial⟩)
        (fun _ _ known => unleased_error known.2) fun sessionId named known => ?_
      refine Safe.run_seq (Unmoved.refl engine) (known.2.calmly (check_calm _))
        (fun _ _ known => unleased_error known.2) fun record built known => ?_
      have session : record.sessionId = sessionId := by
        have prepared := preparedFor_of_preparedRecord known.1.symm
        rw [SessionRecord.sessionId, prepared.session]
        rfl
      refine Safe.lift_seq (Unmoved.refl engine) (m := fun answer after =>
        (∀ error, answer = .error error → Preparing engine True False after ∧
          (error.code = .invariantViolation → Preparing engine True True after)) ∧
        (answer = .ok () → Owns engine sessionId after)) ?_ fun answer created known => ?_
      · refine known.2.perform fun later preparing => ?_
        have holder := preparing.holder trivial
        have empty := (preparing.files trivial).2
        refine ⟨⟨holder, preparing.active, empty⟩, fun answer after law => ?_⟩
        have lease : after.active = later.active := law.lease
        have lock : after.holder = later.holder := law.lock
        have exclusive := law.exclusive preparing.exclusive ⟨holder, preparing.active, empty⟩
        have locked : Preparing engine True False after :=
          ⟨exclusive, by rw [lease, preparing.active], fun _ => lock.trans holder, False.elim⟩
        have owned : Owns engine sessionId after := by
          refine ⟨lock.trans holder, law.only (by simp [empty]) fun other same => ?_⟩
          have created : record = other := by simpa using same
          rw [← created, session]
        have refused : ∀ error, answer = .error error → error.code = .invariantViolation →
            Preparing engine True True after := by
          rintro error rfl collision
          have files : after.files = later.files := law.created collision
          exact ⟨exclusive, locked.active, locked.holder, fun _ => ⟨trivial, files ▸ empty⟩⟩
        intro last step
        exact ⟨fun error same => ⟨locked.moved step, fun collision =>
          (refused error same collision).moved step⟩, fun _ => step.owns owned⟩
      rcases answer with error | done
      · obtain ⟨locked, again⟩ := known.1 error rfl
        by_cases collision : error.code = .invariantViolation
        · simp only [collision, if_true]
          exact ih (again collision)
        · simp only [collision, if_false]
          exact unleased_error locked
      · intro later step
        exact ⟨step.owns (known.2 rfl), fun _ after _ last _ error impossible => by
          cases impossible⟩

theorem prepareLocked_shares {plan : Plan} (preparing : Preparing engine True False world) :
    Shares engine (Unleased engine) (prepareLocked plan).run world := by
  refine Safe.run_seq (Unmoved.refl engine) (m := fun answer after =>
    Preparing engine True False after ∧ ∀ records, answer = .ok records → records = [] →
      Preparing engine True True after) ?_ (fun _ _ known => unleased_error known.1)
    fun records loaded known => ?_
  · refine preparing.call fun later preparing => ⟨trivial, fun answer after law => ?_⟩
    intro last step
    have calm : Call.Calm .loadUnfinished := trivial
    have kept := preparing.calm calm law
    refine ⟨kept.moved step, fun records same empty => Preparing.moved ?_ step⟩
    rcases answer with error | stored
    · cases same
    · cases same
      have perm := law.store.2
      rw [empty] at perm
      refine ⟨kept.exclusive, kept.active, kept.holder, fun _ => ⟨trivial, ?_⟩⟩
      rw [show after.files = later.files from law.store.1]
      exact perm.symm.eq_nil
  · by_cases empty : records = []
    · refine Safe.run_seq (Unmoved.refl engine)
        ((known.2 records rfl empty).calmly (refuseIf_calm _ _))
        (fun _ _ known => unleased_error known.2) fun _ checked known => ?_
      refine Safe.run_seq (Unmoved.refl engine) (known.2.calmly (now_calm .detect))
        (fun _ _ known => unleased_error known.2) fun now ticked known => ?_
      refine Safe.run_seq (Unmoved.refl engine)
        (known.2.calmly (Within.mapM_run (captureOne_calm now) plan.mutations))
        (fun _ _ known => unleased_error known.2) fun snapshots captured known => ?_
      exact createSession_shares 32 known.2
    · have refused : (!records.isEmpty) = true := by simp [empty]
      rw [refused]
      exact unleased_error known.1

theorem read_active {lease : Option SessionId} (exclusive : Exclusive world)
    (active : world.active engine = lease) :
    Shares engine (fun answer after => answer = lease ∧ Exclusive after ∧
      after.active engine = lease) (Prog.perform Call.active : Engine (Option SessionId)) world := by
  intro later step
  have exclusive' := step.exclusive exclusive
  have active' := step.active.trans active
  refine ⟨trivial, fun answer after law last step => ?_⟩
  obtain ⟨same, -, -⟩ := law.calm trivial
  refine ⟨law.lease.1.trans active', step.exclusive (law.exclusive exclusive' trivial), ?_⟩
  rw [step.active, same, active']

/-- A guard is acquired, or nothing has changed. -/
theorem acquire_shares {change : SysboostError → SysboostError}
    (preparing : Preparing engine False False world) :
    Shares engine (fun result after => Preparing engine False False after ∧
      (result = .ok () → Preparing engine True False after))
      (Fallible.mapErr change (Fallible.port (Prog.perform Call.acquire))).run world := by
  refine preparing.call fun later preparing => ⟨trivial, fun answer after law => ?_⟩
  have lease : after.active = later.active := law.lease
  have idle : Preparing engine False False after :=
    ⟨law.exclusive preparing.exclusive trivial, by rw [lease, preparing.active], False.elim,
      False.elim⟩
  intro last step
  refine ⟨idle.moved step, fun acquired => ?_⟩
  rcases answer with error | done
  · cases acquired
  · have locked : Preparing engine True False after :=
      ⟨idle.exclusive, idle.active, fun _ => law.lock.2, False.elim⟩
    exact locked.moved step

/-- An engine without a lease drops its guard and returns. -/
theorem dropGuard_shares {α : Type} {locked clear : Prop} {next : Unit → Fallible α}
    (preparing : Preparing engine locked clear world)
    (returns : ∃ result, (next ()).run = .ret result) :
    Shares engine (fun _ _ => True) (ExceptT.lift (Prog.perform Call.dropGuard) >>= next).run
      world := by
  obtain ⟨result, same⟩ := returns
  rw [Prog.run_lift_bind]
  refine preparing.call fun later preparing => ⟨preparing.active, fun answer after law => ?_⟩
  show Shares engine (fun _ _ => True) (next ()).run after
  rw [same]
  exact fun _ _ => trivial

theorem prepare_shares {plan : Plan} (exclusive : Exclusive world) :
    Shares engine (fun _ _ => True) (prepare plan).run world := by
  have returned {α : Type} (value : α) (after : World) :
      Shares engine (fun _ _ => True) (.ret value : Engine α) after := fun _ _ => trivial
  refine Safe.lift_seq (Unmoved.refl engine) (read_active exclusive rfl) fun active entered known => ?_
  obtain ⟨answered, exclusive, lease⟩ := known
  rcases active with _ | leased
  · have preparing : Preparing engine False False entered :=
      ⟨exclusive, lease.trans answered.symm, False.elim, False.elim⟩
    refine Safe.run_seq (Unmoved.refl engine) (preparing.calmly (refuseIf_calm _ _))
      (fun _ _ _ => returned _ _) fun _ idle known => ?_
    refine Safe.run_seq (Unmoved.refl engine) (known.2.calmly (check_calm _))
      (fun _ _ _ => returned _ _) fun _ complete known => ?_
    refine Safe.run_seq (Unmoved.refl engine) (known.2.calmly (refuseIf_calm _ _))
      (fun _ _ _ => returned _ _) fun _ nonempty known => ?_
    refine Safe.run_seq (Unmoved.refl engine) (acquire_shares known.2)
      (fun _ _ _ => returned _ _) fun _ acquired known => ?_
    refine Safe.lift_seq (Unmoved.refl engine) (prepareLocked_shares (known.2 rfl))
      fun result prepared known => ?_
    rcases result with error | sessionId
    · exact dropGuard_shares (known error rfl) ⟨_, rfl⟩
    · exact returned _ _
  · exact returned _ _

/-! ### Recovering -/

theorem recoverOne_shares {record : SessionRecord} {recovery : Recovery}
    (unrestored : record.session.state ≠ .restored)
    (opens : Opens engine record.sessionId none world) :
    Shares engine (fun left after => Serves engine record.sessionId none after ∧
        ∃ state, left.statuses = recovery.statuses ++ [⟨record.sessionId, state⟩])
      (recoverOne recovery record) world := by
  refine Safe.mono ((sharedTenure engine record.sessionId none).recoverOne_safe rfl unrestored
    opens) fun left after known => ?_
  rcases known.1 with serves | ⟨impossible, -⟩
  · exact ⟨serves, known.2⟩
  · cases impossible

/-- All unfinished records under the lock are one record. -/
theorem Exclusive.single {world : World} (exclusive : Exclusive world) :
    (unfinished world.files).length ≤ 1 := by
  obtain ⟨sessionId, only⟩ := exclusive.sole
  have nodup : ((unfinished world.files).map SessionRecord.sessionId).Nodup :=
    exclusive.oneEach.sublist (List.Sublist.map _ List.filter_sublist)
  have same : (unfinished world.files).map SessionRecord.sessionId =
      List.replicate (unfinished world.files).length sessionId :=
    List.eq_replicate_iff.mpr ⟨List.length_map .., fun other member => by
      obtain ⟨stored, present, rfl⟩ := List.mem_map.mp member
      exact only stored present⟩
  rw [same, List.nodup_replicate] at nodup
  exact nodup

theorem finishRecovery_shares {recovery : Recovery} {sessionId : SessionId}
    (serves : Serves engine sessionId none world) (exclusive : Exclusive world)
    (statuses : ∀ status ∈ recovery.statuses, status.sessionId = sessionId) :
    Shares engine (fun _ _ => True) (finishRecovery recovery sessionId).run world := by
  unfold finishRecovery
  split
  · have preparing : Preparing engine True False world :=
      ⟨exclusive, serves.active, fun _ => serves.owned.holder, False.elim⟩
    exact dropGuard_shares preparing ⟨_, rfl⟩
  · have own : ((recovery.statuses.find? fun status => status.state != .restored).map
        TransactionStatus.sessionId).getD sessionId = sessionId := by
      generalize found : List.find? _ recovery.statuses = first
      rcases first with _ | status
      · rfl
      · exact statuses status (List.mem_of_find?_eq_some found)
    dsimp only
    rw [own, Prog.run_lift_bind]
    intro later step
    exact ⟨(serves.moved step).owned, fun _ _ _ _ _ => trivial⟩

theorem recoverLocked_shares (preparing : Preparing engine True False world) :
    Shares engine (fun _ _ => True) recoverLocked.run world := by
  have returned {α : Type} (value : α) (after : World) :
      Shares engine (fun _ _ => True) (.ret value : Engine α) after := fun _ _ => trivial
  refine Safe.lift_seq (Unmoved.refl engine) (m := fun answer after =>
    Preparing engine True False after ∧ ∀ records, answer = .ok records →
      records.Perm (unfinished after.files)) ?_ fun answer loaded known => ?_
  · refine preparing.perform fun later preparing =>
      ⟨trivial, fun answer after law => ?_⟩
    have calm : Call.Calm .loadUnfinished := trivial
    have kept := preparing.calm calm law
    intro last step
    refine ⟨kept.moved step, fun records same => ?_⟩
    rw [(step.locked (kept.holder trivial)).2]
    subst same
    rw [show after.files = later.files from law.store.1]
    exact law.store.2
  obtain ⟨preparing, perm⟩ := known
  rcases answer with error | records
  · exact dropGuard_shares preparing ⟨_, rfl⟩
  have sorted : (sortRecords records).Perm (unfinished loaded.files) :=
    (List.perm_insertionSort _ records).trans (perm records rfl)
  rcases sort : sortRecords records with _ | ⟨first, rest⟩
  · simp only [sort]
    exact dropGuard_shares preparing ⟨_, rfl⟩
  rw [sort] at sorted
  have alone : rest = [] := by
    have single := preparing.exclusive.single
    rw [← sorted.length_eq, List.length_cons] at single
    exact List.length_eq_zero_iff.mp (by omega)
  subst alone
  simp only [sort]
  obtain ⟨present, unrestored⟩ :=
    mem_unfinished.mp (sorted.mem_iff.mp (List.mem_singleton_self first))
  have opens : Opens engine first.sessionId none loaded := by
    refine Serves.opens ⟨preparing.exclusive, preparing.active, ?_, by simp⟩ present unrestored
    refine ⟨preparing.holder trivial, fun stored member => ?_⟩
    rw [List.mem_singleton.mp (sorted.symm.mem_iff.mp member)]
  have folded : Shares engine (fun recovery after => (Serves engine first.sessionId none after ∧
      ∃ state, recovery.statuses = [⟨first.sessionId, state⟩]) ∧ Exclusive after)
      ([first].foldlM recoverOne ⟨[], none⟩) loaded := by
    refine Shares.exclusive ?_ preparing.exclusive
    rw [List.foldlM_cons]
    refine Safe.seq (Unmoved.refl engine) (recoverOne_shares unrestored opens)
      fun recovery after known => ?_
    exact fun later step => ⟨known.1.moved step, known.2⟩
  refine Safe.lift_seq (Unmoved.refl engine) folded fun recovery after known => ?_
  obtain ⟨⟨serves, state, statuses⟩, exclusive⟩ := known
  refine finishRecovery_shares serves exclusive fun status member => ?_
  rw [statuses, List.mem_singleton] at member
  rw [member]

theorem recoverUnfinished_shares (exclusive : Exclusive world) :
    Shares engine (fun _ _ => True) recoverUnfinished.run world := by
  have returned {α : Type} (value : α) (after : World) :
      Shares engine (fun _ _ => True) (.ret value : Engine α) after := fun _ _ => trivial
  refine Safe.lift_seq (Unmoved.refl engine) (read_active exclusive rfl) fun active entered known => ?_
  obtain ⟨answered, exclusive, lease⟩ := known
  rcases active with _ | leased
  · have preparing : Preparing engine False False entered :=
      ⟨exclusive, lease.trans answered.symm, False.elim, False.elim⟩
    refine Safe.run_seq (Unmoved.refl engine) (preparing.calmly (refuseIf_calm _ _))
      (fun _ _ _ => returned _ _) fun _ idle known => ?_
    refine Safe.run_seq (Unmoved.refl engine) (acquire_shares known.2)
      (fun _ _ _ => returned _ _) fun _ acquired known => ?_
    exact recoverLocked_shares (known.2 rfl)
  · exact returned _ _

/-! ### Aborting -/

theorem abortPrepared_shares {sessionId : SessionId} {lease : Option SessionId}
    (idle : Idle engine lease world) :
    Shares engine (fun _ _ => True) (abortPrepared sessionId).run world := by
  let tenure := sharedTenure engine sessionId lease
  refine Safe.mono (tenure.active_safe idle fun record after own leased serves opens => ?_)
    fun _ _ _ => trivial
  have loads : tenure.Loads (.ok record) after := ⟨serves, by rintro _ ⟨⟩; exact ⟨own, opens⟩⟩
  have checks (condition : Bool) (error : SysboostError) :
      Shares engine (fun result last => (result = .ok () → condition = false) ∧
        tenure.Loads (.ok record) last) (Fallible.refuseIf condition error).run after := by
    cases condition with
    | true => exact Safe.ret tenure.loads_stable loads fun _ loads => ⟨by simp, loads⟩
    | false => exact Safe.ret tenure.loads_stable loads fun _ loads => ⟨fun _ => rfl, loads⟩
  refine Safe.run_seq (Unmoved.refl engine) (checks _ _)
    (fun _ _ kept => tenure.ret_over (.inl kept.2.1)) fun _ checked kept => ?_
  have intended : record.session.state = .intentDurable := by
    have unrefused := kept.1 rfl
    simp only [Bool.or_eq_false_iff, decide_eq_false_iff_not, ne_eq, not_not] at unrefused
    exact unrefused.1
  have held := (kept.2.2 record rfl).2 (by simp [intended])
  refine Safe.run_seq (Unmoved.refl engine) (m := fun _ after => tenure.leased after) ?_
    (fun _ _ serves => tenure.ret_over (.inl serves)) fun _ removed serves => ?_
  · refine Safe.perform_bind tenure.held_stable held fun later opens => ?_
    have permits : Permits engine later (.remove sessionId) :=
      ⟨opens.owned.holder, opens.unconcluded⟩
    refine ⟨permits, fun answer after law => ?_⟩
    refine Safe.ret tenure.leased_stable ?_ fun _ serves => serves
    exact opens.toServes.step law permits law.lease law.lock (by simp)
  · refine Safe.perform_bind tenure.leased_stable serves fun later serves =>
      ⟨trivial, fun answer after law => tenure.ret_over (.inr ⟨leased, ?_⟩)⟩
    obtain ⟨guarded, ends⟩ := tenure.release serves leased
    exact ends answer after law

end Requests

/-! ## All interleavings -/

theorem program_shares {engine : EngineId} {world : World} (exclusive : Exclusive world)
    (request : Request) : Shares engine (fun _ _ => True) request.program world := by
  have idle : Idle engine (world.active engine) world :=
    ⟨exclusive, rfl, fun sessionId same => exclusive.leased engine sessionId same⟩
  have replied {α : Type} {program : Engine α} {reply : α → Reply}
      (shares : Shares engine (fun _ _ => True) program world) :
      Shares engine (fun _ _ => True) (do return reply (← program)) world :=
    Safe.seq (Unmoved.refl engine) shares fun _ _ _ _ _ => trivial
  have served {post : Except SysboostError SessionState → World → Prop}
      {program : Engine (Except SysboostError SessionState)}
      (shares : Shares engine post program world) :
      Shares engine (fun _ _ => True) program world :=
    Safe.mono shares fun _ _ _ => trivial
  cases request with
  | prepare plan => exact replied (prepare_shares exclusive)
  | apply sessionId => exact replied (served ((sharedTenure engine sessionId _).apply_safe idle))
  | restore sessionId =>
      exact replied (served ((sharedTenure engine sessionId _).restore_safe idle))
  | abortPrepared sessionId => exact replied (abortPrepared_shares idle)
  | recoverUnfinished => exact replied (recoverUnfinished_shares exclusive)

theorem exclusive_empty : Exclusive World.empty where
  oneEach := List.nodup_nil
  sole := ⟨⟨.fill 16 0⟩, by simp [World.empty, unfinished]⟩
  leased := by simp [World.empty]

theorem Exclusive.note {world : World} (exclusive : Exclusive world) (entry : Entry) :
    Exclusive (world.note entry) :=
  ⟨exclusive.oneEach, exclusive.sole, fun engine sessionId active =>
    ⟨(exclusive.leased engine sessionId active).holder,
      (exclusive.leased engine sessionId active).only⟩⟩

theorem Unmoved.note (engine : EngineId) (world : World) (entry : Entry) :
    Unmoved engine world (world.note entry) :=
  ⟨fun exclusive => exclusive.note entry, fun _ => id, rfl, fun holder => ⟨holder, rfl⟩⟩

/-- A process that ends takes its lease and its lock along. -/
theorem Exclusive.crash {world : World} (exclusive : Exclusive world) (engine : EngineId) :
    Exclusive (world.crash engine) where
  oneEach := exclusive.oneEach
  sole := exclusive.sole
  leased other sessionId active := by
    by_cases same : other = engine
    · simp [World.crash, same] at active
    · simp only [World.crash, Function.update_of_ne same] at active
      have owned := exclusive.leased other sessionId active
      exact ⟨by simp [World.crash, unlocked, owned.holder, same], owned.only⟩

theorem Unmoved.crash {engine other : EngineId} (different : other ≠ engine) (world : World) :
    Unmoved other world (world.crash engine) :=
  ⟨fun exclusive => exclusive.crash engine, fun _ => id, Function.update_of_ne different _ _,
    fun holder => ⟨by simp [World.crash, unlocked, holder, different], rfl⟩⟩

/-- What the engines rely on and guarantee. -/
def sharedContract : (service SharedLaw).Contract where
  invariant := Exclusive
  idle _ _ := True
  rely := Unmoved
  guard := Permits

theorem sharedContract_sound : sharedContract.Sound World.empty where
  rely_trans _ _ _ _ first second := first.trans second
  rely_refl engine world := .refl engine world
  idle_stable _ _ := trivial
  start := ⟨exclusive_empty, fun _ => trivial⟩
  issue _ request _ exclusive _ :=
    ⟨exclusive.note _, program_shares (exclusive.note _) request⟩
  issue_rely {_ other} _ world _ := Unmoved.note other world _
  law exclusive permits law :=
    ⟨law.exclusive exclusive permits, fun _ different => law.unmoved permits different⟩
  reply exclusive _ := ⟨exclusive.note _, fun other _ => Unmoved.note other _ _⟩
  stop engine world exclusive :=
    ⟨exclusive.crash engine, trivial, fun _ different => Unmoved.crash different world⟩

/-- In every interleaving of engines that share a store and an exclusive lock,
at most one stored record is unfinished and at most one engine holds a lease. -/
theorem one_unresolved_session
    {state : Service.Concurrent Answer EngineId Request Reply World}
    (reachable : (service SharedLaw).ConcurrentReachable World.empty state) :
    (unfinished state.world.files).length ≤ 1 ∧
      ∀ first second, (state.world.active first).isSome → (state.world.active second).isSome →
        first = second := by
  obtain ⟨exclusive, -⟩ := sharedContract_sound.reachable reachable
  refine ⟨exclusive.single, fun first second active active' => ?_⟩
  obtain ⟨sessionId, leased⟩ := Option.isSome_iff_exists.mp active
  obtain ⟨sessionId', leased'⟩ := Option.isSome_iff_exists.mp active'
  have holder := (exclusive.leased first sessionId leased).holder
  have holder' := (exclusive.leased second sessionId' leased').holder
  exact Option.some.inj (holder.symm.trans holder')

/-- The ports of the test kit share a store and an exclusive lock. -/
theorem Testkit.shared_law (kit : Testkit) {engine : EngineId} {world : World} (call : Call) :
    SharedLaw engine world call (kit.respond engine world call).1
      (kit.respond engine world call).2 where
  toLaw := kit.law call
  lock := kit.lock_law call
  created := by
    cases call with
    | create record =>
        show CreateLaw world.files (Testkit.files world (.create record)) (.create record)
          (Testkit.create world.files record)
        cases created : Testkit.create world.files record with
        | error error =>
            intro _
            simp [Testkit.files, created, Except.toBool]
        | ok done => trivial
    | _ => trivial

theorem Testkit.shared_serve (kit : Testkit) {world : World}
    (reachable : (service SharedLaw).ConcurrentReachable World.empty ⟨world, fun _ => none⟩)
    (engine : EngineId) (request : Request) :
    (service SharedLaw).ConcurrentReachable World.empty
      ⟨kit.serve engine request world, fun _ => none⟩ :=
  Service.ConcurrentReachable.serve rfl reachable
    (Executes.exec (fun _ => kit.shared_law) _ _)

/-- An engine has prepared a session. -/
def unresolvedWorld : World :=
  steadyKit.serve 0 (.prepare (fixturePlan governorMutation)) World.empty

theorem unresolvedWorld_reachable :
    (service SharedLaw).ConcurrentReachable World.empty ⟨unresolvedWorld, fun _ => none⟩ := by
  unfold unresolvedWorld
  exact steadyKit.shared_serve .refl 0 _

theorem one_unresolved_session_governor :
    ((unfinished unresolvedWorld.files).length = 1 ∧
      unresolvedWorld.active 0 = some steadyKit.sessionId) ∧
      (unfinished unresolvedWorld.files).length ≤ 1 ∧
        ∀ first second, (unresolvedWorld.active first).isSome →
          (unresolvedWorld.active second).isSome → first = second := by
  refine ⟨by decide +kernel, ?_⟩
  have reachable := unresolvedWorld_reachable
  generalize unresolvedWorld = world at reachable ⊢
  exact one_unresolved_session reachable

end Sysboost.Platform
