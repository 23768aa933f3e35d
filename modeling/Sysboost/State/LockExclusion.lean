import Sysboost.State.LockCalls
import Sysboost.State.LockWorld

/-!
# Exclusion by the lock file

The lock path is unlinked by name, after a look at the identity of the file it
names.  Where every unlink meets a file that no live acquirer keeps open, the
file that an acquirer has created stays at the path, and so at most one
acquirer holds a guard.  An unlink that meets another file lets two in.
-/

namespace Sysboost.State

open Sysboost.Core Sysboost.Platform ByteCodec Interaction Storage

variable {Party : Type} [DecidableEq Party] {lock : FileSessionLock}
  {processes : Party → Process}

/-- A successful unlink takes away no file that an acquirer has created and keeps
open. -/
def Spares (world : LockWorld Party) : (call : LockCall) → LockAnswer call → Prop
  | .removeFile, .ok () => ∀ party object, world.created party = some object →
      world.entry ≠ some object
  | _, _ => True

/-- The acquirers in those runs in which every unlink spares the live. -/
def sparingService (lock : FileSessionLock) (processes : Party → Process) :
    Service LockAnswer Party LockRequest LockReply (LockWorld Party) :=
  { lockService lock processes with
    env := fun party world call answer after =>
      LockLaw processes party world call answer after ∧ Spares world call answer }

/-! ## What a call can do -/

/-- The effect of a call on the path and on the files that are kept open. -/
inductive LockEffect (party : Party) (world after : LockWorld Party) : LockCall → Prop
  | keeps {call : LockCall} (entry : after.entry = world.entry)
      (created : after.created = world.created) : LockEffect party world after call
  | creates (mode : UInt32) (free : world.entry = none) (object : Nat)
      (entry : after.entry = some object)
      (created : after.created = Function.update world.created party (some object)) :
      LockEffect party world after (.createNew mode)
  | closes (entry : after.entry = world.entry)
      (created : after.created = Function.update world.created party none) :
      LockEffect party world after .closeCreated
  | unlinks (spared : ∀ party object, world.created party = some object →
      world.entry ≠ some object) (entry : after.entry = none)
      (created : after.created = world.created) : LockEffect party world after .removeFile

omit [DecidableEq Party] in
/-- Writing a file moves nothing. -/
theorem LockWorld.fill_eq (world : LockWorld Party) (object : Option Nat) (content : Bytes) :
    (world.fill object content).entry = world.entry ∧
      (world.fill object content).created = world.created ∧
      (world.fill object content).guards = world.guards := by
  cases object with
  | none => exact ⟨rfl, rfl, rfl⟩
  | some object => exact ⟨rfl, rfl, rfl⟩

theorem LockLaw.effect {party : Party} {world after : LockWorld Party} {call : LockCall}
    {answer : LockAnswer call} (law : LockLaw processes party world call answer after)
    (spares : Spares world call answer) :
    after.guards = world.guards ∧ LockEffect party world after call := by
  have still (same : after = world) :
      after.guards = world.guards ∧ LockEffect party world after call := by
    subst same
    exact ⟨rfl, .keeps rfl rfl⟩
  have fills {object : Option Nat} {content : Bytes} (same : after = world.fill object content) :
      after.guards = world.guards ∧ LockEffect party world after call := by
    subst same
    obtain ⟨entry, created, guards⟩ := world.fill_eq object content
    exact ⟨guards, .keeps entry created⟩
  cases call with
  | root call =>
      obtain ⟨disk, -, rfl⟩ := law
      exact ⟨rfl, .keeps rfl rfl⟩
  | createNew mode =>
      cases answer with
      | ok _ =>
          obtain ⟨free, identity, rfl⟩ := law
          exact ⟨rfl, .creates mode free _ rfl rfl⟩
      | error kind => exact still law.2
  | createdMetadata =>
      cases answer with
      | ok stat => exact still law.2
      | error kind => exact still law
  | writeCreated content =>
      cases answer with
      | ok _ => exact fills law
      | error kind =>
          obtain ⟨part, -, same⟩ := law
          exact fills same
  | syncCreated => exact still law
  | closeCreated =>
      obtain rfl : after = world.close party := law
      exact ⟨rfl, .closes rfl rfl⟩
  | symlinkMetadata =>
      cases answer with
      | ok stat => exact still law.2
      | error kind => exact still law.2
  | openFile =>
      cases answer with
      | ok _ =>
          obtain ⟨-, rfl⟩ := law
          exact ⟨rfl, .keeps rfl rfl⟩
      | error kind => exact still law
  | openedMetadata =>
      cases answer with
      | ok stat => exact still law.2
      | error kind => exact still law
  | readOpened limit =>
      cases answer with
      | ok bytes => exact still law.2
      | error kind => exact still law
  | removeFile =>
      cases answer with
      | ok _ =>
          obtain ⟨-, rfl⟩ := law
          exact ⟨rfl, .unlinks spares rfl rfl⟩
      | error kind => exact still law.2
  | processId => exact still law.2
  | readStat pid =>
      cases answer with
      | ok stat => exact still law.2
      | error kind => exact still law.2
  | readBootId => exact still law

/-! ## What an acquirer keeps -/

/-- The file that an acquirer keeps open is at the path, and it keeps one open
while it holds a guard. -/
structure Owns (party : Party) (world : LockWorld Party) : Prop where
  linked : ∀ object, world.created party = some object → world.entry = some object
  guarded : world.guards party ≠ none → world.created party ≠ none

/-- The steps of the others leave the files of an acquirer alone. -/
structure Undisturbed (party : Party) (before after : LockWorld Party) : Prop where
  created : after.created party = before.created party
  guards : after.guards party = before.guards party
  linked : ∀ object, before.created party = some object → before.entry = some object →
    after.entry = some object

/-- Every file that is kept open is at the path, no two acquirers keep one, and
who holds a guard keeps one. -/
structure Single (world : LockWorld Party) : Prop where
  linked : ∀ party object, world.created party = some object → world.entry = some object
  sole : ∀ party other, world.created party ≠ none → world.created other ≠ none → party = other
  guarded : ∀ party, world.guards party ≠ none → world.created party ≠ none

/-- A file is not closed under a guard. -/
def Closes (party : Party) (world : LockWorld Party) (call : LockCall) : Prop :=
  call = .closeCreated → world.guards party = none

omit [DecidableEq Party] in
theorem Undisturbed.refl (party : Party) (world : LockWorld Party) :
    Undisturbed party world world :=
  ⟨rfl, rfl, fun _ _ entry => entry⟩

omit [DecidableEq Party] in
theorem Undisturbed.trans {party : Party} {first second third : LockWorld Party}
    (one : Undisturbed party first second) (two : Undisturbed party second third) :
    Undisturbed party first third where
  created := two.created.trans one.created
  guards := two.guards.trans one.guards
  linked object created entry :=
    two.linked object (one.created.trans created) (one.linked object created entry)

omit [DecidableEq Party] in
theorem Owns.stable {party : Party} {before after : LockWorld Party}
    (step : Undisturbed party before after) (owns : Owns party before) : Owns party after where
  linked object created := by
    rw [step.created] at created
    exact step.linked object created (owns.linked object created)
  guarded held := by
    rw [step.guards] at held
    rw [step.created]
    exact owns.guarded held

section Effect

variable {party : Party} {world after : LockWorld Party} {call : LockCall}

/-- No step disturbs the others. -/
theorem LockEffect.undisturbed (effect : LockEffect party world after call)
    (guards : after.guards = world.guards) {other : Party} (different : other ≠ party) :
    Undisturbed other world after := by
  constructor
  · cases effect with
    | keeps _ created => rw [created]
    | creates _ _ _ _ created => rw [created, Function.update_of_ne different]
    | closes _ created => rw [created, Function.update_of_ne different]
    | unlinks _ _ created => rw [created]
  · rw [guards]
  · intro object created linked
    cases effect with
    | keeps entry => rwa [entry]
    | creates _ free => simp [free] at linked
    | closes entry => rwa [entry]
    | unlinks spared => exact absurd linked (spared other object created)

theorem LockEffect.single (effect : LockEffect party world after call)
    (guards : after.guards = world.guards) (closes : Closes party world call)
    (single : Single world) : Single after := by
  have guarded (kept : ∀ other, world.created other ≠ none → world.guards other ≠ none →
      after.created other ≠ none) : ∀ other, after.guards other ≠ none →
      after.created other ≠ none := by
    intro other held
    rw [guards] at held
    exact kept other (single.guarded other held) held
  cases effect with
  | keeps entry created =>
      constructor
      · rw [entry, created]
        exact single.linked
      · rw [created]
        exact single.sole
      · rw [created, guards]
        exact single.guarded
  | creates mode free object entry created =>
      -- Nothing was at the path, so nobody kept a file open.
      have nobody (other : Party) : world.created other = none := by
        cases kept : world.created other with
        | none => rfl
        | some old =>
            have linked := single.linked other old kept
            rw [free] at linked
            cases linked
      have only (other : Party) (kept : after.created other ≠ none) : other = party := by
        by_cases same : other = party
        · exact same
        · rw [created, Function.update_of_ne same] at kept
          exact absurd (nobody other) kept
      constructor
      · intro other found kept
        obtain rfl := only other (by simp [kept])
        rw [created, Function.update_self] at kept
        rw [entry, kept]
      · intro first second kept also
        rw [only first kept, only second also]
      · exact guarded fun other kept _ => absurd (nobody other) kept
  | closes entry created =>
      have before {other : Party} (kept : after.created other ≠ none) :
          after.created other = world.created other := by
        by_cases same : other = party
        · subst same
          simp [created] at kept
        · rw [created, Function.update_of_ne same]
      constructor
      · intro other object kept
        rw [before (by simp [kept])] at kept
        rw [entry, single.linked other object kept]
      · intro first second kept also
        refine single.sole first second ?_ ?_
        · rwa [← before kept]
        · rwa [← before also]
      · refine guarded fun other kept held => ?_
        have different : other ≠ party := by
          rintro rfl
          exact held (closes rfl)
        rwa [created, Function.update_of_ne different]
  | unlinks spared entry created =>
      have nobody (other : Party) : world.created other = none := by
        cases kept : world.created other with
        | none => rfl
        | some object => exact absurd (single.linked other object kept) (spared other object kept)
      constructor
      · intro other object kept
        rw [created, nobody other] at kept
        cases kept
      · intro first _ kept
        rw [created] at kept
        exact absurd (nobody first) kept
      · exact guarded fun other kept _ => absurd (nobody other) kept

end Effect

/-! ## What an acquirer does -/

/-- What an acquirer keeps while it makes its calls. -/
structure Standing (party : Party) (created : Option Nat) (guard : Option FileSessionLockGuard)
    (world : LockWorld Party) : Prop where
  owns : Owns party world
  created : world.created party = created
  guard : world.guards party = guard

/-- Safety of an acquirer among others that spare the live. -/
abbrev Keeping (processes : Party → Process) (party : Party) {α : Type}
    (post : α → LockWorld Party → Prop) (program : Prog LockAnswer α) (world : LockWorld Party) :
    Prop :=
  Safe (fun world call answer after =>
      LockLaw processes party world call answer after ∧ Spares world call answer)
    (Undisturbed party) (Closes party) post program world

section Keeping

variable {party : Party} {created : Option Nat} {guard : Option FileSessionLockGuard}
  {world : LockWorld Party} {α : Type}

omit [DecidableEq Party] in
theorem Standing.stable {after : LockWorld Party} (step : Undisturbed party world after)
    (standing : Standing party created guard world) : Standing party created guard after :=
  ⟨standing.owns.stable step, step.created.trans standing.created,
    step.guards.trans standing.guard⟩

omit [DecidableEq Party] in
/-- Nothing is kept open at a free path. -/
theorem Standing.none_of_free (standing : Standing party created guard world)
    (free : world.entry = none) : created = none ∧ guard = none := by
  have nothing : world.created party = none := by
    cases kept : world.created party with
    | none => rfl
    | some object =>
        have linked := standing.owns.linked object kept
        rw [free] at linked
        cases linked
  refine ⟨standing.created.symm.trans nothing, ?_⟩
  cases held : world.guards party with
  | none => rw [← standing.guard, held]
  | some guard => exact absurd nothing (standing.owns.guarded (by simp [held]))

theorem ret_keeping {post : α → LockWorld Party → Prop} {value : α}
    (standing : Standing party created guard world)
    (returned : ∀ later, Standing party created guard later → post value later) :
    Keeping processes party post (.ret value) world :=
  Safe.ret Standing.stable standing returned

/-- What neither creates nor closes a lock file keeps what there is. -/
theorem neutral_keeping {post : α → Prop} {program : Prog LockAnswer α}
    (within : Within LockCall.Neutral post program)
    (standing : Standing party created guard world) :
    Keeping processes party (fun value after => post value ∧ Standing party created guard after)
      program world := by
  refine Within.safe (fun step holds => Standing.stable step holds) ?_ within standing
  intro world call standing neutral
  refine ⟨by rintro rfl; exact neutral.elim, fun answer after law => ?_⟩
  obtain ⟨law, spares⟩ := law
  obtain ⟨guards, effect⟩ := law.effect spares
  have keep (entry : ∀ object, world.created party = some object → after.entry = some object)
      (same : after.created = world.created) : Standing party created guard after := by
    refine ⟨⟨fun object kept => ?_, fun held => ?_⟩, ?_, ?_⟩
    · rw [same] at kept
      exact entry object kept
    · rw [same]
      rw [guards] at held
      exact standing.owns.guarded held
    · rw [same, standing.created]
    · rw [guards, standing.guard]
  cases effect with
  | keeps entry same => exact keep (fun object kept => entry ▸ standing.owns.linked object kept) same
  | creates => exact neutral.elim
  | closes => exact neutral.elim
  | unlinks spared _ same =>
      refine keep (fun object kept => ?_) same
      exact absurd (standing.owns.linked object kept) (spared party object kept)

/-- After an acquisition: an acquirer that had nothing keeps a file open, or
nothing has changed. -/
def Acquired (party : Party) (created : Option Nat) (guard : Option FileSessionLockGuard)
    {ε : Type} : Except ε α → LockWorld Party → Prop
  | .ok _, world => created = none ∧ guard = none ∧ ∃ object, Standing party (some object) none world
  | .error _, world => Standing party created guard world

/-- Create the lock file: it is new at a free path. -/
theorem createNew_keeping {ε : Type} {change : IoErrorKind → ε} {mode : UInt32}
    (standing : Standing party created guard world) :
    Keeping processes party (Acquired party created guard)
      (Early.attempt change (Prog.perform (LockCall.createNew mode))).run world := by
  refine Safe.perform_bind Standing.stable standing fun later standing => ⟨nofun, ?_⟩
  rintro answer after ⟨law, -⟩
  cases answer with
  | error kind =>
      obtain ⟨-, rfl⟩ := law
      exact ret_keeping standing fun _ standing => standing
  | ok _ =>
      obtain ⟨free, identity, rfl⟩ := law
      obtain ⟨rfl, rfl⟩ := standing.none_of_free free
      have opened : Standing party (some later.files.length) none
          (later.create party ((processes party).newFile mode).metadata identity) := by
        refine ⟨⟨fun object kept => ?_, fun held => ?_⟩, ?_, standing.guard⟩
        · simpa [LockWorld.create] using kept
        · exact absurd standing.guard held
        · simp [LockWorld.create]
      exact ret_keeping opened fun _ standing => ⟨rfl, rfl, _, standing⟩

/-- Close it again: the acquirer keeps nothing. -/
theorem closeCreated_keeping {object : Option Nat} (standing : Standing party object none world) :
    Keeping processes party (fun _ after => Standing party none none after)
      (Prog.perform LockCall.closeCreated) world := by
  refine Safe.perform Standing.stable standing fun later standing => ⟨fun _ => standing.guard, ?_⟩
  rintro ⟨⟩ after ⟨law, -⟩
  obtain rfl : after = later.close party := law
  have closed : Standing party none none (later.close party) := by
    refine ⟨⟨fun object kept => ?_, fun held => ?_⟩, ?_, standing.guard⟩
    · simp [LockWorld.close] at kept
    · exact absurd standing.guard held
    · simp [LockWorld.close]
  exact ret_keeping closed fun _ standing => standing

theorem tryCreate_keeping {owner : ProcessIdentity} (strong : owner.Strong)
    (standing : Standing party created guard world) :
    Keeping processes party (Acquired party created guard) (lock.tryCreate owner).run world := by
  refine Safe.run_seq (Undisturbed.refl party) (createNew_keeping standing)
    (fun _ _ failed => ret_keeping failed fun _ standing => standing) ?_
  rintro _ after ⟨rfl, rfl, object, opened⟩
  refine Safe.seq (Undisturbed.refl party)
    (neutral_keeping (lock.fillCreated_makes strong).calls opened) ?_
  rintro filled later ⟨-, standing⟩
  cases filled with
  | ok identity => exact ret_keeping standing fun _ standing => ⟨rfl, rfl, object, standing⟩
  | error failure =>
      refine Safe.lift_seq (Undisturbed.refl party) (closeCreated_keeping standing) ?_
      intro _ closed nothing
      exact ret_keeping nothing fun _ standing => standing

theorem attempts_keeping {owner : ProcessIdentity} (strong : owner.Strong) (left : Nat)
    (standing : Standing party created guard world) :
    Keeping processes party (Acquired party created guard) (lock.attempts owner left).run world := by
  induction left generalizing world with
  | zero => exact ret_keeping standing fun _ standing => standing
  | succ left ih =>
      refine Safe.seq (Undisturbed.refl party) (tryCreate_keeping strong standing) ?_
      intro tried after acquired
      dsimp only
      split
      · obtain ⟨rfl, rfl, object, standing⟩ := acquired
        exact ret_keeping standing fun _ standing => ⟨rfl, rfl, object, standing⟩
      · refine Safe.run_seq (Undisturbed.refl party)
          (neutral_keeping lock.reclaimStaleLock_makes.calls acquired) ?_ ?_
        · rintro error later ⟨-, standing⟩
          exact ret_keeping standing fun _ standing => standing
        · rintro reclaimed later ⟨-, standing⟩
          split
          · exact ih standing
          · exact ret_keeping standing fun _ standing => standing
      · refine Safe.lift_seq (Undisturbed.refl party)
          (neutral_keeping (FileSessionLock.discardCreated_within _) acquired) ?_
        rintro _ later ⟨-, standing⟩
        exact ret_keeping standing fun _ standing => standing

theorem acquire_keeping (standing : Standing party created guard world) :
    Keeping processes party (Acquired party created guard) lock.acquire.run world := by
  refine Safe.run_seq (Undisturbed.refl party)
    (neutral_keeping (onRoot_makes lock.store.ensureRoot).calls standing) ?_ ?_
  · rintro error later ⟨-, standing⟩
    exact ret_keeping standing fun _ standing => standing
  rintro _ later ⟨-, standing⟩
  refine Safe.run_seq (Undisturbed.refl party)
    (neutral_keeping currentProcess_strong standing) ?_ ?_
  · rintro error later ⟨-, standing⟩
    exact ret_keeping standing fun _ standing => standing
  · rintro owner later ⟨strong, standing⟩
    exact attempts_keeping (strong owner rfl) 2 standing

/-- A guard that is dropped is closed first. -/
theorem drop_keeping (held : FileSessionLockGuard) (standing : Standing party created none world) :
    Keeping processes party (fun _ after => Standing party none none after) held.drop world := by
  refine Safe.seq (Undisturbed.refl party) (closeCreated_keeping standing) fun _ _ closed => ?_
  exact (neutral_keeping (unlink_within held) closed).mono fun _ _ known => known.2

end Keeping

/-! ## Every run -/

/-- Nobody keeps a lock file open or holds a guard. -/
def Idle (world : LockWorld Party) : Prop :=
  ∀ party, world.created party = none ∧ world.guards party = none

def exclusionContract (lock : FileSessionLock) (processes : Party → Process) :
    Service.Contract (sparingService lock processes) where
  invariant := Single
  idle := Owns
  rely := Undisturbed
  guard := Closes

section Hold

variable {party : Party} {world : LockWorld Party} {guard : Option FileSessionLockGuard}

theorem hold_undisturbed {other : Party} (different : other ≠ party) :
    Undisturbed other world (world.hold party guard) :=
  ⟨rfl, Function.update_of_ne different _ _, fun _ _ entry => entry⟩

/-- A guard over a file that is kept open, or none. -/
theorem Single.hold (single : Single world) (kept : guard ≠ none → world.created party ≠ none) :
    Single (world.hold party guard) := by
  refine ⟨single.linked, single.sole, fun other held => ?_⟩
  by_cases same : other = party
  · subst same
    refine kept ?_
    simpa [LockWorld.hold] using held
  · refine single.guarded other ?_
    simpa [LockWorld.hold, Function.update_of_ne same] using held

/-- An acquirer that dies keeps nothing. -/
theorem Single.die (single : Single world) (pid : UInt32) : Single (world.die party pid) := by
  have effect : LockEffect party (world.hold party none) ((world.hold party none).close party)
      .closeCreated := .closes rfl rfl
  have closed := effect.single rfl (fun _ => Function.update_self ..) (single.hold nofun)
  exact ⟨closed.linked, closed.sole, closed.guarded⟩

end Hold

theorem exclusionContract_sound {initial : LockWorld Party} (idle : Idle initial) :
    (exclusionContract lock processes).Sound initial where
  rely_trans _ _ _ _ := Undisturbed.trans
  rely_refl := Undisturbed.refl
  idle_stable := Owns.stable
  start := by
    have nothing {party : Party} {object : Nat} (kept : initial.created party = some object) :
        False := by
      rw [(idle party).1] at kept
      cases kept
    refine ⟨⟨fun _ _ kept => (nothing kept).elim, fun party _ kept => absurd (idle party).1 kept,
      fun party held => absurd (idle party).2 held⟩, fun party => ⟨?_, ?_⟩⟩
    · exact fun _ kept => (nothing kept).elim
    · exact fun held => absurd (idle party).2 held
  issue party request world single owns := by
    have standing : Standing party (world.created party) (world.guards party) world :=
      ⟨owns, rfl, rfl⟩
    cases request with
    | acquire =>
        refine ⟨single, Safe.seq (Undisturbed.refl party) (acquire_keeping standing) ?_⟩
        rintro (error | guard) after acquired
        · exact ret_keeping acquired fun _ standing => standing.owns
        · obtain ⟨-, -, object, standing⟩ := acquired
          refine ret_keeping standing fun later standing => ⟨standing.owns.linked, fun _ => ?_⟩
          exact fun nothing => nomatch standing.created.symm.trans nothing
    | drop guard =>
        have dropped : Standing party (world.created party) none (world.hold party none) :=
          ⟨⟨owns.linked, fun held => absurd (Function.update_self ..) held⟩, rfl,
            Function.update_self ..⟩
        refine ⟨single.hold nofun, ?_⟩
        refine Safe.seq (Undisturbed.refl party) (drop_keeping guard dropped) fun _ _ closed => ?_
        exact ret_keeping closed fun _ standing => standing.owns
  issue_rely {party other} request world different := by
    cases request with
    | acquire => exact Undisturbed.refl other world
    | drop guard => exact hold_undisturbed different
  law := by
    rintro party world call answer after single closes ⟨law, spares⟩
    obtain ⟨guards, effect⟩ := law.effect spares
    exact ⟨effect.single guards closes single, fun other different =>
      effect.undisturbed guards different⟩
  reply {party request result world} single owns := by
    rcases result with error | _ | guard
    · exact ⟨single, fun other _ => Undisturbed.refl other world⟩
    · exact ⟨single, fun other _ => Undisturbed.refl other world⟩
    · refine ⟨single.hold fun _ => ?_, fun other different => hold_undisturbed different⟩
      refine owns.guarded fun none => ?_
      simp [sparingService, lockService, LockWorld.hold] at none
  stop party world single := by
    refine ⟨single.die _, ⟨fun object kept => ?_, fun held => ?_⟩, fun other different => ?_⟩
    · simp [sparingService, lockService, LockWorld.die] at kept
    · simp [sparingService, lockService, LockWorld.die] at held
    · exact ⟨Function.update_of_ne different _ _, Function.update_of_ne different _ _,
        fun _ _ entry => entry⟩

/-- However acquirers interleave, die and drop their guards: while every unlink
spares the files that live acquirers keep open, at most one holds a guard. -/
theorem lock_exclusive {initial : LockWorld Party} (idle : Idle initial)
    {state : Service.Concurrent LockAnswer Party LockRequest LockReply (LockWorld Party)}
    (reachable : Service.ConcurrentReachable (sparingService lock processes) initial state)
    {party other : Party} (held : state.world.guards party ≠ none)
    (also : state.world.guards other ≠ none) : party = other := by
  have single : Single state.world := ((exclusionContract_sound idle).reachable reachable).1
  exact single.sole party other (single.guarded party held) (single.guarded other also)

/-! ## An unlink that comes too late -/

namespace Overtaken

inductive Acquirer where
  | gone
  | slow
  | quick
deriving DecidableEq

def process : Acquirer → Process
  | .gone => ⟨11, 0, 0, 0o22, by decide⟩
  | .slow => ⟨12, 0, 0, 0o22, by decide⟩
  | .quick => ⟨13, 0, 0, 0o22, by decide⟩

def sharedLock : FileSessionLock :=
  ⟨true, .rootOwned⟩

def bootText : String :=
  "5d0c1e9a-7f3b-4c52-9c11-0a6b2f4e8d37\n"

/-- Three processes live, and there is no lock file. -/
def fresh : LockWorld Acquirer where
  disk := ⟨some ⟨.directory, 0, 0, 0o700, 2⟩, ∅, []⟩
  files := []
  entry := none
  created _ := none
  opened _ := none
  guards _ := none
  stats pid :=
    if pid = 11 ∨ pid = 12 ∨ pid = 13 then
      some "11 (sysboost) S 1 11 11 0 -1 4194560 900 0 0 0 3 1 0 0 20 0 1 0 3120 0 0"
    else none

theorem fresh_idle : Idle fresh :=
  fun _ => ⟨rfl, rfl⟩

/-- Answers to the calls of an acquirer. -/
abbrev Answering :=
  LockWorld Acquirer → (call : LockCall) → LockAnswer call × LockWorld Acquirer

def respond (acquirer : Acquirer) : Answering :=
  lockRespond (process acquirer) bootText acquirer

theorem respond_law (acquirer : Acquirer) (world : LockWorld Acquirer) (call : LockCall) :
    LockLaw process acquirer world call (respond acquirer world call).1
      (respond acquirer world call).2 :=
  lockRespond_law process bootText acquirer world call

/-- The same without unlinking. -/
def refuse (acquirer : Acquirer) : Answering
  | world, .removeFile => (.error .other, world)
  | world, call => respond acquirer world call

theorem refuse_spares (acquirer : Acquirer) (world : LockWorld Acquirer) (call : LockCall) :
    LockLaw process acquirer world call (refuse acquirer world call).1
        (refuse acquirer world call).2 ∧
      Spares world call (refuse acquirer world call).1 := by
  cases call with
  | removeFile => exact ⟨⟨nofun, rfl⟩, trivial⟩
  | _ => exact ⟨respond_law acquirer world _, trivial⟩

/-- The program of an acquisition. -/
def acquiring : Prog LockAnswer LockReply :=
  (lockService sharedLock process).program .acquire

/-- The rest of an acquisition runs to its end. -/
def settle (acquirer : Acquirer) (answer : Answering) (rest : Prog LockAnswer LockReply)
    (world : LockWorld Acquirer) : LockWorld Acquirer :=
  let outcome := rest.exec answer world
  (lockService sharedLock process).reply acquirer .acquire outcome.1 outcome.2

/-- The first owner has acquired the lock. -/
def owned : LockWorld Acquirer :=
  settle .gone (refuse .gone) acquiring fresh

/-- It is the only one. -/
theorem lock_exclusive_owned :
    owned.guards .gone ≠ none ∧ ∀ other, owned.guards other ≠ none → .gone = other := by
  have held : owned.guards .gone ≠ none := by decide +kernel
  let service := sparingService sharedLock process
  have start : Service.ConcurrentReachable service fresh ⟨fresh, fun _ => none⟩ := .refl
  have run : Executes (service.env .gone) (service.program .acquire)
      (service.issue .gone .acquire fresh) _ _ := .exec (refuse_spares .gone) acquiring fresh
  have reachable : Service.ConcurrentReachable service fresh ⟨owned, fun _ => none⟩ :=
    start.serve rfl run
  exact ⟨held, fun _ also => lock_exclusive fresh_idle reachable held also⟩

/-- It has died, and another acquirer is about to unlink its lock file. -/
def stalled : Prog LockAnswer LockReply × LockWorld Acquirer :=
  acquiring.advance (respond .slow) 11 (owned.die .gone 11)

/-- A third one has reclaimed the lock before it does so. -/
def overtaken : LockWorld Acquirer :=
  settle .quick (respond .quick) acquiring stalled.2

theorem overtaken_reachable :
    Service.ConcurrentReachable (lockService sharedLock process) fresh
      ⟨settle .slow (respond .slow) stalled.1 overtaken, fun _ => none⟩ := by
  have first : Service.ConcurrentReachable (lockService sharedLock process) fresh
      ⟨owned, fun _ => none⟩ :=
    .serve rfl .refl (.exec (fun world call => (refuse_spares .gone world call).1) _ _)
  have dead : Service.ConcurrentReachable (lockService sharedLock process) fresh
      ⟨owned.die .gone 11, fun _ => none⟩ := first.leave rfl
  have reclaiming := (dead.start .slow rfl .acquire).advance (respond_law .slow) 11
  have third : Service.ConcurrentReachable (lockService sharedLock process) fresh
      ⟨overtaken, Function.update (fun _ => none) Acquirer.slow (some (.acquire, stalled.1))⟩ :=
    .serve rfl reclaiming (.exec (respond_law .quick) _ _)
  exact third.complete rfl (.exec (respond_law .slow) _ _)

/-- The late unlink takes the lock file of a live owner away. -/
theorem two_guards :
    ∃ state, Service.ConcurrentReachable (lockService sharedLock process) fresh state ∧
      state.world.guards .slow ≠ none ∧ state.world.guards .quick ≠ none := by
  refine ⟨_, overtaken_reachable, ?_, ?_⟩
  · decide +kernel
  · decide +kernel

end Overtaken

end Sysboost.State
