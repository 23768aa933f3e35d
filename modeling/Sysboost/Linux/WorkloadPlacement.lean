import Sysboost.Linux.WorkloadHonesty

/-!
# Restoring a process placement

The adapter writes a placement to the group of the mutation, also when the value
to write is the captured original.  Where writing a PID to a group moves the
process there, a restore leaves the process at the destination.
-/

namespace Sysboost.Linux.Workload

open Sysboost.Core Sysboost.Planner ByteCodec Interaction Results

section Placement

variable {W : Type} {env : Environment Answer W} {located : W → ProcessId → Kernel.Path}
  {groups : W → TargetId → Option SysfsGroup}

/-- The text that moves a process to the group to which it is written. -/
def pidText (process : ProcessId) : Bytes :=
  utf8 (toString (WorkloadSysfs.rawPid process) ++ "\n")

/-- Writing a PID to a group moves the process to its directory, what only reads
moves nothing and keeps the table, and a group is looked up in the table. -/
structure Moves (env : Environment Answer W) (located : W → ProcessId → Kernel.Path)
    (groups : W → TargetId → Option SysfsGroup) : Prop where
  moves : ∀ {world after : W} {process : ProcessId} {group : SysfsGroup},
    env world (.kernel (.writeAll (group.file WorkloadControlFile.procs.filename)
      (pidText process))) (.ok ()) after → located after process = group.path
  stays : ∀ {world after : W} {call : Call} {answer : Answer call}, call.OnlyReads →
    env world call answer after → located after = located world ∧ groups after = groups world
  finds : ∀ {world after : W} {handle : TargetId} {found : Option SysfsGroup},
    env world (.group handle) (.ok found) after → found = groups world handle

/-- What a program returns, whatever the answers are. -/
theorem alone_within {α : Type} {post : α → Prop} {program : Prog Answer α}
    (within : Within (fun _ => True) post program) (world : W) :
    Alone env (fun _ _ => True) (fun value _ => post value) program world := by
  have safe : Alone env (fun _ _ => True) (fun value _ => post value ∧ True) program world :=
    within.safe (fun _ _ => trivial) (fun _ _ => ⟨trivial, fun _ _ _ => trivial⟩) trivial
  exact safe.mono fun _ _ known => known.1

theorem alone_check {α : Type} {result : Except SysboostError α} {world : W}
    {post : Except SysboostError α → W → Prop} (holds : post result world) :
    Alone env (fun _ _ => True) post (Early.check result : Io α).run world :=
  Alone.ret_iff.mpr holds

/-- What only reads moves nothing and keeps the table. -/
theorem Moves.alone_reads (moves : Moves env located groups) {α : Type} {program : Io α}
    (calls : Calls Call.OnlyReads program) (world : W) :
    Alone env (fun _ _ => True)
      (fun _ after => located after = located world ∧ groups after = groups world)
      program.run world := by
  have safe : Alone env (fun _ _ => True)
      (fun _ after => True ∧ (located after = located world ∧ groups after = groups world))
      program.run world := by
    refine calls.calls.safe ?_ ?_ ⟨rfl, rfl⟩
    · rintro before _ rfl holds
      exact holds
    · rintro middle call ⟨same, table⟩ reads
      refine ⟨trivial, fun answer after law => ?_⟩
      obtain ⟨stays, keeps⟩ := moves.stays reads law
      exact ⟨stays.trans same, keeps.trans table⟩
  exact safe.mono fun _ _ known => known.2

section Destination

variable {process : ProcessId} {destination : CgroupId} {target : SysfsGroup} {world : W}

/-- The group of an identity is the one in the table. -/
theorem Moves.groupFor_finds (moves : Moves env located groups)
    (found : groups world destination.handle = some target) :
    Alone env (fun _ _ => True) (fun result _ => ∀ group, result = .ok group → group = target)
      (groupFor destination).run world := by
  unfold groupFor
  refine Alone.run_seq (m := fun _ after => after = world) (alone_check rfl)
    (fun _ _ _ => nofun) ?_
  rintro _ _ rfl
  refine Alone.run_seq (m := fun result _ => ∀ found, result = .ok found → found = some target)
    ?_ (fun _ _ _ => nofun) ?_
  · refine Alone.call_iff.mpr ⟨trivial, fun answer after law => Alone.ret_iff.mpr ?_⟩
    rintro other same
    cases answer with
    | error error => cases same
    | ok table =>
        cases same
        exact (moves.finds law).trans found
  · intro found after known
    cases known found rfl
    have returns : Within (fun _ => True) (fun result => ∀ group, result = .ok group →
        group = target) (do
          Early.refuseIf (target.identity ≠ destination)
            (targetError "cgroup target identity does not match discovery")
          let identity ← cgroupIdFromPath target.identity.handle.asStr target.path
            "cgroup target disappeared or changed identity"
          Early.refuseIf (identity.mountId ≠ target.identity.mountId ||
              identity.inode ≠ target.identity.inode)
            (targetError "cgroup target was replaced after discovery")
          return target : Io SysfsGroup).run := by
      refine Within.run_seq (Within.any _) (fun _ _ => nofun) fun _ _ => ?_
      refine Within.run_seq (Within.any _) (fun _ _ => nofun) fun _ _ => ?_
      refine Within.run_seq (Within.any _) (fun _ _ => nofun) fun _ _ => ?_
      exact fun _ same => (Except.ok.inj same).symm
    exact alone_within returns after

/-- A PID that has been written has moved its process. -/
theorem Moves.writeProcessPlacement_moves (moves : Moves env located groups)
    (sysfs : WorkloadSysfs) (world : W) :
    Alone env (fun _ _ => True) (fun result after => result = .ok () →
      located after process = target.path) (sysfs.writeProcessPlacement process target).run
      world := by
  have identity := (sysfs.readProcIdentity_calls process).weaken fun _ reads =>
    reads.findsGroup.findsProcess.onlyReads
  refine Alone.run_seq (alone_within (Within.any _) _) (fun _ _ _ => nofun) fun _ _ _ => ?_
  refine Alone.run_seq (m := fun result after => result = .ok () →
    located after process = target.path) ?_ (fun _ _ _ => nofun) ?_
  · refine Alone.run_seq (alone_within (Within.any _) _) (fun _ _ _ => nofun) fun _ _ _ => ?_
    refine Alone.run_seq (alone_within (Within.any _) _) (fun _ _ _ => nofun) fun _ _ _ => ?_
    refine Alone.run_seq (alone_within (Within.any _) _) (fun _ _ _ => nofun) fun _ _ _ => ?_
    refine Alone.run_seq (alone_within (Within.any _) _) (fun _ _ _ => nofun) fun _ _ _ => ?_
    refine Alone.call_iff.mpr ⟨trivial, fun answer after law => Alone.ret_iff.mpr fun same => ?_⟩
    cases answer with
    | error error => cases same
    | ok _ => exact moves.moves law
  · intro _ written there
    refine Alone.run_seq (moves.alone_reads identity _) (fun _ _ _ => nofun) ?_
    rintro _ after ⟨same, -⟩
    refine Alone.ret_iff.mpr fun _ => ?_
    rw [same]
    exact there rfl

/-- Whatever placement is to be written, the process goes to the group of the
mutation. -/
theorem Moves.writeMutation_moves (moves : Moves env located groups) (sysfs : WorkloadSysfs)
    (found : groups world destination.handle = some target) (desired : TypedValue) :
    Alone env (fun _ _ => True) (fun result after => result = .ok () →
      located after process = target.path)
      (sysfs.writeMutation (.processPlacement process destination) desired).run world := by
  cases desired with
  | processPlacement cgroup =>
      refine Alone.run_seq (moves.groupFor_finds found) (fun _ _ _ => nofun) ?_
      intro group after known
      cases known group rfl
      exact moves.writeProcessPlacement_moves sysfs after
  | _ => exact Alone.ret_iff.mpr nofun

end Destination

/-! ## Apply and restore -/

section Backend

variable {sysfs : WorkloadSysfs} {mutation : PlannedMutation} {process : ProcessId}
  {destination : CgroupId} {target : SysfsGroup} {world : W}

/-- A write of the mutation puts the process at the destination, where it stays. -/
theorem Moves.located_of_write (moves : Moves env located groups)
    (kind : mutation.kind = .processPlacement process destination)
    (found : groups world destination.handle = some target) {α : Type} (desired : TypedValue)
    {next : Io α} (reads : Calls Call.OnlyReads next) :
    Alone env (fun _ _ => True) (fun result after => ∀ value, result = .ok value →
      located after process = target.path)
      (sysfs.writeMutation mutation.kind desired >>= fun _ => next).run world := by
  rw [kind]
  refine Alone.run_seq (moves.writeMutation_moves sysfs found desired) (fun _ _ _ => nofun) ?_
  intro _ written there
  refine (moves.alone_reads reads written).mono ?_
  rintro _ after ⟨same, -⟩ _ _
  rw [same]
  exact there rfl

/-- An apply that succeeds has moved the process to the destination. -/
theorem applyInternal_located (moves : Moves env located groups)
    (kind : mutation.kind = .processPlacement process destination)
    (found : groups world destination.handle = some target) (snapshot : Snapshot) :
    Alone env (fun _ _ => True) (fun result after => ∀ receipt, result = .ok receipt →
      located after process = target.path) (sysfs.applyInternal mutation snapshot).run world := by
  have desired := (sysfs.validateDesired_calls mutation.kind mutation.desired).weaken
    fun _ finds => finds.findsProcess.onlyReads
  refine Alone.run_seq (moves.alone_reads (sysfs.read_calls mutation) world)
    (fun _ _ _ => nofun) ?_
  rintro current middle ⟨-, table⟩
  refine Alone.run_seq (m := fun _ after => after = middle) (alone_check rfl)
    (fun _ _ _ => nofun) ?_
  rintro _ middle rfl
  refine Alone.run_seq (moves.alone_reads desired middle) (fun _ _ _ => nofun) ?_
  rintro _ later ⟨-, same⟩
  rw [← table, ← same] at found
  refine moves.located_of_write kind found _ ?_
  exact .bind (sysfs.read_calls mutation) fun _ => .bind (.refuseIf rfl) fun _ => .pure _

/-- A restore that succeeds has left the process at the destination. -/
theorem restoreInternal_located (moves : Moves env located groups)
    (kind : mutation.kind = .processPlacement process destination)
    (found : groups world destination.handle = some target) (snapshot : Snapshot)
    (ownership : StateFingerprint) :
    Alone env (fun _ _ => True) (fun result after => ∀ receipt, result = .ok receipt →
      located after process = target.path)
      (sysfs.restoreInternal mutation snapshot ownership).run world := by
  refine Alone.run_seq (moves.alone_reads (sysfs.read_calls mutation) world)
    (fun _ _ _ => nofun) ?_
  rintro current middle ⟨-, table⟩
  rw [← table] at found
  refine Alone.run_seq (m := fun _ after => after = middle) (alone_check rfl)
    (fun _ _ _ => nofun) ?_
  rintro _ middle rfl
  refine Alone.run_seq (m := fun _ after => after = middle) (alone_check rfl)
    (fun _ _ _ => nofun) ?_
  rintro _ middle rfl
  refine moves.located_of_write kind found _ ?_
  exact .bind (sysfs.read_calls mutation) fun _ => .bind (.refuseIf rfl) fun _ => .pure _

end Backend

/-- A placement that is captured, applied and then restored with the ownership
that the apply has returned. -/
structure PlacementRun (env : Environment Answer W) (located : W → ProcessId → Kernel.Path)
    (groups : W → TargetId → Option SysfsGroup) (sysfs : WorkloadSysfs) where
  mutation : PlannedMutation
  process : ProcessId
  destination : CgroupId
  kind : mutation.kind = .processPlacement process destination
  start : W
  now : Timestamp
  snapshot : Snapshot
  captured : W
  captures : Executes env (sysfs.snapshotInternal mutation now).run start (.ok snapshot) captured
  receipt : ApplyReceipt
  applied : W
  applies : Executes env (sysfs.applyInternal mutation snapshot).run captured (.ok receipt) applied
  result : Except SysboostError RestoreReceipt
  restored : W
  restores : Executes env
    (sysfs.restoreInternal mutation snapshot receipt.ownershipFingerprint).run applied result
    restored
  /-- The cgroup recorded in the snapshot, in which the process is at the start. -/
  origin : CgroupId
  recorded : snapshot.originalTyped = .processPlacement origin
  source : SysfsGroup
  sourceFound : groups applied origin.handle = some source
  startsThere : located start process = source.path
  target : SysfsGroup
  targetFound : groups applied destination.handle = some target
  distinct : source.path ≠ target.path

/-- The restore succeeds and the process is again in the recorded cgroup. -/
def PlacementRun.Restored {sysfs : WorkloadSysfs} (run : PlacementRun env located groups sysfs) :
    Prop :=
  (∃ receipt, run.result = .ok receipt) ∧ located run.restored run.process = run.source.path

/-- No placement is ever restored. -/
theorem placement_not_restored {sysfs : WorkloadSysfs} (moves : Moves env located groups)
    (run : PlacementRun env located groups sysfs) : ¬run.Restored := by
  rintro ⟨⟨receipt, succeeds⟩, back⟩
  have there := run.restores.post (restoreInternal_located moves run.kind run.targetFound
    run.snapshot run.receipt.ownershipFingerprint) receipt succeeds
  exact run.distinct (back.symm.trans there)

end Placement

/-! ## A process between two groups -/

namespace TwoGroups

def idle : SysfsGroup :=
  fixtureGroup 7 ⟨"cgroup.idle", by decide⟩ "idle"

def games : SysfsGroup :=
  fixtureGroup 8 gamesTarget "games"

def game : ProcessId :=
  ⟨42, 1000, by decide⟩

def text (directory : Kernel.Path) (path : Kernel.Path) : Except Storage.IoErrorKind String :=
  match path.getLast? with
  | some "stat" => .ok "42 (game) S 1 2 3 4 5 6 7 8 9 10 11 12 13 14 15 16 17 18 1000"
  | some "cgroup" => .ok ("0::/" ++ directory.getLast?.getD "")
  | some "cgroup.procs" => .ok ""
  | _ => .error .notFound

/-- The world is the directory in which the process is. -/
def kernel (directory : Kernel.Path) : (call : Call) → Answer call × Kernel.Path
  | .kernel (.writeAll path _) => (.ok (), path.dropLast)
  | call => (shown [idle, games] (text directory) call, directory)

def env : Environment Answer Kernel.Path :=
  fun directory call answer after => kernel directory call = (answer, after)

def located (directory : Kernel.Path) (_ : ProcessId) : Kernel.Path :=
  directory

def groups (_ : Kernel.Path) (handle : TargetId) : Option SysfsGroup :=
  [idle, games].find? fun group => group.identity.handle = handle

theorem moves : Moves env located groups where
  moves := by
    rintro _ _ _ group ⟨⟩
    exact List.dropLast_concat
  stays := by
    intro directory after call answer reads law
    have same : after = directory := by
      rw [show after = (kernel directory call).2 from (congrArg Prod.snd law).symm]
      unfold kernel
      split
      · cases reads
      · rfl
    subst same
    exact ⟨rfl, rfl⟩
  finds := by
    rintro _ _ _ _ ⟨⟩
    rfl

/-- Move the process from the idle group to the games. -/
def mutation : PlannedMutation where
  mutationId := ⟨1⟩
  capability := CapabilityIds.processPlacement
  target := games.identity.handle
  kind := .processPlacement game games.identity
  desired := .processPlacement games.identity
  precondition := fingerprintForValue (.typed (.processPlacement idle.identity))
  equality := .scalarExact
  dependencies := []
  rollback := ⟨.scalarExact, .compareAndRestore⟩

def snapshot : Snapshot where
  mutationId := ⟨1⟩
  target := games.identity.handle
  originalRaw := ⟨utf8 "cgroup:cgroup.idle", by decide⟩
  originalTyped := .processPlacement idle.identity
  originalFingerprint := fingerprintForValue (.typed (.processPlacement idle.identity))
  equality := .scalarExact
  targetIdentity := processIdentity game
  capturedAt := .fromUnixMillis 0

def receipt : ApplyReceipt where
  mutationId := ⟨1⟩
  observedPrecondition := fingerprintForValue (.typed (.processPlacement idle.identity))
  observedPostcondition := fingerprintForValue (.typed (.processPlacement games.identity))
  ownershipFingerprint := fingerprintForValue (.typed (.processPlacement games.identity))

def captures : Except SysboostError Snapshot × Kernel.Path :=
  (fixtureSysfs.snapshotInternal mutation (.fromUnixMillis 0)).run.exec kernel idle.path

def applies : Except SysboostError ApplyReceipt × Kernel.Path :=
  (fixtureSysfs.applyInternal mutation snapshot).run.exec kernel idle.path

def restores : Except SysboostError RestoreReceipt × Kernel.Path :=
  (fixtureSysfs.restoreInternal mutation snapshot receipt.ownershipFingerprint).run.exec kernel
    games.path

theorem captures_eq : captures = (.ok snapshot, idle.path) := by
  decide +kernel

theorem applies_eq : applies = (.ok receipt, games.path) := by
  decide +kernel

/-- The restore refuses its own readback, and the process stays with the games. -/
theorem restores_refused : restores.1.toBool = false ∧ restores.2 = games.path := by
  decide +kernel

theorem executes {α : Type} (program : Prog Answer α) (directory : Kernel.Path) :
    Executes env program directory (program.exec kernel directory).1
      (program.exec kernel directory).2 :=
  .exec (fun _ _ => rfl) program directory

def run : PlacementRun env located groups fixtureSysfs where
  mutation := mutation
  process := game
  destination := games.identity
  kind := rfl
  start := idle.path
  now := .fromUnixMillis 0
  snapshot := snapshot
  captured := idle.path
  captures := by
    have run := executes (fixtureSysfs.snapshotInternal mutation (.fromUnixMillis 0)).run idle.path
    have same := captures_eq
    unfold captures at same
    rwa [same] at run
  receipt := receipt
  applied := games.path
  applies := by
    have run := executes (fixtureSysfs.applyInternal mutation snapshot).run idle.path
    have same := applies_eq
    unfold applies at same
    rwa [same] at run
  result := restores.1
  restored := restores.2
  restores := executes _ _
  origin := idle.identity
  recorded := rfl
  source := idle
  sourceFound := by decide
  startsThere := rfl
  target := games
  targetFound := by decide
  distinct := by decide

theorem run_not_restored : ¬run.Restored :=
  placement_not_restored moves run

/-- The placement of the fixture is applied and never comes back. -/
theorem placement_lost : ¬∀ run : PlacementRun env located groups fixtureSysfs, run.Restored := by
  intro restored
  obtain ⟨⟨receipt, succeeds⟩, -⟩ := restored run
  have refused := restores_refused.1
  rw [show restores.1 = .ok receipt from succeeds] at refused
  cases refused

end TwoGroups

end Sysboost.Linux.Workload
