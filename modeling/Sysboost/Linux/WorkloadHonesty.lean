import Sysboost.Linux.WorkloadCalls

/-!
# Errors of a workload apply

An apply of the workload backend returns the errors of its write and of its
readback as they are.  They are honest exactly when no write had an effect or
the readback was completed and shows the desired or the original value.
-/

namespace Sysboost.Linux.Workload

open Sysboost.Core Sysboost.Planner Interaction Results

/-! ## How a read is recognised -/

/-- The call that only the reading of a value of this kind makes. -/
def probe : MutationKind → Call → Bool
  | .processPlacement .., .groupAt _ => true
  | .processPlacement .., _ => false
  | .processNice .., .kernel (.getPriority _) => true
  | .processNice .., _ => false
  | _, .group _ => true
  | _, _ => false

/-- The number of calls before it. -/
def probePosition : MutationKind → Nat
  | .processPlacement .. => 9
  | .processNice .. => 3
  | .processIoPriority .. => 3
  | _ => 0

theorem probe_of_acts (mutation : MutationKind) {call : Call} (acts : call.Acts) :
    probe mutation call = false := by
  unfold probe
  split
  · exact acts.elim
  · rfl
  · exact acts.elim
  · rfl
  · exact acts.elim
  · rfl

section Once

variable {marked : Call → Bool} (spares : ∀ call : Call, call.ReadsFile → marked call = false)

include spares

/-- A program that only reads files makes no marked call. -/
theorem unmarked_of_files {α : Type} {program : Io α} (calls : Calls Call.ReadsFile program) :
    Within (fun call => marked call = false) (fun _ => True) program.run :=
  (calls.weaken spares).calls

theorem readClosedFile_unmarking (path : Kernel.Path) (message : String) :
    Unmarking marked 3 (readClosedFile path message) := by
  have call (request : Kernel.Call) (reads : (Call.kernel request).ReadsFile) :=
    spares (.kernel request) reads
  have metadata : Unmarking marked (1 + (0 + 0)) (validateRegularFile path message) :=
    .bind (unmarking_attempt (call _ trivial) fun answer => ⟨answer, rfl⟩) fun _ =>
      .bind (unmarking_check _) fun _ => unmarking_check (.ok _)
  have rest : Unmarking marked (1 + (0 + 0) + (1 + (1 + (0 + 0)))) (readClosedFile path message) :=
    .bind metadata fun _ =>
      .bind (unmarking_attempt (call _ trivial) fun answer => ⟨answer, rfl⟩) fun _ =>
        .bind (unmarking_attempt (call _ trivial) fun answer => ⟨answer, rfl⟩) fun _ =>
          .bind (unmarking_check _) fun _ => unmarking_check (.ok _)
  exact rest

theorem readProcIdentity_unmarking (sysfs : WorkloadSysfs) (process : ProcessId) :
    Unmarking marked 3 (sysfs.readProcIdentity process) := by
  have whole : Unmarking marked (3 + (0 + (0 + (0 + 0)))) (sysfs.readProcIdentity process) :=
    .bind (readClosedFile_unmarking spares _ _) fun _ => .bind (unmarking_check _) fun _ =>
      .bind (unmarking_check _) fun _ => .bind (unmarking_check _) fun _ => unmarking_check (.ok _)
  exact whole

theorem groupFor_once (marks : ∀ handle, marked (.group handle) = true) (cgroup : CgroupId) :
    Once marked 0 (groupFor cgroup) := by
  have whole : Once marked (0 + 0) (groupFor cgroup) := by
    refine .after_front (unmarking_check _) fun _ => .before_rest
      (once_attempt (marks _) fun answer => ⟨answer, rfl⟩) fun found => ?_
    have rest (group : SysfsGroup) : Calls Call.ReadsFile (do
        Early.refuseIf (group.identity ≠ cgroup)
          (targetError "cgroup target identity does not match discovery")
        let identity ← cgroupIdFromPath group.identity.handle.asStr group.path
          "cgroup target disappeared or changed identity"
        Early.refuseIf (identity.mountId ≠ group.identity.mountId ||
            identity.inode ≠ group.identity.inode)
          (targetError "cgroup target was replaced after discovery")
        return group : Io SysfsGroup) :=
      .bind (.refuseIf rfl) fun _ => .bind (cgroupIdFromPath_calls _ _ _) fun _ =>
        .bind (.refuseIf rfl) fun _ => .pure _
    cases found with
    | none => exact trivial
    | some group => exact unmarked_of_files spares (rest group)
  exact whole

end Once

/-- Reading a file is never the probe of a value. -/
theorem probe_spares (mutation : MutationKind) (call : Call) (reads : call.ReadsFile) :
    probe mutation call = false :=
  probe_of_acts mutation reads.acts

/-- A read makes its probe once, at its position. -/
theorem read_once (sysfs : WorkloadSysfs) (mutation : PlannedMutation) :
    Once (probe mutation.kind) (probePosition mutation.kind) (sysfs.read mutation) := by
  unfold WorkloadSysfs.read
  generalize mutation.kind = kind
  have spares := probe_spares kind
  have node (cgroup : CgroupId) (node : WorkloadNode)
      (marks : ∀ handle, probe kind (.group handle) = true) :
      Once (probe kind) 0 (readCgroupNode cgroup node) := by
    refine .before_rest (groupFor_once spares marks _) fun _ => unmarked_of_files spares ?_
    exact .bind (readNodeValue_calls _ _) fun _ => .check (raises_observation _ _ _)
  have lifecycle (parent : CgroupId) (name : CgroupName) (group : CgroupGroupKind)
      (marks : ∀ handle, probe kind (.group handle) = true) :
      Once (probe kind) 0 (readLifecycle parent name group) := by
    refine .before_rest (groupFor_once spares marks _) fun _ => unmarked_of_files spares ?_
    exact .bind (requireController_calls _ _) fun _ => .bind (lifecyclePresent_calls _) fun _ =>
      .check (raises_observation _ _ _)
  have process (target : ProcessId) (position : Nat)
      (value : Once (probe kind) position (sysfs.readProcessValue target kind)) :
      Once (probe kind) (3 + position) (do
        let _ ← sysfs.readProcIdentity target
        let typed ← sysfs.readProcessValue target kind
        let _ ← sysfs.readProcIdentity target
        Early.check (WorkloadObservation.new (renderTypedProcess typed) typed
          (processIdentity target)) : Io WorkloadObservation) := by
    refine .after_front (readProcIdentity_unmarking spares _ _) fun _ => ?_
    refine .before_rest value fun _ => unmarked_of_files spares ?_
    exact .bind (sysfs.readProcIdentity_calls _) fun _ => .check (raises_observation _ _ _)
  cases kind with
  | processNice target nice =>
      refine process target 0 (.before_rest ?_ fun _ => unmarked_of_files spares ?_)
      · exact once_attempt rfl fun answer => ⟨answer, rfl⟩
      · exact .bind (.check (Bounded.raises_new (by rfl) _)) fun _ => .pure _
  | processIoPriority target priority => exact process target 0 (once_throw _)
  | processPlacement target cgroup =>
      refine process target (3 + (3 + (0 + 0))) (.before_rest ?_ fun _ => trivial)
      refine .after_front (readProcIdentity_unmarking spares _ _) fun _ => ?_
      refine .after_front (readClosedFile_unmarking spares _ _) fun _ => ?_
      refine .after_front (unmarking_check _) fun _ => ?_
      refine .before_rest (once_attempt rfl fun answer => ⟨answer, rfl⟩) fun found => ?_
      have finds (call : Call) (finds : call.FindsGroup) :
          probe (.processPlacement target cgroup) call = false := by
        cases call with
        | groupAt relativePath => exact finds.elim
        | _ => rfl
      cases found with
      | none => exact trivial
      | some group =>
          refine ((Raising.bind (groupFor_calls _) fun _ => ?_).weaken finds).calls
          exact .bind ((sysfs.readProcIdentity_calls _).weaken fun _ => Call.ReadsFile.findsGroup)
            fun _ => .pure _
  | cgroupCpuWeight cgroup weight => exact node _ _ fun _ => rfl
  | cgroupCpuMax cgroup quota period => exact node _ _ fun _ => rfl
  | cgroupCpuset cgroup cpus => exact node _ _ fun _ => rfl
  | cgroupIoWeight cgroup weight => exact node _ _ fun _ => rfl
  | cgroupUclampMin cgroup value => exact node _ _ fun _ => rfl
  | cgroupUclampMax cgroup value => exact node _ _ fun _ => rfl
  | cgroupWorkload parent name => exact lifecycle _ _ _ fun _ => rfl
  | cgroupBackground parent name => exact lifecycle _ _ _ fun _ => rfl
  | _ => exact once_throw _

/-- A write is the last thing that its program does to the target. -/
theorem writeMutation_writesLast (sysfs : WorkloadSysfs) (mutation : MutationKind)
    (desired : TypedValue) : WritesLast (probe mutation) (sysfs.writeMutation mutation desired) := by
  have reads {α : Type} {allowed : Call → Prop} {program : Io α} (calls : Calls allowed program)
      (only : ∀ call, allowed call → call.OnlyReads) : Reads program :=
    (calls.weaken fun call may => (only call may).reads).calls
  have acts {α : Type} {program : Io α} (calls : Calls Call.Acts program) :
      WritesLast (probe mutation) program :=
    .of_unmarked (calls.weaken fun _ => probe_of_acts mutation).calls
  have actsOn {α : Type} {written : Option Kernel.Path} {program : Io α}
      (calls : Calls (Call.ActsOn written) program) : WritesLast (probe mutation) program :=
    acts (calls.weaken fun _ => And.left)
  have file {α : Type} {program : Io α} (calls : Calls Call.ReadsFile program) : Reads program :=
    reads calls fun _ reads => reads.findsGroup.findsProcess.onlyReads
  have group (cgroup : CgroupId) : Reads (groupFor cgroup) :=
    reads (groupFor_calls cgroup) fun _ finds => finds.findsProcess.onlyReads
  have node (cgroup : CgroupId) (node : WorkloadNode) (value : String) :
      WritesLast (probe mutation) (writeCgroupNode cgroup node value) :=
    .after_reads (group _) fun _ => actsOn (writeNode_calls _ _ _)
  have remove (parent : CgroupId) (name : CgroupName) : WritesLast (probe mutation) (do
      removeChild (← groupFor parent) name : Io Unit) := by
    refine .after_reads (group _) fun parent => .after_reads (.check _) fun target => ?_
    refine .after_reads (.attempt (onlyReads_perform rfl)) fun found => ?_
    cases found with
    | none => exact .of_reads (.throw _)
    | some child =>
        refine .after_reads (group _) fun child => ?_
        refine .after_reads (file (readClosedFile_calls _ _)) fun procs => ?_
        refine .after_reads (.refuseIf _ _) fun _ => ?_
        refine .after_reads (.attempt (onlyReads_perform rfl)) fun entries => ?_
        refine .after_reads (.refuseIf _ _) fun _ => acts (.bind ?_ fun _ => ?_)
        · exact .call trivial (fun answer => ⟨answer, rfl⟩) fun _ => ioError_never _ _
        · exact .call trivial (fun answer => ⟨answer, rfl⟩) fun _ => rfl
  have refused (error : SysboostError) : WritesLast (probe mutation) (throw error : Io Unit) :=
    .of_reads (.throw _)
  unfold WorkloadSysfs.writeMutation
  split
  · exact node _ _ _
  · exact node _ _ _
  · exact node _ _ _
  · exact node _ _ _
  · exact node _ _ _
  · exact node _ _ _
  · exact .after_reads (group _) fun _ => actsOn (createChild_calls _ _)
  · exact .after_reads (group _) fun _ => actsOn (createChild_calls _ _)
  · exact remove _ _
  · exact remove _ _
  · exact actsOn (sysfs.writeNice_calls _ _)
  · exact .after_reads (group _) fun _ => actsOn (sysfs.writeProcessPlacement_calls _ _)
  · exact refused _
  · exact refused _

/-! ## Honest errors -/

/-- None of the writes in a trace had an effect on the target. -/
def Unchanged (changed : Exchange Answer → Prop) (trace : List (Exchange Answer)) : Prop :=
  ∀ exchange ∈ trace, Writing.writes exchange.request = true → ¬changed exchange

theorem unchanged_of_untouched {changed : Exchange Answer → Prop}
    {trace : List (Exchange Answer)} (untouched : Untouched trace) : Unchanged changed trace := by
  intro exchange member writing
  rw [untouched exchange member] at writing
  cases writing

/-- Two readings show the same value on the same target. -/
def SameValue (first second : WorkloadObservation) : Prop :=
  first.typed = second.typed ∧ first.targetIdentity = second.targetIdentity

namespace WorkloadSysfs

variable (sysfs : WorkloadSysfs)

/-- The trace begins with a reading of the value and ends with another that shows
the same, and nothing is written meanwhile. -/
def ReadBack (mutation : PlannedMutation) (trace : List (Exchange Answer)) : Prop :=
  ∃ first rest before earlier readback after, trace = first ++ rest ∧
    Traces (sysfs.read mutation).run first (.ok before) ∧ trace = earlier ++ readback ∧
    Untouched readback ∧ Traces (sysfs.read mutation).run readback (.ok after) ∧
    SameValue before after

/-- An error other than an unknown outcome leaves the target as it was: no write
had an effect, or the value from before the apply has been read back. -/
def Honest (changed : Exchange Answer → Prop) (mutation : PlannedMutation)
    (trace : List (Exchange Answer)) (result : Except SysboostError ApplyReceipt) : Prop :=
  ∀ error, result = .error error → error.retryability ≠ .unknown →
    Unchanged changed trace ∨ sysfs.ReadBack mutation trace

/-- An apply up to its write. -/
def applyWrite (mutation : PlannedMutation) (snapshot : Snapshot) : Io WorkloadObservation := do
  let current ← sysfs.read mutation
  Early.refuseIf (current.targetIdentity ≠ snapshot.targetIdentity ||
      current.fingerprint ≠ mutation.precondition)
    (targetError "workload target changed before apply")
  sysfs.validateDesired mutation.kind mutation.desired
  sysfs.writeMutation mutation.kind mutation.desired
  return current

/-- The readback of an apply. -/
def proveDesired (mutation : PlannedMutation) (snapshot : Snapshot)
    (current : WorkloadObservation) : Io ApplyReceipt := do
  let after ← sysfs.read mutation
  Early.refuseIf (after.targetIdentity ≠ snapshot.targetIdentity ||
      after.fingerprint ≠ fingerprintForValue (.typed mutation.desired))
    (workloadError .verificationError "workload apply readback did not prove the desired value")
  return {
    mutationId := mutation.mutationId
    observedPrecondition := current.fingerprint
    observedPostcondition := after.fingerprint
    ownershipFingerprint := after.fingerprint }

theorem applyInternal_eq (mutation : PlannedMutation) (snapshot : Snapshot) :
    sysfs.applyInternal mutation snapshot =
      sysfs.applyWrite mutation snapshot >>= sysfs.proveDesired mutation snapshot := by
  simp only [applyInternal, applyWrite, proveDesired, bind_assoc, pure_bind]

/-- The readback of an apply proves the desired value on the target of the snapshot. -/
def Proves (mutation : PlannedMutation) (snapshot : Snapshot) (after : WorkloadObservation) :
    Prop :=
  after.targetIdentity = snapshot.targetIdentity ∧
    after.fingerprint = fingerprintForValue (.typed mutation.desired)

/-- None of the writes had an effect, or the apply has come through its write and
its readback, which shows the desired value or the one from before. -/
def Accounted (changed : Exchange Answer → Prop) (mutation : PlannedMutation)
    (snapshot : Snapshot) (trace : List (Exchange Answer)) : Prop :=
  Unchanged changed trace ∨ ∃ front readback before after, trace = front ++ readback ∧
    Traces (sysfs.applyWrite mutation snapshot).run front (.ok before) ∧
    Traces (sysfs.read mutation).run readback (.ok after) ∧
    (Proves mutation snapshot after ∨ SameValue before after)

variable {sysfs} {changed : Exchange Answer → Prop} {mutation : PlannedMutation}
  {snapshot : Snapshot} {front readback trace : List (Exchange Answer)}

theorem read_reads : Reads (sysfs.read mutation) :=
  ((sysfs.read_calls mutation).weaken fun _ only => only.reads).calls

theorem applyWrite_writesLast :
    WritesLast (probe mutation.kind) (sysfs.applyWrite mutation snapshot) := by
  unfold applyWrite
  refine .after_reads read_reads fun _ => .after_reads (.refuseIf _ _) fun _ => ?_
  have desired : Reads (sysfs.validateDesired mutation.kind mutation.desired) :=
    ((sysfs.validateDesired_calls _ _).weaken fun _ finds =>
      finds.findsProcess.onlyReads.reads).calls
  refine .after_reads desired fun _ => ?_
  exact (writeMutation_writesLast _ _ _).before_unmarked fun _ => trivial

theorem applyWrite_never : Calls (fun _ => True) (sysfs.applyWrite mutation snapshot) := by
  have any {α : Type} {allowed : Call → Prop} {program : Io α} (calls : Calls allowed program) :
      Calls (fun _ => True) program := calls.weaken fun _ _ => trivial
  refine .bind (any (sysfs.read_calls _)) fun _ => .bind (.refuseIf rfl) fun _ => ?_
  refine .bind (any (sysfs.validateDesired_calls _ _)) fun _ => ?_
  exact .bind (any (sysfs.writeMutation_calls _ _)) fun _ => .pure _

/-- An apply begins with a reading. -/
theorem applyWrite_first :
    Every (fun trace result => ∀ before, result = .ok before → ∃ first rest,
      trace = first ++ rest ∧ Traces (sysfs.read mutation).run first (.ok before))
      (sysfs.applyWrite mutation snapshot).run := by
  refine Every.run_seq (Every.traces _) (fun _ _ _ => nofun) fun first current run => ?_
  refine Every.run_seq (Every.traces _) (fun _ _ _ => nofun) fun _ _ _ => ?_
  refine Every.run_seq (Every.traces _) (fun _ _ _ => nofun) fun _ _ _ => ?_
  refine Every.run_seq (Every.traces _) (fun _ _ _ => nofun) fun _ _ _ => ?_
  refine Every.ret_iff.mpr fun before same => ?_
  cases same
  exact ⟨first, _, rfl, run⟩

/-- A readback behind a write lies behind all that the write does. -/
theorem readback_behind {result : Except SysboostError WorkloadObservation}
    {after : WorkloadObservation} {rest : List (Exchange Answer)}
    (run : Traces (sysfs.applyWrite mutation snapshot).run front result)
    (written : ¬Untouched front) (untouched : Untouched readback)
    (read : Traces (sysfs.read mutation).run readback (.ok after))
    (suffix : readback <:+ front ++ rest) :
    MarkedAt (probe mutation.kind) (probePosition mutation.kind) readback ∧
      ∃ tail, Unmarked (probe mutation.kind) tail ∧ readback <:+ tail ++ rest := by
  refine ⟨?_, applyWrite_writesLast.behind run written untouched suffix⟩
  rcases read_once sysfs mutation readback _ read with ⟨-, _, impossible⟩ | marked
  · cases impossible
  · exact marked

/-- What is read back after the write is what the apply itself reads. -/
theorem readback_same {before after : WorkloadObservation} {rest : List (Exchange Answer)}
    {result : Except SysboostError WorkloadObservation}
    (run : Traces (sysfs.applyWrite mutation snapshot).run front (.ok before))
    (written : ¬Untouched front) (untouched : Untouched readback)
    (read : Traces (sysfs.read mutation).run readback (.ok after))
    (suffix : readback <:+ front ++ rest)
    (own : Traces (sysfs.read mutation).run rest result) : result = .ok after := by
  obtain ⟨marked, tail, unmarked, behind⟩ := readback_behind run written untouched read suffix
  rcases read_once sysfs mutation rest _ own with ⟨none, -⟩ | own_marked
  · have clear : Unmarked (probe mutation.kind) (tail ++ rest) :=
      unmarked_append.mpr ⟨unmarked, none⟩
    exact absurd (clear.of_suffix behind) marked.not_unmarked
  · have same : readback = rest := marked.eq_of_suffix own_marked behind
    subst same
    exact own.deterministic read

/-- An apply fails up to its write, or it reads back and succeeds exactly when this
proves the desired value. -/
theorem applyInternal_runs :
    Every (fun trace result =>
      (∃ error, Traces (sysfs.applyWrite mutation snapshot).run trace (.error error) ∧
        result = .error error) ∨
      ∃ front readback before shown, trace = front ++ readback ∧
        Traces (sysfs.applyWrite mutation snapshot).run front (.ok before) ∧
        Traces (sysfs.read mutation).run readback shown ∧
        ((∃ receipt, result = .ok receipt) ↔
          ∃ after, shown = .ok after ∧ Proves mutation snapshot after))
      (sysfs.applyInternal mutation snapshot).run := by
  rw [applyInternal_eq]
  refine Every.run_seq (Every.traces _) (fun _ error run => .inl ⟨error, run, rfl⟩) ?_
  intro front before written
  refine Every.run_seq (Every.traces _) (fun readback error run => ?_) ?_
  · refine .inr ⟨front, readback, before, .error error, rfl, written, run, ?_⟩
    constructor
    · rintro ⟨_, impossible⟩
      cases impossible
    · rintro ⟨_, impossible, -⟩
      cases impossible
  · intro readback after run
    refine Every.run_seq Every.refuseIf ?_ ?_
    · rintro _ error ⟨rfl, checked⟩
      refine .inr ⟨front, readback, before, .ok after, by simp, written, run, ?_⟩
      constructor
      · rintro ⟨_, impossible⟩
        cases impossible
      · rintro ⟨_, same, proves⟩
        cases same
        simp [proves.1, proves.2] at checked
    · rintro _ value ⟨rfl, passed⟩
      refine Every.ret_iff.mpr (.inr ⟨front, readback, before, .ok after, by simp, written, run, ?_⟩)
      have holds := passed.mp rfl
      simp only [Bool.or_eq_false_iff, decide_eq_false_iff_not, ne_eq, not_not] at holds
      exact ⟨fun _ => ⟨after, rfl, holds⟩, fun _ => ⟨_, rfl⟩⟩

/-- The errors of an apply keep the default retry guidance. -/
theorem applyInternal_never :
    Every (fun _ result => Raises Never result) (sysfs.applyInternal mutation snapshot).run := by
  have calls : Calls (fun _ => True) (sysfs.applyInternal mutation snapshot) := by
    rw [applyInternal_eq]
    refine .bind applyWrite_never fun _ => ?_
    refine .bind ((sysfs.read_calls _).weaken fun _ _ => trivial) fun _ => ?_
    exact .bind (.refuseIf rfl) fun _ => .pure _
  exact fun trace result run => (Within.every calls trace result run).2

section Runs

variable {result : Except SysboostError ApplyReceipt}
  (run : Traces (sysfs.applyInternal mutation snapshot).run trace result)

include run

/-- An apply that has written and whose trace reads the original back has done so
itself. -/
theorem accounted_of_readBack (written : ¬Untouched trace)
    (back : sysfs.ReadBack mutation trace) : sysfs.Accounted changed mutation snapshot trace := by
  obtain ⟨first, rest, before, earlier, readback, after, begins, began, ends, untouched, read,
    same⟩ := back
  have suffix : readback <:+ trace := ⟨earlier, ends.symm⟩
  rcases applyInternal_runs trace result run with
    ⟨error, failed, -⟩ | ⟨front, own, current, shown, rfl, wrote, shows, -⟩
  · -- Nothing is read after a write that fails.
    have whole : readback <:+ trace ++ [] := by simpa using suffix
    obtain ⟨marked, tail, unmarked, behind⟩ :=
      readback_behind failed written untouched read whole
    rw [List.append_nil] at behind
    exact absurd (unmarked.of_suffix behind) marked.not_unmarked
  · have wrote_there : ¬Untouched front := by
      intro nothing
      exact written (unmarked_append.mpr ⟨nothing, read_reads.untouched shows⟩)
    cases readback_same wrote wrote_there untouched read suffix shows
    obtain ⟨start, middle, rfl, begun⟩ := applyWrite_first front _ wrote current rfl
    rw [List.append_assoc] at begins
    cases (began.unique begun begins.symm).2
    exact .inr ⟨_, own, before, after, rfl, wrote, shows, .inr same⟩

/-- An apply that fails and is accounted for has had no effect or has read the
original back. -/
theorem readBack_of_accounted {error : SysboostError} (fails : result = .error error)
    (accounted : sysfs.Accounted changed mutation snapshot trace) :
    Unchanged changed trace ∨ sysfs.ReadBack mutation trace := by
  refine accounted.imp id ?_
  rintro ⟨front, readback, before, after, rfl, wrote, read, shown⟩
  rcases applyInternal_runs _ result run with
    ⟨error, failed, -⟩ | ⟨front', own, current, shows, split, wrote', read', outcome⟩
  · have whole : (front ++ readback) ++ [] = front ++ readback := List.append_nil _
    cases (failed.unique wrote whole).2
  · obtain ⟨rfl, same⟩ := wrote.unique wrote' split
    cases same
    cases List.append_cancel_left split
    cases read.deterministic read'
    have same : SameValue before after := by
      refine shown.resolve_left fun proves => ?_
      obtain ⟨_, succeeds⟩ := outcome.mpr ⟨after, rfl, proves⟩
      rw [fails] at succeeds
      cases succeeds
    obtain ⟨first, rest, rfl, began⟩ := applyWrite_first front _ wrote before rfl
    exact ⟨first, rest ++ readback, before, first ++ rest, readback, after, by simp, began, rfl,
      read_reads.untouched read, read, same⟩

end Runs

/-- An apply that has written and cannot read back is not honest. -/
theorem not_honest_of_unread {rest : List (Exchange Answer)} {before : WorkloadObservation}
    {error : SysboostError}
    (wrote : Traces (sysfs.applyWrite mutation snapshot).run front (.ok before))
    (effect : ¬Unchanged changed front)
    (unread : Traces (sysfs.read mutation).run rest (.error error)) :
    ¬sysfs.Honest changed mutation (front ++ rest) (.error error) := by
  intro honest
  have never : Never error := (Within.every (sysfs.read_calls mutation) _ _ unread).2 error rfl
  have known : error.retryability ≠ .unknown := by
    rw [never]
    decide
  rcases honest error rfl known with unchanged | back
  · exact effect fun exchange member => unchanged exchange (List.mem_append_left rest member)
  · obtain ⟨_, _, _, earlier, readback, after, -, -, ends, untouched, read, -⟩ := back
    have written : ¬Untouched front := fun nothing => effect (unchanged_of_untouched nothing)
    cases readback_same wrote written untouched read ⟨earlier, ends.symm⟩ unread

end WorkloadSysfs

/-- The answers of a kernel with these groups and files, as long as nothing is written. -/
def shown (groups : List SysfsGroup) (text : Kernel.Path → Except Storage.IoErrorKind String) :
    (call : Call) → Answer call
  | .group handle => .ok (groups.find? fun group => group.identity.handle = handle)
  | .groupAt relativePath => .ok (groups.find? fun group => group.relativePath = relativePath)
  | .insertGroup _ _ => .ok ()
  | .removeGroup _ => .ok ()
  | .kernel (.symlinkMetadata path) =>
      match groups.find? fun group => group.path = path with
      | some group => .ok ⟨.directory, group.identity.mountId, group.identity.inode, false⟩
      | none => (text path).map fun _ => ⟨.file, 1, 1, false⟩
  | .kernel (.openRead _) => .ok ()
  | .kernel (.openWrite _) => .ok ()
  | .kernel (.readToEnd path _) => (text path).map utf8
  | .kernel (.writeAll _ _) => .ok ()
  | .kernel (.canonicalize path) => .ok path
  | .kernel (.fileMetadata _) => .error .other
  | .kernel (.readDirectory _) => .error .other
  | .kernel (.createDirectory _) => .error .other
  | .kernel (.removeDirectory _) => .error .other
  | .kernel (.getPriority _) => .error .other
  | .kernel (.setPriority _ _) => .error .other

/-- A group of the first mount. -/
def fixtureGroup (inode : UInt64) (handle : TargetId) (name : String) : SysfsGroup :=
  ⟨⟨1, inode, handle⟩, name, ["sys", "fs", "cgroup", name]⟩

def gamesTarget : TargetId :=
  ⟨"cgroup.games", by decide⟩

def weighedGroup : SysfsGroup :=
  fixtureGroup 7 gamesTarget "games"

/-- Raise the CPU weight of the group from 100 to 200. -/
def weightMutation : PlannedMutation where
  mutationId := ⟨1⟩
  capability := CapabilityIds.cgroupCpuWeight
  target := weighedGroup.identity.handle
  kind := .cgroupCpuWeight weighedGroup.identity ⟨200, by decide⟩
  desired := .cgroupCpuWeight ⟨200, by decide⟩
  precondition := fingerprintForValue (.typed (.cgroupCpuWeight ⟨100, by decide⟩))
  equality := .scalarExact
  dependencies := []
  rollback := ⟨.scalarExact, .compareAndRestore⟩

def weightSnapshot : Snapshot where
  mutationId := ⟨1⟩
  target := weighedGroup.identity.handle
  originalRaw := ⟨utf8 "100", by decide⟩
  originalTyped := .cgroupCpuWeight ⟨100, by decide⟩
  originalFingerprint := fingerprintForValue (.typed (.cgroupCpuWeight ⟨100, by decide⟩))
  equality := .scalarExact
  targetIdentity := cgroupIdentity weighedGroup.identity
  capturedAt := .fromUnixMillis 0

/-- The node is lost once it has been written. -/
def weightText (written : Bool) (path : Kernel.Path) : Except Storage.IoErrorKind String :=
  match path.getLast? with
  | some "cgroup.controllers" => .ok "cpu io"
  | some "cgroup.subtree_control" => .ok ""
  | some "cpu.weight" => if written then .error .other else .ok "100"
  | _ => .error .notFound

def losing (written : Bool) : (call : Call) → Answer call × Bool
  | .kernel (.writeAll _ _) => (.ok (), true)
  | call => (shown [weighedGroup] (weightText written) call, written)

def fixtureSysfs : WorkloadSysfs :=
  ⟨["proc"]⟩

end Sysboost.Linux.Workload
