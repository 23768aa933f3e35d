import Sysboost.Linux.CpuContents

/-!
# What the stages of the CPU backend do

A stage writes the files of one control only.  An apply that reports a failure of known
retryability has written nothing or left the original of its snapshot, and a restore
that succeeds has left what its receipt says.
-/

namespace Sysboost.Linux.Cpu

open Sysboost.Core Sysboost.Planner Interaction Kernel

variable {sysfs : CpuSysfs} {interface : CpuBoostInterface} {contents world : Contents}
  {α β : Type}

/-! ## Programs that keep to a control -/

/-- The program writes the files of this control only, and this holds of its result. -/
abbrev Confines (sysfs : CpuSysfs) (interface : CpuBoostInterface) (contents : Contents)
    (control : CpuControl) (post : Except SysboostError α → Contents → Prop) (program : Io α)
    (world : Contents) : Prop :=
  Alone (sysfs.FilesLaw interface)
    (fun now _ => SameBut (sysfs.files interface control) contents now)
    (fun result after => SameBut (sysfs.files interface control) contents after ∧
      post result after) program.run world

namespace Confines

variable {control : CpuControl} {post : Except SysboostError β → Contents → Prop}
  (same : SameBut (sysfs.files interface control) contents world)

include same

theorem error {error : SysboostError} (holds : post (.error error) world) :
    Confines sysfs interface contents control post (throw error) world :=
  Alone.ret_iff.mpr ⟨same, holds⟩

theorem ok {value : β} (holds : post (.ok value) world) :
    Confines sysfs interface contents control post (pure value) world :=
  Alone.ret_iff.mpr ⟨same, holds⟩

/-- Read the node of a control. -/
theorem read_seq {node : CpuNode} {next : CpuNodeState → Io β}
    (early : ∀ error, post (.error error) world)
    (later : ∀ state, sysfs.Shows interface world node.control state →
      Confines sysfs interface contents control post (next state) world) :
    Confines sysfs interface contents control post (sysfs.read node >>= next) world := by
  apply Holds.seq (sysfs.read_holds interface (fun _ => same) rfl node)
  · rintro error _ rfl
    exact ⟨same, early error⟩
  · rintro state _ shows rfl
    exact later state shows

/-- Read something whose result does not matter. -/
theorem reads_seq {program : Io α} {next : α → Io β} (reads : Reads program)
    (early : ∀ error, post (.error error) world)
    (later : ∀ value, Confines sysfs interface contents control post (next value) world) :
    Confines sysfs interface contents control post (program >>= next) world := by
  have keeping : Keeping (sysfs.FilesLaw interface)
      (fun now _ => SameBut (sysfs.files interface control) contents now) id world _ :=
    keeping_contents fun _ => same
  apply keeping.seq reads rfl
  · rintro error _ rfl
    exact ⟨same, early error⟩
  · rintro value _ rfl
    exact later value

/-- Refuse, unless a condition fails. -/
theorem refuse_seq {condition : Bool} {error : SysboostError} {next : PUnit → Io β}
    (early : post (.error error) world)
    (later : condition = false →
      Confines sysfs interface contents control post (next ⟨⟩) world) :
    Confines sysfs interface contents control post (Early.refuseIf condition error >>= next)
      world :=
  Alone.refuseIf_seq ⟨same, early⟩ later

/-- Refuse at the end. -/
theorem refuse {condition : Bool} {error : SysboostError}
    {post : Except SysboostError PUnit → Contents → Prop}
    (early : post (.error error) world) (passed : condition = false → post (.ok ⟨⟩) world) :
    Confines sysfs interface contents control post (Early.refuseIf condition error) world := by
  cases condition with
  | false => exact Alone.ret_iff.mpr ⟨same, passed rfl⟩
  | true => exact Alone.ret_iff.mpr ⟨same, early⟩

/-- A write leaves something in the files of the control. -/
theorem write {node : CpuNode} {desired : TypedValue} (own : node.control = control)
    (resolved : node.control = .boost → node = .boost interface) :
    Confines sysfs interface contents control (fun _ _ => True) (sysfs.write node desired)
      world := by
  subst own
  apply Safe.mono (alone_sameBut (sysfs.write_only interface resolved desired) same)
  exact fun _ _ known => ⟨known.2, trivial⟩

end Confines

namespace CpuBackend

variable {node : CpuNode} {mutation : PlannedMutation} {snapshot : Snapshot}
  {state : CpuNodeState}

/-! ## Nodes -/

theorem resolvedNode_control (node : CpuNode) (state : CpuNodeState) :
    (resolvedNode node state).control = node.control := by
  unfold resolvedNode
  split <;> rfl

/-- A write of a mutation names the boost interface that exists. -/
theorem resolvedNode_boost (selected : nodeForMutation mutation = .ok node)
    (shows : sysfs.Shows interface contents node.control state)
    (boost : (resolvedNode node state).control = .boost) :
    resolvedNode node state = .boost interface := by
  unfold nodeForMutation at selected
  split at selected
  case h_4 =>
    cases selected
    rw [resolvedNode, shows.boost rfl]
  case h_6 => cases selected
  all_goals
    cases selected
    cases boost

/-! ## Stages that read

They keep to `foreign`, which has no files. -/

/-- A snapshot writes nothing and tells what its control holds. -/
theorem snapshotInternal_tells (now : Timestamp) :
    Confines sysfs interface contents .foreign (fun result _ =>
      ∀ snapshot, result = .ok snapshot → snapshot.originalTyped.checked = true ∧
        snapshot.originalFingerprint = sysfs.holding interface contents (controlOf mutation))
      (snapshotInternal ⟨sysfs.port⟩ mutation now) contents := by
  have same := SameBut.refl (sysfs.files interface .foreign) contents
  apply Alone.check_seq fun _ => ⟨same, nofun⟩
  intro node selected
  apply Confines.read_seq same fun _ _ => nofun
  intro state shows
  apply Alone.check_seq fun _ => ⟨same, nofun⟩
  intro _ _
  refine Confines.ok same ?_
  rintro _ ⟨⟩
  rw [controlOf_eq selected]
  exact ⟨shows.checked, shows.fingerprint⟩

/-- A readback writes nothing and tells what its control holds. -/
theorem verifyInternal_tells (expected : TargetIdentity) :
    Confines sysfs interface contents .foreign (fun result _ =>
      ∀ observed, result = .ok observed →
        observed = sysfs.holding interface contents (controlOf mutation))
      (verifyInternal ⟨sysfs.port⟩ mutation expected) contents := by
  have same := SameBut.refl (sysfs.files interface .foreign) contents
  apply Alone.check_seq fun _ => ⟨same, nofun⟩
  intro node selected
  apply Confines.read_seq same fun _ _ => nofun
  intro state shows
  apply Confines.refuse_seq same nofun
  intro _
  refine Confines.ok same ?_
  rintro _ ⟨⟩
  rw [controlOf_eq selected]
  exact shows.fingerprint

/-! ## Stages that write -/

section Writing

variable (selected : nodeForMutation mutation = .ok node)
  (same : SameBut (sysfs.files interface node.control) contents world)

include selected same

/-- Write the node as a mutation resolves it. -/
theorem write_resolved {desired : TypedValue}
    (shows : sysfs.Shows interface world node.control state) :
    Confines sysfs interface contents node.control (fun _ _ => True)
      (sysfs.write (resolvedNode node state) desired) world :=
  Confines.write same (resolvedNode_control node state) (resolvedNode_boost selected shows)

/-- A restore after a failed apply has left the original, if it says so. -/
theorem restoreAfterFailedApply_leaves :
    Confines sysfs interface contents node.control (fun result after => result = .ok () →
      sysfs.holding interface after node.control = snapshot.originalFingerprint)
      (restoreAfterFailedApply ⟨sysfs.port⟩ node snapshot) world := by
  apply Confines.read_seq same fun _ => nofun
  intro current shows
  apply Confines.refuse_seq same nofun
  intro _
  apply Alone.run_seq (write_resolved selected same shows)
  · exact fun error after known => ⟨known.1, nofun⟩
  rintro _ after ⟨same, -⟩
  apply Confines.read_seq same fun _ => nofun
  intro restored shows
  apply Confines.refuse same nofun
  rintro proven -
  rw [Bool.not_eq_false', provesOriginal, decide_eq_true_eq] at proven
  rw [← proven.2, shows.fingerprint, resolvedNode_control]

/-- A failing apply of known retryability has left the original. -/
theorem failApply_leaves (error : SysboostError) :
    Confines sysfs interface contents node.control (fun result after =>
      ∀ error, result = .error error → error.retryability ≠ .unknown →
        sysfs.holding interface after node.control = snapshot.originalFingerprint)
      (failApply ⟨sysfs.port⟩ node snapshot error) world := by
  apply Alone.inspect (restoreAfterFailedApply_leaves selected same)
  rintro recovery after ⟨same, restored⟩
  refine Confines.error same ?_
  rintro _ ⟨⟩ known
  cases recovery with
  | ok done => exact restored rfl
  | error cause => exact absurd rfl known

end Writing

/-- What an apply leaves. -/
theorem applyInternal_leaves :
    Confines sysfs interface contents (controlOf mutation) (fun result after =>
      ∀ error, result = .error error → error.retryability ≠ .unknown → after = contents ∨
        sysfs.holding interface after (controlOf mutation) = snapshot.originalFingerprint)
      (applyInternal ⟨sysfs.port⟩ mutation snapshot) contents := by
  have same := SameBut.refl (sysfs.files interface (controlOf mutation)) contents
  apply Alone.check_seq fun _ => ⟨same, fun _ _ _ => .inl rfl⟩
  intro node selected
  rw [controlOf_eq selected] at same ⊢
  apply Confines.read_seq same fun _ _ _ _ => .inl rfl
  intro current shows
  apply Confines.refuse_seq same fun _ _ _ => .inl rfl
  intro _
  apply Confines.reads_seq same (sysfs.validateDesired_quiet _ _).reads fun _ _ _ _ => .inl rfl
  intro _
  apply Alone.check_seq fun _ => ⟨same, fun _ _ _ => .inl rfl⟩
  intro effective _
  -- From the first write on, every failure goes through the restore.
  have fails {now : Contents} (same : SameBut (sysfs.files interface node.control) contents now)
      (error : SysboostError) : Confines sysfs interface contents node.control
        (fun result after => ∀ error, result = .error error → error.retryability ≠ .unknown →
          after = contents ∨
            sysfs.holding interface after node.control = snapshot.originalFingerprint)
        (failApply ⟨sysfs.port⟩ node snapshot error) now := by
    apply Safe.mono (failApply_leaves selected same error)
    exact fun _ _ known => ⟨known.1, fun error same other => .inr (known.2 error same other)⟩
  apply Alone.inspect (write_resolved selected same shows)
  rintro (error | ⟨⟩) written ⟨same, -⟩
  · exact fails same error
  apply Alone.inspect (sysfs.read_holds interface (fun _ => same) rfl _)
  rintro result read ⟨-, unchanged⟩
  obtain rfl : read = written := unchanged
  cases result with
  | error error => exact fails same error
  | ok after =>
      change Confines _ _ _ _ _ (ite _ _ _) _
      split
      · exact fails same _
      · refine Confines.ok same ?_
        rintro _ ⟨⟩

/-- What a restore leaves. -/
theorem restoreInternal_leaves (expectedOwnership : StateFingerprint) :
    Confines sysfs interface contents (controlOf mutation) (fun result after =>
      ∀ receipt, result = .ok receipt →
        sysfs.holding interface after (controlOf mutation) = receipt.restoredFingerprint)
      (restoreInternal ⟨sysfs.port⟩ mutation snapshot expectedOwnership) contents := by
  have same := SameBut.refl (sysfs.files interface (controlOf mutation)) contents
  apply Alone.check_seq fun _ => ⟨same, nofun⟩
  intro node selected
  rw [controlOf_eq selected] at same ⊢
  apply Confines.read_seq same fun _ _ => nofun
  intro current shows
  apply Confines.refuse_seq same nofun
  intro _
  apply Confines.refuse_seq same nofun
  intro _
  apply Alone.run_seq (write_resolved selected same shows)
  · exact fun error after known => ⟨known.1, nofun⟩
  rintro _ after ⟨same, -⟩
  apply Confines.read_seq same fun _ _ => nofun
  intro restored shows
  apply Confines.refuse_seq same nofun
  intro _
  refine Confines.ok same ?_
  rintro _ ⟨⟩
  rw [shows.fingerprint, resolvedNode_control]

end CpuBackend

end Sysboost.Linux.Cpu
