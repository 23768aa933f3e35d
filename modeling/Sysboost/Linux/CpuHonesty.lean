import Sysboost.Linux.CpuCalls

/-!
# Errors of a CPU apply

An apply that returns an error other than an unknown outcome has not written
its node, or has read the original back after its last write.
-/

namespace Sysboost.Linux.Cpu

open Sysboost.Core Sysboost.Planner ByteCodec Interaction Kernel

/-- The reading methods of a port do not write. -/
structure CpuControlIo.OnlyWriteWrites (io : CpuControlIo) : Prop where
  read : ∀ node, Reads (io.read node)
  validateDesired : ∀ node desired, Reads (io.validateDesired node desired)

theorem CpuSysfs.onlyWriteWrites (sysfs : CpuSysfs) : sysfs.port.OnlyWriteWrites :=
  ⟨fun node => (sysfs.read_quiet node).reads,
    fun node desired => (sysfs.validateDesired_quiet node desired).reads⟩

/-! ## What an apply has done -/

namespace CpuBackend

/-- The trace ends with a reading of the node, on the target of the snapshot and
with its original value, and nothing is written meanwhile. -/
def ReadBack (io : CpuControlIo) (node : CpuNode) (snapshot : Snapshot)
    (trace : List (Exchange Kernel.Answer)) : Prop :=
  ∃ earlier readback observed state, trace = earlier ++ readback ∧ Untouched readback ∧
    Traces (io.read (resolvedNode node observed)).run readback (.ok state) ∧
    state.targetIdentity = snapshot.targetIdentity ∧
    state.fingerprint = snapshot.originalFingerprint

/-- An error other than an unknown outcome leaves the node as it was: it has not
been written, or the original has been read back after the last write. -/
def Honest (io : CpuControlIo) (mutation : PlannedMutation) (snapshot : Snapshot)
    (trace : List (Exchange Kernel.Answer)) (result : Except SysboostError ApplyReceipt) : Prop :=
  ∀ error, result = .error error → error.retryability ≠ .unknown →
    Untouched trace ∨
      ∃ node, nodeForMutation mutation = .ok node ∧ ReadBack io node snapshot trace

variable {io : CpuControlIo} {node : CpuNode} {mutation : PlannedMutation} {snapshot : Snapshot}

theorem ReadBack.append {more : List (Exchange Kernel.Answer)}
    (back : ReadBack io node snapshot more) (trace : List (Exchange Kernel.Answer)) :
    ReadBack io node snapshot (trace ++ more) := by
  obtain ⟨earlier, readback, observed, state, rfl, rest⟩ := back
  exact ⟨trace ++ earlier, readback, observed, state, (List.append_assoc _ _ _).symm, rest⟩

/-- A restore that succeeds has read the original back after its write. -/
theorem restoreAfterFailedApply_readBack (reads : io.OnlyWriteWrites) :
    Every (fun trace result => result = .ok () → ReadBack io node snapshot trace)
      (restoreAfterFailedApply ⟨io⟩ node snapshot).run := by
  unfold restoreAfterFailedApply
  refine Every.run_seq (Every.traces _) (fun _ _ _ => nofun) fun first current _ => ?_
  refine Every.run_seq Every.refuseIf (fun _ _ _ => nofun) fun second _ _ => ?_
  refine Every.run_seq (Every.traces _) (fun _ _ _ => nofun) fun written _ _ => ?_
  refine Every.run_seq (Every.traces _) (fun _ _ _ => nofun) fun readback restored run => ?_
  refine Every.refuseIf.mono ?_
  rintro _ result ⟨rfl, passed⟩ same
  have proved := passed.mp same
  simp only [Bool.not_eq_false', provesOriginal, decide_eq_true_eq] at proved
  refine ⟨first ++ (second ++ written), readback, current, restored, by simp, ?_, run, proved⟩
  exact (reads.read _).untouched run

/-- The error of an apply that may have had an effect is honest. -/
theorem failApply_honest (reads : io.OnlyWriteWrites) (error : SysboostError) :
    Every (fun trace result => ∀ error, result = .error error → error.retryability ≠ .unknown →
      ReadBack io node snapshot trace) (failApply ⟨io⟩ node snapshot error).run := by
  refine Every.inspect (restoreAfterFailedApply_readBack reads) fun trace recovery back => ?_
  refine Every.ret_iff.mpr ?_
  rintro returned ⟨⟩ known
  rw [List.append_nil]
  cases recovery with
  | ok restored => exact back rfl
  | error cause => exact absurd rfl known

/-- Reading first does not take honesty away. -/
theorem honest_of_reads {α : Type} {program : Io α} {next : α → Io ApplyReceipt}
    (reads : Reads program) (later : ∀ value, Every (Honest io mutation snapshot) (next value).run) :
    Every (Honest io mutation snapshot) (program >>= next).run := by
  refine Every.run_seq (fun _ _ run => reads.untouched run) ?_ ?_
  · intro trace error untouched _ _ _
    exact .inl untouched
  · intro trace value untouched
    refine (later value).mono fun more result honest error same known => ?_
    rcases honest error same known with nothing | ⟨node, selected, back⟩
    · exact .inl (unmarked_append.mpr ⟨untouched, nothing⟩)
    · exact .inr ⟨node, selected, back.append trace⟩

/-- An apply is honest whatever the node port does. -/
theorem applyInternal_honest (reads : io.OnlyWriteWrites) :
    Every (Honest io mutation snapshot) (applyInternal ⟨io⟩ mutation snapshot).run := by
  unfold applyInternal
  cases selected : nodeForMutation mutation with
  | error error => exact Every.ret_iff.mpr fun _ _ _ => .inl unmarked_nil
  | ok node =>
      -- Whatever was done before, a failing apply proves the original or says unknown.
      have fails (error : SysboostError) (done : List (Exchange Kernel.Answer)) :
          Every (fun more result => Honest io mutation snapshot (done ++ more) result)
            (failApply ⟨io⟩ node snapshot error).run := by
        refine (failApply_honest reads error).mono fun more result back error same known => ?_
        exact .inr ⟨node, selected, (back error same known).append done⟩
      rw [Early.check_ok_bind]
      refine honest_of_reads (reads.read _) fun current => ?_
      refine honest_of_reads (.refuseIf _ _) fun _ => ?_
      refine honest_of_reads (reads.validateDesired _ _) fun _ => ?_
      refine honest_of_reads (.check _) fun effective => ?_
      refine Every.inspect (Every.traces _) fun written outcome _ => ?_
      cases outcome with
      | error error => exact fails error written
      | ok _ =>
          refine Every.inspect (Every.traces _) fun readback after _ => ?_
          simp only [← List.append_assoc]
          cases after with
          | error error => exact fails error (written ++ readback)
          | ok after =>
              dsimp only
              split
              · exact fails _ (written ++ readback)
              · exact Every.ret_iff.mpr fun _ => nofun

end CpuBackend

/-- Whatever each call of the kernel answers, an apply of the production backend
that returns an error other than an unknown outcome has not written its node, or
has read back the original on the original target after the last write. -/
theorem apply_honest (sysfs : CpuSysfs) (mutation : PlannedMutation) (snapshot : Snapshot) :
    Every (CpuBackend.Honest sysfs.port mutation snapshot)
      (CpuBackend.applyInternal ⟨sysfs.port⟩ mutation snapshot).run :=
  CpuBackend.applyInternal_honest sysfs.onlyWriteWrites

end Sysboost.Linux.Cpu
