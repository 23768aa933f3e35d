import Sysboost.Interaction.Raising
import Sysboost.Linux.CpuBackend

/-!
# The calls of the CPU adapter

The functions of the adapter that read a node, or check a desired value, make no
call that writes, and their errors name no target.
-/

namespace Sysboost.Linux.Cpu

open Sysboost.Core Sysboost.Planner ByteCodec Interaction Kernel Results

/-! ## Errors -/

/-- An error that names no target. -/
def Untargeted (error : SysboostError) : Prop :=
  error.context.targetId = none

theorem raises_text (raw : Bytes) : Raises Untargeted (text raw) := by
  unfold text
  split
  · exact raises_ok _
  · exact raises_error rfl

theorem raises_parseEnergy (raw : Bytes) : Raises Untargeted (parseEnergy raw) := by
  refine raises_bind (raises_text raw) fun value _ => ?_
  split
  · exact raises_ok _
  · exact raises_error rfl

theorem raises_parseFrequency (raw : Bytes) : Raises Untargeted (parseFrequency raw) := by
  refine raises_bind (raises_text raw) fun value _ => ?_
  split
  · exact raises_error rfl
  · exact raises_mapError fun _ => rfl

theorem raises_parseBoost (interface : CpuBoostInterface) (raw : Bytes) :
    Raises Untargeted (parseBoost interface raw) := by
  refine raises_bind (raises_text raw) fun value _ => ?_
  split
  · exact raises_ok _
  · exact raises_error rfl

theorem raises_parseRaw (node : CpuNode) (raw : Bytes) (interface : Option CpuBoostInterface) :
    Raises Untargeted (CpuSysfs.parseRaw node raw interface) := by
  cases node with
  | governor policy =>
      refine raises_bind ?_ fun _ _ => raises_ok _
      exact raises_bind (raises_text raw) fun _ _ => raises_mapError fun _ => rfl
  | energyPreference policy => exact raises_bind (raises_parseEnergy raw) fun _ _ => raises_ok _
  | frequency policy =>
      simp only [CpuSysfs.parseRaw]
      split
      · refine raises_bind (raises_parseFrequency _) fun _ _ => ?_
        exact raises_bind (raises_parseFrequency _) fun _ _ => raises_ok _
      · exact raises_error rfl
  | boost other =>
      cases interface with
      | none => exact raises_error rfl
      | some interface =>
          exact raises_bind (raises_parseBoost interface raw) fun _ _ => raises_ok _
  | platformProfile =>
      refine raises_bind ?_ fun _ _ => raises_ok _
      exact raises_bind (raises_text raw) fun _ _ => raises_mapError fun _ => rfl

/-! ## Reading -/

/-- A program that does not write and whose errors name no target. -/
abbrev Quiet {α : Type} (program : Io α) : Prop :=
  Raising (fun call => Writing.writes call = false) Untargeted program

theorem Quiet.reads {α : Type} {program : Io α} (quiet : Quiet program) : Reads program :=
  quiet.calls

namespace CpuSysfs

variable (sysfs : CpuSysfs)

theorem symlinkMetadata_quiet (path : Path) (message : String) :
    Quiet (symlinkMetadata path message) :=
  .call rfl (fun _ => ⟨_, rfl⟩) fun _ => rfl

theorem validateFinalFile_quiet (path : Path) : Quiet (validateFinalFile path) := by
  unfold validateFinalFile
  exact .bind (symlinkMetadata_quiet _ _) fun _ => .refuseIf rfl

theorem nodeIdentity_quiet (path : Path) : Quiet (nodeIdentity path) := by
  unfold nodeIdentity
  exact .bind (symlinkMetadata_quiet _ _) fun _ => .bind (.refuseIf rfl) fun _ => .pure _

theorem directoryIdentity_quiet (path : Path) : Quiet (directoryIdentity path) := by
  unfold directoryIdentity
  exact .bind (symlinkMetadata_quiet _ _) fun _ => .bind (.refuseIf rfl) fun _ => .pure _

theorem descendCpufreq_quiet (current : Path) (components : List String) :
    Quiet (descendCpufreq current components) := by
  induction components generalizing current with
  | nil => exact .pure _
  | cons component rest ih =>
      refine .bind (.call rfl (fun _ => ⟨_, rfl⟩) fun kind => ?_) fun _ =>
        .bind (.refuseIf rfl) fun _ => ih _
      split
      · rfl
      · rfl

theorem descend_quiet (finalDirectory : Bool) (current : Path) (components : List String) :
    Quiet (descend finalDirectory current components) := by
  induction components generalizing current with
  | nil => exact .pure _
  | cons component rest ih =>
      exact .bind (.refuseIf rfl) fun _ => .bind (symlinkMetadata_quiet _ _) fun _ =>
        .bind (.refuseIf rfl) fun _ => ih _

theorem checkedComponentPath_quiet (components : List String) (finalDirectory : Bool) :
    Quiet (sysfs.checkedComponentPath components finalDirectory) := by
  unfold checkedComponentPath
  exact .bind (symlinkMetadata_quiet _ _) fun _ => .bind (.refuseIf rfl) fun _ =>
    descend_quiet _ _ _

theorem policyFile_quiet (policy : CpuPolicyId) (file : String) :
    Quiet (sysfs.policyFile policy file) := by
  unfold policyFile
  exact .bind (.refuseIf rfl) fun _ => .bind (sysfs.checkedComponentPath_quiet _ _) fun _ =>
    .bind (validateFinalFile_quiet _) fun _ => .pure _

theorem selectBoost_quiet (directory : Path) (candidates : List (String × CpuBoostInterface)) :
    Quiet (selectBoost directory candidates) := by
  induction candidates with
  | nil => exact .throw rfl
  | cons candidate rest ih =>
      refine .lift_bind (onlyReads_perform rfl) fun answer => ?_
      split
      · split
        · exact .throw rfl
        · split
          · exact .pure _
          · exact .throw rfl
      · exact ih
      · exact .throw rfl

theorem nodePath_quiet (node : CpuNode) : Quiet (sysfs.nodePath node) := by
  cases node with
  | governor policy => exact .bind (sysfs.policyFile_quiet _ _) fun _ => .pure _
  | energyPreference policy => exact .bind (sysfs.policyFile_quiet _ _) fun _ => .pure _
  | frequency policy => exact .bind (sysfs.checkedComponentPath_quiet _ _) fun _ => .pure _
  | boost interface =>
      exact .bind (descendCpufreq_quiet _ _) fun _ => .bind (selectBoost_quiet _ _) fun _ => .pure _
  | platformProfile => exact .bind (sysfs.checkedComponentPath_quiet _ _) fun _ => .pure _

theorem readFile_quiet (path : Path) : Quiet (readFile path) := by
  unfold readFile
  exact .bind (.call rfl (fun _ => ⟨_, rfl⟩) fun _ => rfl) fun _ =>
    .bind (.call rfl (fun _ => ⟨_, rfl⟩) fun _ => rfl) fun _ => .bind (.refuseIf rfl) fun _ =>
      .bind (.call rfl (fun _ => ⟨_, rfl⟩) fun _ => rfl) fun _ => .bind (.refuseIf rfl) fun _ =>
        .pure _

theorem rawNode_quiet (node : CpuNode) : Quiet (sysfs.rawNode node) := by
  refine .bind (sysfs.nodePath_quiet node) fun ⟨path, interface⟩ => ?_
  have plain : Quiet (do
      let raw ← readFile path
      let identity ← nodeIdentity path
      return (raw, identity, interface) : Io _) :=
    .bind (readFile_quiet _) fun _ => .bind (nodeIdentity_quiet _) fun _ => .pure _
  cases node with
  | frequency policy =>
      exact .bind (sysfs.policyFile_quiet _ _) fun _ => .bind (readFile_quiet _) fun _ =>
        .bind (sysfs.policyFile_quiet _ _) fun _ => .bind (readFile_quiet _) fun _ =>
          .bind (sysfs.checkedComponentPath_quiet _ _) fun _ =>
            .bind (directoryIdentity_quiet _) fun _ => .pure _
  | governor policy => exact plain
  | energyPreference policy => exact plain
  | boost interface => exact plain
  | platformProfile => exact plain

theorem read_quiet (node : CpuNode) : Quiet (sysfs.read node) := by
  unfold CpuSysfs.read
  exact .bind (sysfs.rawNode_quiet node) fun _ => .bind (.check (raises_parseRaw _ _ _)) fun _ =>
    .bind (.check (Bounded.raises_new (by rfl) _)) fun _ => .pure _

/-! ## Checking a desired value -/

theorem choicesText_quiet (node : CpuNode) : Quiet (sysfs.choicesText node) := by
  have words (bytes : Bytes) : Quiet (choicesText.words bytes) := by
    unfold choicesText.words
    split
    · exact .pure _
    · exact .throw rfl
  cases node with
  | governor policy =>
      exact .bind (sysfs.policyFile_quiet _ _) fun _ => .bind (readFile_quiet _) fun _ => words _
  | energyPreference policy =>
      exact .bind (sysfs.policyFile_quiet _ _) fun _ => .bind (readFile_quiet _) fun _ => words _
  | platformProfile =>
      exact .bind (sysfs.checkedComponentPath_quiet _ _) fun _ =>
        .bind (validateFinalFile_quiet _) fun _ => .bind (readFile_quiet _) fun _ => words _
  | boost interface => exact .pure _
  | frequency policy => exact .pure _

theorem choices_quiet (node : CpuNode) : Quiet (sysfs.choices node) := by
  refine .bind (sysfs.choicesText_quiet node) fun _ => ?_
  cases node with
  | governor policy =>
      exact .check (raises_mapM fun _ _ => raises_map (Bounded.raises_new (by rfl) _))
  | energyPreference policy =>
      exact .check (raises_mapM fun _ _ => raises_map (raises_parseEnergy _))
  | platformProfile =>
      exact .check (raises_mapM fun _ _ => raises_map (Bounded.raises_new (by rfl) _))
  | boost interface => exact .pure _
  | frequency policy => exact .pure _

theorem readOptionalFrequency_quiet (policy : CpuPolicyId) (file : String) :
    Quiet (sysfs.readOptionalFrequency policy file) := by
  refine .bind (sysfs.checkedComponentPath_quiet _ _) fun _ => ?_
  refine .lift_bind (onlyReads_perform rfl) fun answer => ?_
  split
  · split
    · exact .throw rfl
    · split
      · exact .throw rfl
      · exact .bind (readFile_quiet _) fun _ => .bind (.check (raises_parseFrequency _)) fun _ =>
          .pure _
  · exact .pure _
  · exact .throw rfl

theorem currentRange_quiet (policy : CpuPolicyId) : Quiet (sysfs.currentRange policy) := by
  refine .bind (sysfs.read_quiet _) fun state => ?_
  split
  · split
    · exact .pure _
    · exact .throw rfl
    · exact .throw rfl
  · exact .throw rfl

theorem validateDesired_quiet (node : CpuNode) (desired : TypedValue) :
    Quiet (sysfs.validateDesired node desired) := by
  have listed : Quiet (do
      let choices ← sysfs.choices node
      Early.refuseIf (choices.isEmpty || !choices.contains desired)
        (unsupported "CPU desired value is not advertised by the kernel") : Io Unit) :=
    .bind (sysfs.choices_quiet node) fun _ => .refuseIf rfl
  cases node with
  | frequency policy =>
      unfold validateDesired
      cases desired with
      | cpuFrequency minKhz maxKhz =>
          exact .bind (.refuseIf rfl) fun _ => .bind (sysfs.currentRange_quiet _) fun _ =>
            .bind (sysfs.readOptionalFrequency_quiet _ _) fun _ =>
              .bind (sysfs.readOptionalFrequency_quiet _ _) fun _ => .refuseIf rfl
      | _ => exact .throw rfl
  | governor policy => exact listed
  | energyPreference policy => exact listed
  | boost interface => exact listed
  | platformProfile => exact listed

end CpuSysfs

end Sysboost.Linux.Cpu
