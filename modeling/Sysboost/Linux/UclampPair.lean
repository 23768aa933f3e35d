import Sysboost.Interaction.Holding
import Sysboost.Linux.WorkloadCalls
import Sysboost.Linux.WorkloadRestore

/-!
# The utilization clamps of a group

The two clamps of a group are in two files, and each is written on its own.  A
desired clamp is checked against the other one twice: when the plan is admitted,
and right before it is written.  A restore checks nothing, but it writes one end
of a pair that was in order.  So every end that is ever written fits the other
end at that time and the other end of the original.
-/

namespace Sysboost.Linux.Workload

open Sysboost.Core Sysboost.Planner ByteCodec Interaction Results

/-! ## Pairs -/

inductive ClampEnd where
  | min
  | max
deriving DecidableEq

def ClampEnd.node : ClampEnd → WorkloadNode
  | min => .uclampMin
  | max => .uclampMax

theorem ClampEnd.eq_of_filename {side : ClampEnd} {node : WorkloadNode}
    (same : node.filename = side.node.filename) : node = side.node := by
  cases side with
  | min => cases node <;> first | rfl | exact absurd same (by decide)
  | max => cases node <;> first | rfl | exact absurd same (by decide)

/-- The levels of both clamps, where `max` counts as 1024. -/
structure Clamps where
  min : UInt16
  max : UInt16
deriving DecidableEq

namespace Clamps

def get (clamps : Clamps) : ClampEnd → UInt16
  | .min => clamps.min
  | .max => clamps.max

def set (clamps : Clamps) (side : ClampEnd) (level : UInt16) : Clamps :=
  match side with
  | .min => { clamps with min := level }
  | .max => { clamps with max := level }

def Valid (clamps : Clamps) : Prop :=
  clamps.min ≤ clamps.max

/-- The level is on the right side of the other end. -/
def Fits (clamps : Clamps) (side : ClampEnd) (level : UInt16) : Prop :=
  match side with
  | .min => level ≤ clamps.max
  | .max => clamps.min ≤ level

theorem Valid.fits {clamps : Clamps} (valid : clamps.Valid) (side : ClampEnd) :
    clamps.Fits side (clamps.get side) := by
  cases side with
  | min => exact valid
  | max => exact valid

theorem Fits.valid {clamps : Clamps} {side : ClampEnd} {level : UInt16}
    (fits : clamps.Fits side level) : (clamps.set side level).Valid := by
  cases side with
  | min => exact fits
  | max => exact fits

end Clamps

/-- The pair is valid, and so is each of its ends with the other end of the
original. -/
structure Between (original now : Clamps) : Prop where
  valid : now.Valid
  fits : ∀ side, original.Fits side (now.get side)

namespace Between

variable {original now : Clamps}

theorem refl (valid : original.Valid) : Between original original where
  valid := valid
  fits := valid.fits

/-- An end that fits both pairs may be written. -/
theorem set (between : Between original now) {side : ClampEnd} {level : UInt16}
    (fits : now.Fits side level) (fitsOriginal : original.Fits side level) :
    Between original (now.set side level) where
  valid := fits.valid
  fits := by
    intro other
    cases side with
    | min =>
        cases other with
        | min => exact fitsOriginal
        | max => exact between.fits .max
    | max =>
        cases other with
        | min => exact between.fits .min
        | max => exact fitsOriginal

/-- The original end fits. -/
theorem fits_original (between : Between original now) (side : ClampEnd) :
    now.Fits side (original.get side) := by
  cases side with
  | min => exact between.fits .max
  | max => exact between.fits .min

end Between

theorem le_of_validateUclampPair {minimum maximum : UclampValue}
    (valid : validateUclampPair minimum maximum = .ok ()) :
    uclampLevel minimum ≤ uclampLevel maximum := by
  unfold validateUclampPair at valid
  split at valid
  · cases valid
  next ordered => exact UInt16.not_lt.mp ordered

/-- A text that is rendered for a value is not read as another one. -/
theorem eq_of_parseUclamp_render {value read : UclampValue}
    (parsed : parseUclamp (utf8 (renderUclamp value)) = .ok read) : read = value := by
  cases value with
  | max =>
      rw [parseUclamp_render rfl] at parsed
      cases parsed
      rfl
  | value level =>
      have trimmed : trim (toString level) = toString level := trim_of_solid (solid_toString _)
      have other : toString level ≠ "max" :=
        toString_ne_of_mem (by decide : 'm' ∈ "max".toList) (by decide) level.toNat
      have number : number (2 ^ 16) "uclamp value is malformed" (toString level) =
          .ok level.toNat := number_toString _ level.toNat_lt
      simp only [parseUclamp, utf8Text_utf8, renderUclamp, trimmed, bind, Except.bind,
        if_neg other, number, UInt16.ofNat_toNat] at parsed
      exact (UclampValue.eq_of_new parsed).1

/-! ## The mutations of a group -/

/-- The directory of a group, and how it is identified. -/
structure GroupPlace where
  path : Kernel.Path
  device : UInt64
  inode : UInt64

namespace GroupPlace

/-- The identity is that of the directory. -/
abbrev Names (place : GroupPlace) (cgroup : CgroupId) : Prop :=
  cgroup.mountId = place.device ∧ cgroup.inode = place.inode

/-- The file of an end. -/
def clampFile (place : GroupPlace) (side : ClampEnd) : Kernel.Path :=
  place.path ++ [side.node.filename]

/-- The end that a mutation sets in this group. -/
def clampOf (place : GroupPlace) : MutationKind → Option (ClampEnd × UclampValue)
  | .cgroupUclampMin cgroup value => if place.Names cgroup then some (.min, value) else none
  | .cgroupUclampMax cgroup value => if place.Names cgroup then some (.max, value) else none
  | _ => none

variable {place : GroupPlace} {kind : MutationKind} {side : ClampEnd} {value : UclampValue}

theorem clampOf_eq_some (sets : place.clampOf kind = some (side, value)) :
    ∃ cgroup, place.Names cgroup ∧ (side = .min ∧ kind = .cgroupUclampMin cgroup value ∨
      side = .max ∧ kind = .cgroupUclampMax cgroup value) := by
  cases kind with
  | cgroupUclampMin cgroup clamp =>
      rw [clampOf, Option.ite_none_right_eq_some] at sets
      cases sets.2
      exact ⟨cgroup, sets.1, .inl ⟨rfl, rfl⟩⟩
  | cgroupUclampMax cgroup clamp =>
      rw [clampOf, Option.ite_none_right_eq_some] at sets
      cases sets.2
      exact ⟨cgroup, sets.1, .inr ⟨rfl, rfl⟩⟩
  | _ => cases sets

theorem node_of_clampOf (sets : place.clampOf kind = some (side, value)) :
    ∃ cgroup, nodeOf kind = some (cgroup, side.node) ∧ place.Names cgroup := by
  obtain ⟨cgroup, names, ⟨rfl, rfl⟩ | ⟨rfl, rfl⟩⟩ := clampOf_eq_some sets
  · exact ⟨cgroup, rfl, names⟩
  · exact ⟨cgroup, rfl, names⟩

end GroupPlace

/-- A node is read for each of its mutations. -/
theorem WorkloadSysfs.read_eq (sysfs : WorkloadSysfs) {mutation : PlannedMutation}
    {cgroup : CgroupId} {node : WorkloadNode}
    (operates : nodeOf mutation.kind = some (cgroup, node)) :
    sysfs.read mutation = readCgroupNode cgroup node := by
  rw [← readMutation_eq operates]
  unfold WorkloadSysfs.read
  split
  next kind => simp [kind, nodeOf] at operates
  next kind => simp [kind, nodeOf] at operates
  next kind => simp [kind, nodeOf] at operates
  · rfl

theorem typed_of_new {raw : Bytes} {typed : TypedValue} {identity : TargetIdentity}
    {observation : WorkloadObservation}
    (made : WorkloadObservation.new raw typed identity = .ok observation) :
    observation.typed = typed := by
  obtain ⟨bounded, -, same⟩ := bind_eq_ok_iff.mp made
  cases same
  rfl

/-! ## What the kernel promises -/

variable {W : Type} {env : Environment Answer W} {clamps : W → Clamps} {place : GroupPlace}

/-- The call does not write an end of the pair. -/
def Call.Elsewhere (place : GroupPlace) (call : Call) : Prop :=
  ∀ side content, call ≠ .kernel (.writeAll (place.clampFile side) content)

/-- The directory of the group stays where it is.  Its two files show the ends
of the pair, and writing a text to one of them either does nothing or sets the
end to the value of the text.  Nothing else changes the pair. -/
structure Clamping (env : Environment Answer W) (clamps : W → Clamps) (place : GroupPlace) :
    Prop where
  placed : ∀ {before after : W} {path : Kernel.Path} {metadata : Kernel.Metadata},
    env before (.kernel (.symlinkMetadata path)) (.ok metadata) after →
      (metadata.device = place.device ∧ metadata.inode = place.inode ↔ path = place.path)
  shows : ∀ {before after : W} {side : ClampEnd} {limit : Option Nat} {raw : Bytes}
    {value : UclampValue},
    env before (.kernel (.readToEnd (place.clampFile side) limit)) (.ok raw) after →
      parseUclamp raw = .ok value → uclampLevel value = (clamps before).get side
  stores : ∀ {before after : W} {side : ClampEnd} {content : Bytes}
    {answer : Answer (.kernel (.writeAll (place.clampFile side) content))},
    env before (.kernel (.writeAll (place.clampFile side) content)) answer after →
      clamps after = clamps before ∨ ∃ value, parseUclamp content = .ok value ∧
        clamps after = (clamps before).set side (uclampLevel value)
  stays : ∀ {before after : W} {call : Call} {answer : Answer call},
    call.Elsewhere place → env before call answer after → clamps after = clamps before

theorem Call.WritesTo.elsewhere {file : Option Kernel.Path} {call : Call}
    (writes : call.WritesTo file) (other : ∀ side, file ≠ some (place.clampFile side)) :
    call.Elsewhere place := by
  rintro side content rfl
  exact other side writes

theorem Call.OnlyReads.elsewhere {call : Call} (reads : call.OnlyReads) :
    call.Elsewhere place :=
  (reads.writesTo none).elsewhere fun _ => nofun

/-- Every call finds the pair between the original and what was wanted. -/
abbrev InOrder (clamps : W → Clamps) (original : Clamps) (world : W) (_ : Call) : Prop :=
  Between original (clamps world)

section Held

variable {original now : Clamps} {world : W} (clamping : Clamping env clamps place)
  (between : Between original now)

include clamping between

theorem keeping : Keeping env (InOrder clamps original) clamps now (Call.Elsewhere place) := by
  intro before request same elsewhere
  constructor
  · show Between original (clamps before)
    rwa [same]
  · exact fun answer after law => (clamping.stays elsewhere law).trans same

theorem keeping_reads : Keeping env (InOrder clamps original) clamps now Call.OnlyReads :=
  (keeping clamping between).mono fun _ => Call.OnlyReads.elsewhere

theorem keeping_finds : Keeping env (InOrder clamps original) clamps now Call.FindsGroup :=
  (keeping_reads clamping between).mono fun _ finds => finds.findsProcess.onlyReads

theorem keeping_files : Keeping env (InOrder clamps original) clamps now Call.ReadsFile :=
  (keeping_finds clamping between).mono fun _ => Call.ReadsFile.findsGroup

variable (holds : clamps world = now)

include holds

/-! ### Reading -/

/-- Reading a file shows what every answer to the read shows. -/
theorem alone_readClosedFile {path : Kernel.Path} {message : String} {shows : Bytes → Prop}
    (answers : ∀ {before after : W} {limit : Option Nat} {raw : Bytes}, clamps before = now →
      env before (.kernel (.readToEnd path limit)) (.ok raw) after → shows raw) :
    Alone env (InOrder clamps original) (Holds clamps now shows)
      (readClosedFile path message).run world := by
  have files := keeping_files clamping between
  have error (problem : SysboostError) (after : W) (same : clamps after = now) :
      Holds (α := Bytes) clamps now shows (.error problem) after := .error same
  apply files.seq (validateRegularFile_calls _ _).calls holds error
  intro _ inspected holds
  have opened : Calls Call.ReadsFile (Early.attempt (ioError message)
      (Prog.perform (Call.kernel (.openRead path)))) :=
    .call trivial (fun answer => ⟨answer, rfl⟩) fun _ => ioError_never _ _
  apply files.seq opened.calls holds error
  intro _ opened holds
  have read : Alone env (InOrder clamps original) (Holds clamps now shows)
      (Early.attempt (ioError message)
        (Prog.perform (Call.kernel (.readToEnd path none)))).run opened := by
    apply Alone.perform_bind_iff.mpr
    constructor
    · show Between original (clamps opened)
      rwa [holds]
    · intro answer after law
      have reads : Call.OnlyReads (.kernel (.readToEnd path none)) := rfl
      have same : clamps after = now := (clamping.stays reads.elsewhere law).trans holds
      cases answer with
      | error kind => exact Alone.ret_iff.mpr (.error same)
      | ok raw => exact Alone.ret_iff.mpr (.ok (answers holds law) same)
  apply Holds.seq read error
  intro raw after shown same
  exact Alone.refuseIf_seq (.error same) fun _ => Alone.ret_iff.mpr (.ok shown same)

/-- The identity of a directory tells whether it is that of the group. -/
theorem alone_cgroupIdFromPath (handle : String) (path : Kernel.Path) (message : String) :
    Alone env (InOrder clamps original)
      (Holds clamps now fun cgroup => place.Names cgroup ↔ path = place.path)
      (cgroupIdFromPath handle path message).run world := by
  have inspected : Alone env (InOrder clamps original)
      (Holds clamps now fun metadata =>
        metadata.device = place.device ∧ metadata.inode = place.inode ↔ path = place.path)
      (symlinkMetadata path message).run world := by
    apply Alone.perform_bind_iff.mpr
    constructor
    · show Between original (clamps world)
      rwa [holds]
    · intro answer after law
      have reads : Call.OnlyReads (.kernel (.symlinkMetadata path)) := rfl
      have same : clamps after = now := (clamping.stays reads.elsewhere law).trans holds
      cases answer with
      | error kind => exact Alone.ret_iff.mpr (.error same)
      | ok metadata => exact Alone.ret_iff.mpr (.ok (clamping.placed law) same)
  apply Holds.seq inspected fun _ _ same => .error same
  intro metadata after known same
  apply Alone.refuseIf_seq (.error same)
  intro _
  apply Alone.check_seq fun _ => .error same
  exact fun handle _ => Alone.ret_iff.mpr (.ok known same)

/-- A group that is found has the path of the directory if it has its identity. -/
theorem alone_groupFor (cgroup : CgroupId) :
    Alone env (InOrder clamps original)
      (Holds clamps now fun group => place.Names cgroup ↔ group.path = place.path)
      (groupFor cgroup).run world := by
  have error (problem : SysboostError) (after : W) (same : clamps after = now) :
      Holds (α := SysfsGroup) clamps now (fun group => place.Names cgroup ↔ group.path = place.path)
        (.error problem) after := .error same
  apply Alone.refuseIf_seq (.error holds)
  intro _
  have looked : Calls Call.FindsGroup
      (locked (Prog.perform (Call.group cgroup.handle))) :=
    .call trivial (fun answer => ⟨answer, rfl⟩) fun _ => rfl
  apply (keeping_finds clamping between).seq looked.calls holds error
  intro found after holds
  cases found with
  | none => exact Alone.ret_iff.mpr (.error holds)
  | some group =>
      apply Alone.refuseIf_seq (.error holds)
      intro own
      apply Holds.seq (alone_cgroupIdFromPath clamping between holds _ _ _) error
      intro identity after known same
      apply Alone.refuseIf_seq (.error same)
      intro unchanged
      have own : group.identity = cgroup := by simpa using own
      simp only [Bool.or_eq_false_iff, decide_eq_false_iff_not, not_not] at unchanged
      rw [GroupPlace.Names, unchanged.1, unchanged.2, own] at known
      exact Alone.ret_iff.mpr (.ok known same)

/-- What is read of an end. -/
def ShowsEnd (now : Clamps) (side : ClampEnd) (typed : TypedValue) : Prop :=
  ∃ value, typed = .cgroupUclamp value ∧ uclampLevel value = now.get side

theorem alone_readNodeValue {group : SysfsGroup} (same : group.path = place.path)
    (side : ClampEnd) :
    Alone env (InOrder clamps original)
      (Holds clamps now fun (typed, raw) => ShowsEnd now side typed ∧
        ∀ value, parseUclamp raw = .ok value → uclampLevel value = now.get side)
      (readNodeValue group side.node).run world := by
  have file : group.file side.node.filename = place.clampFile side := by
    rw [SysfsGroup.file, same, GroupPlace.clampFile]
  apply (keeping_files clamping between).seq (requireNode_calls _ _).calls holds
    fun _ _ same => .error same
  intro _ required holds
  have read : Alone env (InOrder clamps original)
      (Holds clamps now fun raw => ∀ value, parseUclamp raw = .ok value →
        uclampLevel value = now.get side)
      (readClosedFile (group.file side.node.filename) "cgroup controller file cannot be read").run
      required := by
    apply alone_readClosedFile clamping between holds
    intro before after limit raw same law value parsed
    rw [file] at law
    rw [← same]
    exact clamping.shows law parsed
  apply Holds.seq read fun _ _ same => .error same
  intro raw after shown same
  apply Alone.check_seq fun _ => .error same
  intro typed parsed
  obtain ⟨value, rfl, clamped⟩ : ∃ value, typed = .cgroupUclamp value ∧
      parseUclamp raw = .ok value := by
    simp only [parseWorkloadNode, bind_eq_ok_iff] at parsed
    obtain ⟨text, -, parsed⟩ := parsed
    cases side with
    | min =>
        obtain ⟨value, clamped, same⟩ := bind_eq_ok_iff.mp parsed
        cases same
        exact ⟨value, rfl, clamped⟩
    | max =>
        obtain ⟨value, clamped, same⟩ := bind_eq_ok_iff.mp parsed
        cases same
        exact ⟨value, rfl, clamped⟩
  exact Alone.ret_iff.mpr (.ok ⟨⟨value, rfl, shown value clamped⟩, shown⟩ same)

/-- A mutation of an end observes the end. -/
theorem alone_read (sysfs : WorkloadSysfs) (mutation : PlannedMutation) :
    Alone env (InOrder clamps original)
      (Holds clamps now fun observation => ∀ side value,
        place.clampOf mutation.kind = some (side, value) → ShowsEnd now side observation.typed)
      (sysfs.read mutation).run world := by
  cases sets : place.clampOf mutation.kind with
  | none =>
      apply (keeping_reads clamping between).holds _ holds
      exact (sysfs.read_calls mutation).calls.mono fun _ _ _ _ _ _ => nofun
  | some clamp =>
      obtain ⟨side, value⟩ := clamp
      obtain ⟨cgroup, operates, names⟩ := GroupPlace.node_of_clampOf sets
      rw [sysfs.read_eq operates]
      apply Holds.seq (alone_groupFor clamping between holds cgroup) fun _ _ same => .error same
      intro group after placed same
      apply Holds.seq (alone_readNodeValue clamping between same (placed.mp names) side)
        fun _ _ same => .error same
      rintro ⟨typed, raw⟩ read ⟨shown, -⟩ same
      apply Holds.check _ same
      rintro observation made _ _ ⟨⟩
      rw [typed_of_new made]
      exact shown

/-- A desired end fits the other end. -/
theorem alone_validateDesired (sysfs : WorkloadSysfs) (kind : MutationKind)
    (desired : TypedValue) :
    Alone env (InOrder clamps original)
      (Holds clamps now fun _ => ∀ side value, place.clampOf kind = some (side, value) →
        desired = .cgroupUclamp value ∧ now.Fits side (uclampLevel value))
      (sysfs.validateDesired kind desired).run world := by
  have finds := keeping_finds clamping between
  have files := keeping_files clamping between
  cases sets : place.clampOf kind with
  | none =>
      apply finds.holds _ holds
      exact (sysfs.validateDesired_calls kind desired).calls.mono fun _ _ _ _ _ _ => nofun
  | some clamp =>
      have error (problem : SysboostError) (after : W) (same : clamps after = now) :
          Holds clamps now (fun _ : Unit => ∀ side value, some clamp = some (side, value) →
            desired = .cgroupUclamp value ∧ now.Fits side (uclampLevel value))
            (.error problem) after := .error same
      apply Alone.refuseIf_seq (error _ _ holds)
      intro agrees
      have agrees : kind.typedValue = desired := by simpa using agrees
      obtain ⟨side, value⟩ := clamp
      obtain ⟨cgroup, names, ⟨rfl, rfl⟩ | ⟨rfl, rfl⟩⟩ := GroupPlace.clampOf_eq_some sets
      · apply Holds.seq (alone_groupFor clamping between holds cgroup) error
        intro group found placed holds
        apply Alone.refuseIf_seq (error _ _ holds)
        intro _
        apply files.seq (requireNode_calls _ _).calls holds error
        intro _ lower holds
        apply files.seq (requireNode_calls _ _).calls holds error
        intro _ upper holds
        apply Holds.seq (alone_readNodeValue clamping between holds (placed.mp names) .max) error
        rintro ⟨typed, raw⟩ read ⟨-, shown⟩ same
        apply Holds.check _ same
        rintro ⟨⟩ valid _ _ ⟨⟩
        obtain ⟨other, parsed, valid⟩ := bind_eq_ok_iff.mp valid
        have ordered := le_of_validateUclampPair valid
        rw [shown other parsed] at ordered
        exact ⟨agrees.symm, ordered⟩
      · apply Holds.seq (alone_groupFor clamping between holds cgroup) error
        intro group found placed holds
        apply files.seq (requireNode_calls _ _).calls holds error
        intro _ lower holds
        apply files.seq (requireNode_calls _ _).calls holds error
        intro _ upper holds
        apply Holds.seq (alone_readNodeValue clamping between holds (placed.mp names) .min) error
        rintro ⟨typed, raw⟩ read ⟨-, shown⟩ same
        apply Holds.check _ same
        rintro ⟨⟩ valid _ _ ⟨⟩
        obtain ⟨other, parsed, valid⟩ := bind_eq_ok_iff.mp valid
        have ordered := le_of_validateUclampPair valid
        rw [shown other parsed] at ordered
        exact ⟨agrees.symm, ordered⟩

/-! ### Writing -/

/-- The rest of a program that writes no end. -/
theorem alone_elsewhere {α : Type} {program : Io α} (calls : Calls (Call.Elsewhere place) program) :
    Alone env (InOrder clamps original) (fun _ after => Between original (clamps after))
      program.run world := by
  have kept : Alone env (InOrder clamps original) (Holds clamps now fun _ => True) program.run
      world := (keeping clamping between).holds (calls.calls.mono fun _ _ _ _ => trivial) holds
  exact kept.mono fun _ after known => known.2 ▸ between

/-- Writing an end that fits the other end and the original. -/
theorem alone_writeNode_end {group : SysfsGroup} (same : group.path = place.path)
    {side : ClampEnd} {value : UclampValue} (fits : now.Fits side (uclampLevel value))
    (fitsOriginal : original.Fits side (uclampLevel value)) :
    Alone env (InOrder clamps original) (fun _ after => Between original (clamps after))
      (writeNode group side.node (renderUclamp value)).run world := by
  have files := keeping_files clamping between
  have error (problem : SysboostError) (after : W) (same : clamps after = now) :
      Between original (clamps after) := same ▸ between
  have file : group.file side.node.filename = place.clampFile side := by
    rw [SysfsGroup.file, same, GroupPlace.clampFile]
  unfold writeNode
  rw [file]
  apply files.seq (requireNode_calls _ _).calls holds error
  intro _ required holds
  apply Alone.refuseIf_seq (holds ▸ between)
  intro _
  apply files.seq (validateRegularFile_calls _ _).calls holds error
  intro metadata inspected holds
  apply Alone.refuseIf_seq (holds ▸ between)
  intro _
  have opened : Calls (Call.Elsewhere place) (Early.attempt
      (ioError "cgroup controller write failed")
      (Prog.perform (Call.kernel (.openWrite (place.clampFile side))))) :=
    .call (fun _ _ => nofun) (fun answer => ⟨answer, rfl⟩) fun _ => ioError_never _ _
  apply (keeping clamping between).seq opened.calls holds error
  intro _ writable holds
  apply Alone.perform_bind_iff.mpr
  constructor
  · show Between original (clamps writable)
    rwa [holds]
  · intro answer after law
    have stays : Between original (clamps after) := by
      obtain kept | ⟨written, parsed, stored⟩ := clamping.stores law
      · rwa [kept, holds]
      · rw [stored, holds, eq_of_parseUclamp_render parsed]
        exact between.set fits fitsOriginal
    exact Alone.ret_iff.mpr stays

/-- Writing a node of a group: an end of the pair only if it fits. -/
theorem alone_writeCgroupNode (cgroup : CgroupId) (node : WorkloadNode) (text : String)
    (ends : ∀ side, node = side.node → place.Names cgroup → ∃ value, text = renderUclamp value ∧
      now.Fits side (uclampLevel value) ∧ original.Fits side (uclampLevel value)) :
    Alone env (InOrder clamps original) (fun _ after => Between original (clamps after))
      (writeCgroupNode cgroup node text).run world := by
  apply Holds.seq (alone_groupFor clamping between holds cgroup) fun _ _ same => same ▸ between
  intro group found placed holds
  by_cases own : ∃ side, group.file node.filename = place.clampFile side
  · obtain ⟨side, same⟩ := own
    rw [SysfsGroup.file, GroupPlace.clampFile] at same
    obtain ⟨path, filename⟩ := List.append_inj' same rfl
    obtain rfl := ClampEnd.eq_of_filename (List.singleton_inj.mp filename)
    obtain ⟨value, rfl, fits, fitsOriginal⟩ := ends side rfl (placed.mpr path)
    exact alone_writeNode_end clamping between holds path fits fitsOriginal
  · apply alone_elsewhere clamping between holds
    apply (writeNode_calls group node text).weaken
    intro call acts
    apply acts.2.elsewhere
    rintro side same
    exact own ⟨side, Option.some.inj same⟩

theorem alone_writeMutation (sysfs : WorkloadSysfs) (kind : MutationKind) (desired : TypedValue)
    (fits : ∀ side value written, place.clampOf kind = some (side, value) →
      desired = .cgroupUclamp written →
        now.Fits side (uclampLevel written) ∧ original.Fits side (uclampLevel written)) :
    Alone env (InOrder clamps original) (fun _ after => Between original (clamps after))
      (sysfs.writeMutation kind desired).run world := by
  have plain (cgroup : CgroupId) (node : WorkloadNode) (text : String)
      (other : ∀ side, node ≠ ClampEnd.node side) :
      Alone env (InOrder clamps original) (fun _ after => Between original (clamps after))
        (writeCgroupNode cgroup node text).run world :=
    alone_writeCgroupNode clamping between holds cgroup node text fun side same =>
      absurd same (other side)
  have free {α : Type} {program : Io α} (calls : Calls (Call.WritesTo none) program) :
      Alone env (InOrder clamps original) (fun _ after => Between original (clamps after))
        program.run world :=
    alone_elsewhere clamping between holds
      (calls.weaken fun _ writes => writes.elsewhere fun _ => nofun)
  have found {cgroup : CgroupId} {next : SysfsGroup → Io Unit}
      (calls : ∀ group, Calls (Call.WritesTo none) (next group)) :
      Calls (Call.WritesTo none) (groupFor cgroup >>= next) :=
    .bind ((groupFor_calls cgroup).weaken fun _ finds =>
      finds.findsProcess.onlyReads.writesTo none) calls
  have acts {program : Io Unit} (calls : Calls (Call.ActsOn none) program) :
      Calls (Call.WritesTo none) program := calls.weaken fun _ => And.right
  unfold WorkloadSysfs.writeMutation
  split
  · exact plain _ _ _ (by rintro (_ | _) ⟨⟩)
  · exact plain _ _ _ (by rintro (_ | _) ⟨⟩)
  · exact plain _ _ _ (by rintro (_ | _) ⟨⟩)
  · exact plain _ _ _ (by rintro (_ | _) ⟨⟩)
  next cgroup wanted value =>
    apply alone_writeCgroupNode clamping between holds
    rintro (_ | _) ⟨⟩ names
    exact ⟨value, rfl, fits .min wanted value (if_pos names) rfl⟩
  next cgroup wanted value =>
    apply alone_writeCgroupNode clamping between holds
    rintro (_ | _) ⟨⟩ names
    exact ⟨value, rfl, fits .max wanted value (if_pos names) rfl⟩
  · exact free (found fun parent => acts (createChild_calls parent _))
  · exact free (found fun parent => acts (createChild_calls parent _))
  · exact free (found fun parent => removeChild_calls parent _)
  · exact free (found fun parent => removeChild_calls parent _)
  · exact free (acts (sysfs.writeNice_calls _ _))
  next process cgroup _ =>
    have group : Calls (Call.Elsewhere place) (groupFor cgroup) :=
      (groupFor_calls cgroup).weaken fun _ finds => finds.findsProcess.onlyReads.elsewhere
    apply alone_elsewhere clamping between holds (.bind group _)
    intro destination
    apply (sysfs.writeProcessPlacement_calls process destination).weaken
    intro call acts
    apply acts.2.elsewhere
    intro side same
    have names := (List.append_inj' (Option.some.inj same) rfl).2
    cases side with
    | min => exact absurd names (by decide)
    | max => exact absurd names (by decide)
  · exact free (.throw rfl)
  · exact free (.throw rfl)

/-! ### Stages -/

variable (sysfs : WorkloadSysfs) (mutation : PlannedMutation)

/-- The pair stays in order through any program that only reads. -/
theorem alone_reads {α : Type} {program : Io α} (calls : Calls Call.OnlyReads program) :
    Alone env (InOrder clamps original) (fun _ after => Between original (clamps after))
      program.run world :=
  alone_elsewhere clamping between holds (calls.weaken fun _ => Call.OnlyReads.elsewhere)

/-- An admitted end fits the other end. -/
theorem alone_validateAdmission (expected : TargetIdentity) :
    Alone env (InOrder clamps original)
      (Holds clamps now fun _ => ∀ side value, place.clampOf mutation.kind = some (side, value) →
        now.Fits side (uclampLevel value))
      (sysfs.validateAdmission mutation expected).run world := by
  have error {α : Type} {shows : α → Prop} (problem : SysboostError) (after : W)
      (same : clamps after = now) : Holds clamps now shows (.error problem) after := .error same
  apply Alone.refuseIf_seq (error _ _ holds)
  intro _
  have validated : Alone env (InOrder clamps original)
      (Holds clamps now fun _ => ∀ side value, place.clampOf mutation.kind = some (side, value) →
        now.Fits side (uclampLevel value))
      (sysfs.validateCanonicalTarget mutation expected).run world := by
    apply Alone.check_seq fun problem => error problem _ holds
    intro target _
    apply Alone.refuseIf_seq (error _ _ holds)
    intro _
    apply (keeping_reads clamping between).seq (sysfs.read_calls mutation).calls holds error
    intro observation read holds
    apply Alone.refuseIf_seq (error _ _ holds)
    intro _
    apply Holds.seq (alone_validateDesired clamping between holds sysfs _ _) error
    intro _ after desired same
    exact Alone.ret_iff.mpr (.ok (fun side value sets => (desired side value sets).2) same)
  apply Holds.seq validated error
  intro observation after fits same
  exact Holds.check (fun _ _ => fits) same

/-- A snapshot of an end holds it. -/
theorem alone_snapshotInternal (now' : Timestamp) :
    Alone env (InOrder clamps original)
      (Holds clamps now fun snapshot => ∀ side value,
        place.clampOf mutation.kind = some (side, value) → ShowsEnd now side snapshot.originalTyped)
      (sysfs.snapshotInternal mutation now').run world := by
  have error (problem : SysboostError) (after : W) (same : clamps after = now) :
      Holds (α := Snapshot) clamps now (fun snapshot => ∀ side value,
        place.clampOf mutation.kind = some (side, value) → ShowsEnd now side snapshot.originalTyped)
        (.error problem) after := .error same
  apply Holds.seq (alone_read clamping between holds sysfs mutation) error
  intro observation read shown same
  apply Alone.check_seq fun problem => error problem _ same
  intro _ _
  apply Alone.refuseIf_seq (error _ _ same)
  exact fun _ => Alone.ret_iff.mpr (.ok shown same)

/-- An apply writes an end that fits the pair, if it fits the original. -/
theorem alone_applyInternal (snapshot : Snapshot)
    (fits : ∀ side value, place.clampOf mutation.kind = some (side, value) →
      original.Fits side (uclampLevel value)) :
    Alone env (InOrder clamps original) (fun _ after => Between original (clamps after))
      (sysfs.applyInternal mutation snapshot).run world := by
  have error (problem : SysboostError) (after : W) (same : clamps after = now) :
      Between original (clamps after) := same ▸ between
  apply (keeping_reads clamping between).seq (sysfs.read_calls mutation).calls holds error
  intro current read holds
  apply Alone.refuseIf_seq (holds ▸ between)
  intro _
  apply Holds.seq (alone_validateDesired clamping between holds sysfs _ _) error
  intro _ validated desired holds
  have writes : Alone env (InOrder clamps original) (fun _ after => Between original (clamps after))
      (sysfs.writeMutation mutation.kind mutation.desired).run validated := by
    apply alone_writeMutation clamping between holds
    intro side value written sets typed
    obtain ⟨same, ordered⟩ := desired side value sets
    cases same.symm.trans typed
    exact ⟨ordered, fits side value sets⟩
  apply Alone.run_seq writes fun _ _ stays => stays
  intro _ after stays
  apply alone_reads clamping stays rfl
  exact .bind (sysfs.read_calls mutation) fun _ => .bind (.refuseIf rfl) fun _ => .pure _

/-- A restore writes an end of the original. -/
theorem alone_restoreInternal (snapshot : Snapshot) (expectedOwnership : StateFingerprint)
    (valid : original.Valid)
    (shows : ∀ side value, place.clampOf mutation.kind = some (side, value) →
      ShowsEnd original side snapshot.originalTyped) :
    Alone env (InOrder clamps original) (fun _ after => Between original (clamps after))
      (sysfs.restoreInternal mutation snapshot expectedOwnership).run world := by
  have error (problem : SysboostError) (after : W) (same : clamps after = now) :
      Between original (clamps after) := same ▸ between
  apply (keeping_reads clamping between).seq (sysfs.read_calls mutation).calls holds error
  intro current read holds
  apply Alone.refuseIf_seq (holds ▸ between)
  intro _
  apply Alone.refuseIf_seq (holds ▸ between)
  intro _
  have writes : Alone env (InOrder clamps original) (fun _ after => Between original (clamps after))
      (sysfs.writeMutation mutation.kind snapshot.originalTyped).run read := by
    apply alone_writeMutation clamping between holds
    intro side value written sets typed
    obtain ⟨taken, same, level⟩ := shows side value sets
    cases same.symm.trans typed
    rw [level]
    exact ⟨between.fits_original side, valid.fits side⟩
  apply Alone.run_seq writes fun _ _ stays => stays
  intro _ after stays
  apply alone_reads clamping stays rfl
  exact .bind (sysfs.read_calls mutation) fun _ => .bind (.refuseIf rfl) fun _ => .pure _

end Held

end Sysboost.Linux.Workload
