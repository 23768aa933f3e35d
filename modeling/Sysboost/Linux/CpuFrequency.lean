import Sysboost.Interaction.Holding
import Sysboost.Linux.CpuHonesty
import Sysboost.Linux.CpuPlanning

/-!
# Frequency ranges on disk

The two ends of a range are two files.  Where the kernel stores what is written
to them, the order of the writes keeps the minimum below the maximum after each
of them, and the last one leaves the effective range.
-/

namespace Sysboost.Linux.Cpu

open Sysboost.Core Sysboost.Planner ByteCodec Interaction Kernel Results
open Storage (IoErrorKind)

/-- The two ends of a frequency range. -/
structure Range where
  min : FrequencyKHz
  max : FrequencyKHz
deriving DecidableEq

namespace Range

/-- The minimum does not exceed the maximum. -/
def Ordered (range : Range) : Prop :=
  range.min.get ≤ range.max.get

/-- A range as a typed value. -/
def typed (range : Range) : TypedValue :=
  .cpuFrequency (some range.min) (some range.max)

end Range

/-! ## Files -/

namespace CpuSysfs

/-- The directory of a policy. -/
def policyPath (sysfs : CpuSysfs) (policy : CpuPolicyId) : Path :=
  sysfs.root ++ ["devices", "system", "cpu", "cpufreq", policyName policy]

def minFile (sysfs : CpuSysfs) (policy : CpuPolicyId) : Path :=
  sysfs.policyPath policy ++ ["scaling_min_freq"]

def maxFile (sysfs : CpuSysfs) (policy : CpuPolicyId) : Path :=
  sysfs.policyPath policy ++ ["scaling_max_freq"]

def hardwareMinFile (sysfs : CpuSysfs) (policy : CpuPolicyId) : Path :=
  sysfs.policyPath policy ++ ["cpuinfo_min_freq"]

def hardwareMaxFile (sysfs : CpuSysfs) (policy : CpuPolicyId) : Path :=
  sysfs.policyPath policy ++ ["cpuinfo_max_freq"]

theorem descend_finds (finalDirectory : Bool) (current : Path) (components : List String) :
    Finds (· = current ++ components) (descend finalDirectory current components) := by
  induction components generalizing current with
  | nil =>
      apply Finds.pure
      simp
  | cons component rest ih =>
      apply Finds.after_reads (.refuseIf _ _)
      intro _
      apply Finds.after_reads (symlinkMetadata_quiet _ _).reads
      intro _
      apply Finds.after_reads (.refuseIf _ _)
      intro _
      simpa using ih (current ++ [component])

theorem checkedComponentPath_finds (sysfs : CpuSysfs) (components : List String)
    (finalDirectory : Bool) :
    Finds (· = sysfs.root ++ components)
      (sysfs.checkedComponentPath components finalDirectory) := by
  apply Finds.after_reads (symlinkMetadata_quiet _ _).reads
  intro _
  apply Finds.after_reads (.refuseIf _ _)
  intro _
  exact descend_finds _ _ _

theorem policyDir_finds (sysfs : CpuSysfs) (policy : CpuPolicyId) :
    Finds (· = sysfs.policyPath policy) (sysfs.policyDir policy) :=
  sysfs.checkedComponentPath_finds _ _

theorem policyFile_finds (sysfs : CpuSysfs) (policy : CpuPolicyId) (file : String) :
    Finds (· = sysfs.policyPath policy ++ [file]) (sysfs.policyFile policy file) := by
  apply Finds.after_reads (.refuseIf _ _)
  intro _
  apply Finds.bind (sysfs.policyDir_finds policy)
  rintro _ rfl
  apply Finds.after_reads (validateFinalFile_quiet _).reads
  intro _
  exact .pure rfl

end CpuSysfs

/-! ## Numbers -/

theorem parseFrequency_text {written : String} {value : FrequencyKHz}
    (trimmed : trim written = toString value.get) : parseFrequency (utf8 written) = .ok value := by
  have decoded : fromUtf8 (utf8 written) = some written := fromUtf8_toUtf8 written
  have parsed : parseNumber (2 ^ 64) (toString value.get) = some value.get.toNat :=
    parseNumber_toString value.get.toNat_lt
  simp only [parseFrequency, text, decoded, trimmed, bind, Except.bind, parsed,
    UInt64.ofNat_toNat]
  rw [FrequencyKHz.new, Bounded.new_get]
  rfl

/-- A frequency is read back from the text that is written for it. -/
theorem parseFrequency_toString (value : FrequencyKHz) :
    parseFrequency (utf8 (toString value.get)) = .ok value :=
  parseFrequency_text (trim_of_solid (solid_toString _))

/-- A frequency is read back from the line that the kernel shows for it. -/
theorem parseFrequency_line (value : FrequencyKHz) :
    parseFrequency (utf8 (toString value.get ++ "\n")) = .ok value :=
  parseFrequency_text (trim_line (solid_toString _))

/-- Two pieces of a joined text are the texts that were joined. -/
theorem eq_of_splitOn_pair {front back first second : Bytes}
    (split : (front ++ [0] ++ back).splitOn 0 = [first, second]) :
    first = front ∧ second = back := by
  have whole (text piece : Bytes) (single : text.splitOn 0 = [piece]) : piece = text := by
    have joined : List.intercalate [0] (text.splitOn 0) = text := List.intercalate_splitOn 0
    rwa [single, List.intercalate_singleton] at joined
  rw [List.append_assoc, List.singleton_append, List.splitOn_append_cons_self] at split
  cases fronts : front.splitOn 0 with
  | nil => exact absurd fronts (List.splitOn_ne_nil 0 front)
  | cons piece more =>
      cases backs : back.splitOn 0 with
      | nil => exact absurd backs (List.splitOn_ne_nil 0 back)
      | cons piece' more' =>
          rw [fronts, backs] at split
          cases more with
          | nil =>
              simp only [List.cons_append, List.nil_append, List.cons.injEq] at split
              obtain ⟨rfl, rfl, rfl⟩ := split
              exact ⟨whole _ _ fronts, whole _ _ backs⟩
          | cons other more => simp at split

/-- The text of a range: those of its ends, one after the other. -/
def RangeText (range : Range) (raw : Bytes) : Prop :=
  ∃ minBytes maxBytes, raw = minBytes ++ [0] ++ maxBytes ∧
    parseFrequency minBytes = .ok range.min ∧ parseFrequency maxBytes = .ok range.max

theorem RangeText.typed {policy : CpuPolicyId} {range : Range} {raw : Bytes}
    {interface : Option CpuBoostInterface} {typed : TypedValue} (text : RangeText range raw)
    (parsed : CpuSysfs.parseRaw (.frequency policy) raw interface = .ok typed) :
    typed = range.typed := by
  obtain ⟨minBytes, maxBytes, rfl, min, max⟩ := text
  simp only [CpuSysfs.parseRaw] at parsed
  split at parsed
  · rename_i split
    obtain ⟨rfl, rfl⟩ := eq_of_splitOn_pair split
    rw [min, max] at parsed
    cases parsed
    rfl
  · cases parsed

/-! ## A kernel with frequency files -/

/-- What the frequency files of a policy hold; the bounds may be absent. -/
structure PolicyFiles where
  range : Range
  hardwareMin : Option FrequencyKHz
  hardwareMax : Option FrequencyKHz

namespace PolicyFiles

/-- The frequency in a file. -/
def held (files : PolicyFiles) (sysfs : CpuSysfs) (policy : CpuPolicyId) (path : Path) :
    Option FrequencyKHz :=
  if path = sysfs.minFile policy then some files.range.min
  else if path = sysfs.maxFile policy then some files.range.max
  else if path = sysfs.hardwareMinFile policy then files.hardwareMin
  else if path = sysfs.hardwareMaxFile policy then files.hardwareMax
  else none

/-- The files after a frequency has been stored in one of them. -/
def store (files : PolicyFiles) (sysfs : CpuSysfs) (policy : CpuPolicyId) (path : Path)
    (value : FrequencyKHz) : PolicyFiles :=
  if path = sysfs.minFile policy then { files with range := ⟨value, files.range.max⟩ }
  else if path = sysfs.maxFile policy then { files with range := ⟨files.range.min, value⟩ }
  else files

section Held

variable (files : PolicyFiles) (sysfs : CpuSysfs) (policy : CpuPolicyId)

@[simp]
theorem held_minFile : files.held sysfs policy (sysfs.minFile policy) = some files.range.min :=
  if_pos rfl

@[simp]
theorem held_maxFile : files.held sysfs policy (sysfs.maxFile policy) = some files.range.max := by
  simp [held, CpuSysfs.minFile, CpuSysfs.maxFile]

@[simp]
theorem held_hardwareMinFile :
    files.held sysfs policy (sysfs.hardwareMinFile policy) = files.hardwareMin := by
  simp [held, CpuSysfs.minFile, CpuSysfs.maxFile, CpuSysfs.hardwareMinFile]

@[simp]
theorem held_hardwareMaxFile :
    files.held sysfs policy (sysfs.hardwareMaxFile policy) = files.hardwareMax := by
  simp [held, CpuSysfs.minFile, CpuSysfs.maxFile, CpuSysfs.hardwareMinFile,
    CpuSysfs.hardwareMaxFile]

@[simp]
theorem store_minFile (value : FrequencyKHz) :
    (files.store sysfs policy (sysfs.minFile policy) value).range = ⟨value, files.range.max⟩ := by
  simp [store]

@[simp]
theorem store_maxFile (value : FrequencyKHz) :
    (files.store sysfs policy (sysfs.maxFile policy) value).range = ⟨files.range.min, value⟩ := by
  simp [store, CpuSysfs.minFile, CpuSysfs.maxFile]

end Held

def metadata (fileType : Storage.FileType) : Metadata :=
  ⟨fileType, 1, 1, false⟩

/-- A kernel with these files and directories around them. -/
def kernel (sysfs : CpuSysfs) (policy : CpuPolicyId) (files : PolicyFiles) :
    (call : Kernel.Call) → Kernel.Answer call × PolicyFiles
  | .symlinkMetadata path =>
      if (files.held sysfs policy path).isSome then (.ok (metadata .file), files)
      else if path = sysfs.hardwareMinFile policy ∨ path = sysfs.hardwareMaxFile policy then
        (.error .notFound, files)
      else (.ok (metadata .directory), files)
  | .canonicalize path => (.ok path, files)
  | .openRead _ => (.ok (), files)
  | .openWrite _ => (.ok (), files)
  | .fileMetadata _ => (.ok (metadata .file), files)
  | .readToEnd path _ =>
      match files.held sysfs policy path with
      | some value => (.ok (utf8 (toString value.get ++ "\n")), files)
      | none => (.error .other, files)
  | .writeAll path content =>
      match parseFrequency content with
      | .ok value => (.ok (), files.store sysfs policy path value)
      | .error _ => (.error .other, files)
  | .readDirectory _ => (.error .other, files)
  | .createDirectory _ => (.error .other, files)
  | .removeDirectory _ => (.error .other, files)
  | .getPriority _ => (.error .other, files)
  | .setPriority _ _ => (.error .other, files)

end PolicyFiles

/-! ## Writes -/

section Writes

variable {W : Type} {env : Environment Kernel.Answer W} {range : W → Range} {sysfs : CpuSysfs}
  {policy : CpuPolicyId}

/-- The kernel shows a range in two files and stores in each what is written to
it; a write that fails has no effect, and nothing else changes the range. -/
structure Stores (env : Environment Kernel.Answer W) (range : W → Range) (sysfs : CpuSysfs)
    (policy : CpuPolicyId) : Prop where
  showsMin : ∀ {world after : W} {limit : Option Nat} {bytes : Bytes},
    env world (.readToEnd (sysfs.minFile policy) limit) (.ok bytes) after →
      parseFrequency bytes = .ok (range world).min
  showsMax : ∀ {world after : W} {limit : Option Nat} {bytes : Bytes},
    env world (.readToEnd (sysfs.maxFile policy) limit) (.ok bytes) after →
      parseFrequency bytes = .ok (range world).max
  stays : ∀ {world after : W} {call : Kernel.Call} {answer : Kernel.Answer call},
    Writing.writes call = false → env world call answer after → range after = range world
  opens : ∀ {world after : W} {path : Path} {answer : Kernel.Answer (.openWrite path)},
    env world (.openWrite path) answer after → range after = range world
  fails : ∀ {world after : W} {path : Path} {content : Bytes} {kind : IoErrorKind},
    env world (.writeAll path content) (.error kind) after → range after = range world
  storesMin : ∀ {world after : W} {content : Bytes},
    env world (.writeAll (sysfs.minFile policy) content) (.ok ()) after →
      ∃ value, parseFrequency content = .ok value ∧ range after = ⟨value, (range world).max⟩
  storesMax : ∀ {world after : W} {content : Bytes},
    env world (.writeAll (sysfs.maxFile policy) content) (.ok ()) after →
      ∃ value, parseFrequency content = .ok value ∧ range after = ⟨(range world).min, value⟩

/-- The kernel with frequency files stores what is written to them. -/
theorem PolicyFiles.stores (sysfs : CpuSysfs) (policy : CpuPolicyId) :
    Stores (fun files call answer after => PolicyFiles.kernel sysfs policy files call =
      (answer, after)) PolicyFiles.range sysfs policy where
  showsMin := by
    intro files after limit bytes law
    simp only [PolicyFiles.kernel, PolicyFiles.held_minFile, Prod.mk.injEq] at law
    rw [← Except.ok.inj law.1]
    exact parseFrequency_line _
  showsMax := by
    intro files after limit bytes law
    simp only [PolicyFiles.kernel, PolicyFiles.held_maxFile, Prod.mk.injEq] at law
    rw [← Except.ok.inj law.1]
    exact parseFrequency_line _
  stays := by
    intro files after call answer reads law
    cases call with
    | symlinkMetadata path =>
        simp only [PolicyFiles.kernel] at law
        split_ifs at law
        all_goals
          cases law
          rfl
    | readToEnd path limit =>
        simp only [PolicyFiles.kernel] at law
        split at law
        · cases law
          rfl
        · cases law
          rfl
    | openWrite path => cases reads
    | writeAll path content => cases reads
    | createDirectory path => cases reads
    | removeDirectory path => cases reads
    | setPriority pid nice => cases reads
    | _ =>
        cases law
        rfl
  opens := by
    rintro files after path answer ⟨⟩
    rfl
  fails := by
    intro files after path content kind law
    simp only [PolicyFiles.kernel] at law
    split at law
    · cases law
    · cases law
      rfl
  storesMin := by
    intro files after content law
    simp only [PolicyFiles.kernel] at law
    split at law
    · rename_i value parsed
      cases law
      exact ⟨value, parsed, PolicyFiles.store_minFile ..⟩
    · cases law
  storesMax := by
    intro files after content law
    simp only [PolicyFiles.kernel] at law
    split at law
    · rename_i value parsed
      cases law
      exact ⟨value, parsed, PolicyFiles.store_maxFile ..⟩
    · cases law

/-- Every call finds the range on disk in order. -/
abbrev InOrder (range : W → Range) (world : W) (_ : Kernel.Call) : Prop :=
  (range world).Ordered

/-- What is returned is right, and the range is as it was. -/
def Keeps (range : W → Range) (held : Range) {α : Type} (right : α → Prop) :
    Except SysboostError α → W → Prop :=
  fun result after => (∀ value, result = .ok value → right value) ∧ range after = held

theorem keeps_error {held : Range} {α : Type} {right : α → Prop} (error : SysboostError)
    (after : W) (same : range after = held) : Keeps range held right (.error error) after :=
  Holds.error same

theorem keeps_ok {held : Range} {α : Type} {right : α → Prop} {value : α} {after : W}
    (holds : right value) (same : range after = held) : Keeps range held right (.ok value) after :=
  Holds.ok holds same

/-- The range has been written, or the write has failed without effect. -/
def Writes (range : W → Range) (held wrote : Range) : Except SysboostError Unit → W → Prop
  | .ok _, after => range after = wrote
  | .error _, after => range after = held

section Held

variable {held : Range} {world : W} (stores : Stores env range sysfs policy)
  (ordered : held.Ordered) (holds : range world = held)

include stores ordered holds

omit holds in
/-- Calls that only read find the range in order and leave it as it is. -/
theorem keeping_reads :
    Keeping env (InOrder range) range held fun call => Writing.writes call = false := by
  intro before request same reads
  constructor
  · show (range before).Ordered
    rwa [same]
  · intro answer after law
    exact (stores.stays reads law).trans same

/-- Go on after reading, which leaves the range as it is. -/
theorem after_finds {α β : Type} {found : α → Prop} {program : Io α} {next : α → Io β}
    {post : Except SysboostError β → W → Prop} (finds : Finds found program)
    (early : ∀ error after, range after = held → post (.error error) after)
    (later : ∀ value after, found value → range after = held →
      Alone env (InOrder range) post (next value).run after) :
    Alone env (InOrder range) post (program >>= next).run world :=
  Holds.seq ((keeping_reads stores ordered).holds finds holds) early later

theorem after_reads {α β : Type} {program : Io α} {next : α → Io β}
    {post : Except SysboostError β → W → Prop} (reads : Reads program)
    (early : ∀ error after, range after = held → post (.error error) after)
    (later : ∀ value after, range after = held →
      Alone env (InOrder range) post (next value).run after) :
    Alone env (InOrder range) post (program >>= next).run world :=
  after_finds stores ordered holds (.of_reads reads) early fun value after _ => later value after

/-- Reading a file shows what every answer to the read shows. -/
theorem alone_readFile {path : Path} {shows : Bytes → Prop}
    (answers : ∀ {before after : W} {limit : Option Nat} {bytes : Bytes},
      range before = held → env before (.readToEnd path limit) (.ok bytes) after → shows bytes) :
    Alone env (InOrder range) (Keeps range held shows) (CpuSysfs.readFile path).run world := by
  apply after_reads stores ordered holds (.attempt (onlyReads_perform rfl)) keeps_error
  intro _ opened holds
  apply after_reads stores ordered holds (.attempt (onlyReads_perform rfl)) keeps_error
  intro _ inspected holds
  apply after_reads stores ordered holds (.refuseIf _ _) keeps_error
  intro _ regular holds
  have read : Alone env (InOrder range) (Keeps range held shows)
      (Early.attempt (fun _ => targetError "CPU kernel interface cannot be read")
        (Prog.perform (Call.readToEnd path (some (maxCpuReadBytes + 1))))).run regular := by
    obtain ⟨inOrder, kept⟩ := keeping_reads stores ordered regular
      (Call.readToEnd path (some (maxCpuReadBytes + 1))) holds rfl
    apply Alone.perform_bind_iff.mpr
    constructor
    · exact inOrder
    · intro answer after law
      have same : range after = held := kept answer after law
      cases answer with
      | error kind => exact Alone.ret_iff.mpr (keeps_error _ _ same)
      | ok bytes =>
          have shown : Keeps range held shows (.ok bytes) after := keeps_ok (answers holds law) same
          exact Alone.ret_iff.mpr shown
  apply Holds.seq read keeps_error
  intro bytes after shown same
  apply after_reads stores ordered same (.refuseIf _ _) keeps_error
  intro _ _ same
  exact Alone.ret_iff.mpr (keeps_ok shown same)

/-- Reading both files of a range returns its text. -/
theorem alone_rawNode :
    Alone env (InOrder range) (Keeps range held fun (raw, _) => RangeText held raw)
      (sysfs.rawNode (.frequency policy)).run world := by
  apply after_reads stores ordered holds (sysfs.nodePath_quiet _).reads keeps_error
  rintro ⟨directory, interface⟩ found holds
  apply after_finds stores ordered holds (sysfs.policyFile_finds policy _) keeps_error
  rintro _ named rfl holds
  have readMin : Alone env (InOrder range)
      (Keeps range held fun bytes => parseFrequency bytes = .ok held.min)
      (CpuSysfs.readFile (sysfs.minFile policy)).run named :=
    alone_readFile stores ordered holds fun same law => same ▸ stores.showsMin law
  apply Holds.seq readMin keeps_error
  intro minBytes between knownMin holds
  apply after_finds stores ordered holds (sysfs.policyFile_finds policy _) keeps_error
  rintro _ named rfl holds
  have readMax : Alone env (InOrder range)
      (Keeps range held fun bytes => parseFrequency bytes = .ok held.max)
      (CpuSysfs.readFile (sysfs.maxFile policy)).run named :=
    alone_readFile stores ordered holds fun same law => same ▸ stores.showsMax law
  apply Holds.seq readMax keeps_error
  intro maxBytes read knownMax holds
  apply after_reads stores ordered holds (sysfs.policyDir_finds policy).reads keeps_error
  intro _ found holds
  apply after_reads stores ordered holds (CpuSysfs.directoryIdentity_quiet _).reads keeps_error
  intro identity inspected holds
  exact Alone.ret_iff.mpr (keeps_ok ⟨minBytes, maxBytes, rfl, knownMin, knownMax⟩ holds)

/-- The backend reads the range that is on disk. -/
theorem alone_currentRange :
    Alone env (InOrder range) (Keeps range held (· = (held.min, held.max)))
      (sysfs.currentRange policy).run world := by
  have typed : Alone env (InOrder range) (Keeps range held fun state => state.typed = held.typed)
      (sysfs.read (.frequency policy)).run world := by
    apply Holds.seq (alone_rawNode stores ordered holds) keeps_error
    rintro ⟨raw, identity, interface⟩ read text holds
    apply after_finds stores ordered holds (.check fun _ parsed => text.typed parsed) keeps_error
    intro typed _ same holds
    apply after_reads stores ordered holds (.check _) keeps_error
    intro _ _ holds
    exact Alone.ret_iff.mpr (keeps_ok same holds)
  apply Holds.seq typed keeps_error
  intro state read shown holds
  simp only [shown, Range.typed]
  exact Alone.ret_iff.mpr (keeps_ok rfl holds)

/-- Writing a file has the effect of every answer to the write. -/
theorem alone_writeFile {path : Path} {text : String} {wrote : Range}
    (stored : ∀ {before after : W}, range before = held →
      env before (.writeAll path (utf8 text)) (.ok ()) after → range after = wrote) :
    Alone env (InOrder range) (Writes range held wrote) (CpuSysfs.writeFile path text).run world := by
  apply after_reads stores ordered holds (.refuseIf _ _) fun _ _ same => same
  intro _ _ holds
  apply after_reads stores ordered holds (CpuSysfs.validateFinalFile_quiet _).reads fun _ _ same => same
  intro _ regular holds
  have opened : Alone env (InOrder range) (fun _ after => range after = held)
      (Early.attempt (fun _ => targetError "CPU kernel interface cannot be opened for writing")
        (Prog.perform (Call.openWrite path))).run regular := by
    apply Alone.perform_bind_iff.mpr
    constructor
    · show (range regular).Ordered
      rwa [holds]
    · intro answer after law
      exact Alone.ret_iff.mpr ((stores.opens law).trans holds)
  apply Alone.run_seq opened
  · exact fun _ _ same => same
  intro _ writable holds
  apply Alone.perform_bind_iff.mpr
  constructor
  · show (range writable).Ordered
    rwa [holds]
  · intro answer after law
    cases answer with
    | error kind =>
        have kept : range after = held := (stores.fails law).trans holds
        exact Alone.ret_iff.mpr kept
    | ok done =>
        have changed : range after = wrote := stored holds law
        exact Alone.ret_iff.mpr changed

/-- Writing one end of a range replaces it, or leaves it when it is preserved. -/
theorem alone_writeEnd {file : String} {desired : Option FrequencyKHz} {current : FrequencyKHz}
    (wrote : FrequencyKHz → Range) (kept : wrote current = held)
    (stored : ∀ {value : FrequencyKHz} {before after : W}, range before = held →
      env before (.writeAll (sysfs.policyPath policy ++ [file]) (utf8 (toString value.get)))
        (.ok ()) after → range after = wrote value) :
    Alone env (InOrder range) (Writes range held (wrote (desired.getD current)))
      (sysfs.writeEnd policy file desired current).run world := by
  cases desired with
  | none => exact Alone.ret_iff.mpr (holds.trans kept.symm)
  | some value =>
      simp only [CpuSysfs.writeEnd]
      by_cases same : value = current
      · rw [if_neg (not_not.mpr same)]
        exact Alone.ret_iff.mpr (holds.trans (same ▸ kept.symm))
      · rw [if_pos same]
        apply after_finds stores ordered holds (sysfs.policyFile_finds policy file)
          fun _ _ same => same
        rintro _ named rfl holds
        exact alone_writeFile stores ordered holds stored

theorem alone_writeMin {desired : Option FrequencyKHz} :
    Alone env (InOrder range) (Writes range held ⟨desired.getD held.min, held.max⟩)
      (sysfs.writeEnd policy "scaling_min_freq" desired held.min).run world := by
  apply alone_writeEnd stores ordered holds (fun value => ⟨value, held.max⟩) rfl
  intro value before after same law
  obtain ⟨parsed, read, changed⟩ := stores.storesMin law
  rw [parseFrequency_toString] at read
  rw [changed, same, Except.ok.inj read]

theorem alone_writeMax {desired : Option FrequencyKHz} :
    Alone env (InOrder range) (Writes range held ⟨held.min, desired.getD held.max⟩)
      (sysfs.writeEnd policy "scaling_max_freq" desired held.max).run world := by
  apply alone_writeEnd stores ordered holds (fun value => ⟨held.min, value⟩) rfl
  intro value before after same law
  obtain ⟨parsed, read, changed⟩ := stores.storesMax law
  rw [parseFrequency_toString] at read
  rw [changed, same, Except.ok.inj read]

end Held

/-- The range is in order, and the wanted one once the writes are complete. -/
def Settles (range : W → Range) (wanted : Range) : Except SysboostError Unit → W → Prop :=
  fun result after => (range after).Ordered ∧ (result = .ok () → range after = wanted)

theorem settles_error {held wanted : Range} (ordered : held.Ordered) (error : SysboostError)
    (after : W) (same : range after = held) : Settles range wanted (.error error) after :=
  ⟨same ▸ ordered, nofun⟩

theorem Writes.settles {held wanted : Range} {result : Except SysboostError Unit} {after : W}
    (written : Writes range held wanted result after) (ordered : held.Ordered)
    (valid : wanted.Ordered) : Settles range wanted result after := by
  cases result with
  | error error => exact settles_error ordered error after written
  | ok done =>
      constructor
      · rwa [show range after = wanted from written]
      · exact fun _ => written

/-- Both writes in turn, over a range between the old one and the new. -/
theorem alone_writeBoth {held middle wanted : Range} {world : W} {first second : Io Unit}
    (middleOrdered : middle.Ordered) (wantedOrdered : wanted.Ordered) (heldOrdered : held.Ordered)
    (firstWrites : Alone env (InOrder range) (Writes range held middle) first.run world)
    (secondWrites : ∀ after, range after = middle →
      Alone env (InOrder range) (Writes range middle wanted) second.run after) :
    Alone env (InOrder range) (Settles range wanted) (first >>= fun _ => second).run world := by
  apply Alone.run_seq firstWrites
  · exact settles_error heldOrdered
  · intro _ after known
    exact (secondWrites after known).mono fun _ _ written =>
      written.settles middleOrdered wantedOrdered

/-- A range that is in order stays in order after each write towards another
one in order, and is that one after the last. -/
theorem writeFrequency_inOrder (stores : Stores env range sysfs policy)
    {mutation : PlannedMutation} {cpuPolicy : CpuPolicyId}
    {kindMin kindMax minKhz maxKhz : Option FrequencyKHz} {wanted : Range} {world : W}
    (kind : mutation.kind = .cpuFrequency cpuPolicy kindMin kindMax)
    (desired : mutation.desired = .cpuFrequency minKhz maxKhz)
    (ordered : (range world).Ordered)
    (effective : CpuBackend.effectiveDesired mutation (range world).typed = .ok wanted.typed)
    (valid : wanted.Ordered) :
    Alone env (InOrder range)
      (fun result after => (range after).Ordered ∧ (result = .ok () → range after = wanted))
      (sysfs.writeFrequency policy mutation.desired).run world := by
  cases wanted with
  | mk wantedMin wantedMax =>
  rw [Range.typed, CpuBackend.effectiveDesired_frequency kind desired] at effective
  obtain ⟨rfl, rfl⟩ : minKhz.getD (range world).min = wantedMin ∧
      maxKhz.getD (range world).max = wantedMax := by
    simpa [Range.typed] using effective
  have early : ∀ error after, range after = range world → Settles range
      ⟨minKhz.getD (range world).min, maxKhz.getD (range world).max⟩ (.error error) after :=
    settles_error ordered
  rw [desired]
  apply Holds.seq (alone_currentRange stores ordered rfl) early
  rintro ⟨currentMin, currentMax⟩ read shown holds
  obtain ⟨rfl, rfl⟩ := Prod.mk.inj shown
  apply after_reads stores ordered holds (.refuseIf _ _) early
  intro _ _ holds
  apply after_reads stores ordered holds (.refuseIf _ _) early
  intro _ checked holds
  by_cases lowered : (maxKhz.getD (range world).max).get < (range world).min.get
  · have middle : Range.Ordered ⟨minKhz.getD (range world).min, (range world).max⟩ :=
      UInt64.le_trans valid (UInt64.le_trans (UInt64.le_of_lt lowered) ordered)
    rw [if_pos lowered]
    apply alone_writeBoth middle valid ordered (alone_writeMin stores ordered holds)
    exact fun after same => alone_writeMax stores middle same
  · have middle : Range.Ordered ⟨(range world).min, maxKhz.getD (range world).max⟩ :=
      UInt64.not_lt.mp lowered
    rw [if_neg lowered]
    apply alone_writeBoth middle valid ordered (alone_writeMax stores ordered holds)
    exact fun after same => alone_writeMin stores middle same

end Writes

theorem writeFrequency_inOrder_lowered :
    let files : PolicyFiles := ⟨⟨⟨1000000, rfl⟩, ⟨2000000, rfl⟩⟩, none, none⟩
    let wanted : Range := ⟨⟨400000, rfl⟩, ⟨800000, rfl⟩⟩
    Alone (fun files call answer after => PolicyFiles.kernel ⟨["sys"]⟩ ⟨0⟩ files call =
        (answer, after)) (InOrder PolicyFiles.range)
      (fun result after => after.range.Ordered ∧ (result = .ok () → after.range = wanted))
      (CpuSysfs.writeFrequency ⟨["sys"]⟩ ⟨0⟩
        (Fixture.mutation (some ⟨400000, rfl⟩) (some ⟨800000, rfl⟩)).desired).run files := by
  intro files wanted
  have ordered : files.range.Ordered := by
    show (1000000 : UInt64) ≤ 2000000
    decide
  have valid : wanted.Ordered := by
    show (400000 : UInt64) ≤ 800000
    decide
  exact writeFrequency_inOrder (PolicyFiles.stores ⟨["sys"]⟩ ⟨0⟩) rfl rfl ordered rfl valid

end Sysboost.Linux.Cpu
