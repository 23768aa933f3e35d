import Sysboost.Interaction.Holding
import Sysboost.Kernel.Files

/-!
# The content of files

A kernel under which nothing but a write to a file changes what is in it.  The write
can leave anything there, a read returns what is there, and every call can fail.
-/

namespace Kernel

open ByteCodec Interaction

universe u

/-- What is in every file. -/
abbrev Contents := Path → Bytes

/-- What a call means for the files.  Nothing is found at a path that is absent. -/
def ContentLaw (absent : Path → Prop) (before : Contents) :
    (call : Call) → Answer call → Contents → Prop
  | .writeAll path _, _, after => ∀ other, other ≠ path → after other = before other
  | .readToEnd path limit, .ok bytes, after =>
      after = before ∧ bytes = limit.elim (before path) (before path).take
  | .symlinkMetadata path, .ok _, after => after = before ∧ ¬absent path
  | _, _, after => after = before

/-- The files outside a list hold what they held. -/
def SameBut (files : List Path) (before after : Contents) : Prop :=
  ∀ path, path ∉ files → after path = before path

/-- A call that writes no file outside a list. -/
def WritesIn (files : List Path) : Call → Prop
  | .writeAll path _ => path ∈ files
  | _ => True

variable {absent : Path → Prop} {before after : Contents} {call : Call} {answer : Answer call}
  {files : List Path}

theorem WritesIn.of_unmarked (unmarked : Writing.writes call = false) : WritesIn files call := by
  cases call with
  | writeAll path content => cases unmarked
  | _ => trivial

theorem SameBut.refl (files : List Path) (contents : Contents) :
    SameBut files contents contents :=
  fun _ _ => rfl

theorem sameBut_nil_iff : SameBut [] before after ↔ after = before := by
  simp [SameBut, funext_iff]

namespace ContentLaw

/-- Calls that do not write leave the files as they are. -/
theorem eq_of_reads (law : ContentLaw absent before call answer after)
    (reads : Writing.writes call = false) : after = before := by
  cases call with
  | writeAll path content => cases reads
  | readToEnd path limit =>
      cases answer with
      | error kind => exact law
      | ok bytes => exact law.1
  | symlinkMetadata path =>
      cases answer with
      | error kind => exact law
      | ok metadata => exact law.1
  | _ => exact law

/-- Calls that write in a list of files leave the others as they are. -/
theorem sameBut {held : Contents} (law : ContentLaw absent before call answer after)
    (allowed : WritesIn files call) (same : SameBut files held before) :
    SameBut files held after := by
  have reads (unchanged : after = before) : SameBut files held after := unchanged ▸ same
  cases call with
  | writeAll path content =>
      intro other outside
      rw [law other (fun equal => outside (equal ▸ allowed)), same other outside]
  | readToEnd path limit => exact reads (law.eq_of_reads rfl)
  | symlinkMetadata path => exact reads (law.eq_of_reads rfl)
  | _ => exact reads law

/-- A read that stays below its bound has read everything. -/
theorem read_all {path : Path} {limit : Nat} {bytes : Bytes}
    (law : ContentLaw absent before (.readToEnd path (some limit)) (.ok bytes) after)
    (short : bytes.length < limit) : bytes = before path := by
  rcases law with ⟨-, taken⟩
  rw [Option.elim_some] at taken
  rw [taken, List.length_take] at short
  rw [taken, List.take_of_length_le (by omega)]

end ContentLaw

/-! ## Programs that write in a list of files -/

theorem within_perform (allowed : WritesIn files call) :
    Within (WritesIn files) (fun _ => True) (Prog.perform call : Prog Answer _) :=
  ⟨allowed, fun _ => trivial⟩

section WritesOnly

variable {α β ε : Type}

/-- Every write of the program is to a file of the list. -/
def WritesOnly (files : List Path) (program : Early Answer ε α) : Prop :=
  Within (WritesIn files) (fun _ => True) program.run

namespace WritesOnly

variable {program : Early Answer ε α} {next : α → Early Answer ε β}

theorem of_reads (reads : Reads program) : WritesOnly files program :=
  Within.weaken reads fun _ => WritesIn.of_unmarked

theorem bind (first : WritesOnly files program) (later : ∀ value, WritesOnly files (next value)) :
    WritesOnly files (program >>= next) :=
  Within.run_seq first (fun _ _ => trivial) fun value _ => later value

/-- Find a path, and go on. -/
theorem after_finds {found : α → Prop} (finds : Finds found program)
    (later : ∀ value, found value → WritesOnly files (next value)) :
    WritesOnly files (program >>= next) :=
  Within.run_seq (Within.weaken finds fun _ => WritesIn.of_unmarked) (fun _ _ => trivial)
    fun value known => later value (known value rfl)

theorem attempt {δ : Type} {change : δ → ε} {made : Prog Answer (Except δ α)}
    (within : Within (WritesIn files) (fun _ => True) made) :
    WritesOnly files (Early.attempt change made) :=
  Within.attempt within fun _ _ => trivial

theorem after_reads (reads : Reads program) (later : ∀ value, WritesOnly files (next value)) :
    WritesOnly files (program >>= next) :=
  bind (of_reads reads) later

end WritesOnly

end WritesOnly

/-! ## What a program leaves -/

variable {α : Type u} {guard : Contents → Call → Prop} {held : Contents}

/-- Reading holds the content of the files. -/
theorem keeping_contents (guarded : ∀ call, guard held call) :
    Keeping (ContentLaw absent) guard id held fun call => Writing.writes call = false := by
  rintro world call rfl reads
  constructor
  · exact guarded call
  · exact fun answer after law => law.eq_of_reads reads

/-- A program that writes in a list of files leaves the others as they are. -/
theorem alone_sameBut {post : α → Prop} {program : Prog Answer α} {world : Contents}
    (within : Within (WritesIn files) post program) (same : SameBut files held world) :
    Alone (ContentLaw absent) (fun now _ => SameBut files held now)
      (fun value after => post value ∧ SameBut files held after) program world := by
  refine within.safe ?_ ?_ same
  · rintro world _ rfl same
    exact same
  · intro world call same allowed
    constructor
    · exact same
    · exact fun answer after law => law.sameBut allowed same

end Kernel
