import Sysboost.Interaction.Marks

/-!
# Programs that only read

Where some calls write, a program reads when none of its calls does.  Reading is
kept by every way of putting programs together, and the traces of a reading
program leave everything untouched.
-/

namespace Interaction

universe u v w

/-- The calls that can change what they are made on. -/
class Writing (Call : Type u) where
  writes : Call → Bool

open Writing

variable {Call : Type u} [Writing Call] {Answer : Call → Type v} {α β ε δ : Type w}

/-- No call of the program writes, whatever the answers are. -/
def OnlyReads (program : Prog Answer α) : Prop :=
  Within (fun call => writes call = false) (fun _ => True) program

/-- No call of a program that may return early writes. -/
def Reads (program : Early Answer ε α) : Prop :=
  OnlyReads program.run

/-- No call of a trace writes. -/
abbrev Untouched (trace : List (Exchange Answer)) : Prop :=
  Unmarked writes trace

theorem onlyReads_perform {Answer : Call → Type w} {request : Call}
    (reads : writes request = false) : OnlyReads (Prog.perform request : Prog Answer _) :=
  ⟨reads, fun _ => trivial⟩

theorem OnlyReads.untouched {program : Prog Answer α} (reads : OnlyReads program)
    {trace : List (Exchange Answer)} {result : α} (run : Traces program trace result) :
    Untouched trace :=
  (Within.every reads trace result run).1

namespace Reads

theorem bind {program : Early Answer ε α} {next : α → Early Answer ε β} (first : Reads program)
    (later : ∀ value, Reads (next value)) : Reads (program >>= next) :=
  Within.run_seq first (fun _ _ => trivial) fun value _ => later value

theorem pure (value : α) : Reads (Pure.pure value : Early Answer ε α) :=
  trivial

theorem throw (error : ε) : Reads (MonadExcept.throw error : Early Answer ε α) :=
  trivial

theorem check (result : Except ε α) : Reads (Early.check result : Early Answer ε α) :=
  trivial

theorem refuseIf (condition : Bool) (error : ε) :
    Reads (Early.refuseIf condition error : Early Answer ε PUnit) :=
  trivial

theorem attempt {change : δ → ε} {program : Prog Answer (Except δ α)}
    (reads : OnlyReads program) : Reads (Early.attempt change program) :=
  Within.attempt reads fun _ _ => trivial

theorem lift_bind {program : Prog Answer α} {next : α → Early Answer ε β}
    (first : OnlyReads program) (later : ∀ value, Reads (next value)) :
    Reads (ExceptT.lift program >>= next) :=
  Within.lift_seq first fun value _ => later value

theorem inspect {program : Early Answer δ α} {next : Except δ α → Early Answer ε β}
    (first : Reads program) (later : ∀ result, Reads (next result)) :
    Reads (Early.inspect program next) :=
  Within.inspect first fun result _ => later result

/-- Its traces leave everything untouched. -/
theorem untouched {program : Early Answer ε α} (reads : Reads program)
    {trace : List (Exchange Answer)} {result : Except ε α}
    (run : Traces program.run trace result) : Untouched trace :=
  OnlyReads.untouched reads run

end Reads

/-! ## Reading with a result -/

/-- The program only reads, and what it returns satisfies `post`. -/
def Finds (post : α → Prop) (program : Early Answer ε α) : Prop :=
  Within (fun call => writes call = false) (fun result => ∀ value, result = .ok value → post value)
    program.run

namespace Finds

variable {post : α → Prop}

theorem pure {value : α} (holds : post value) :
    Finds post (Pure.pure value : Early Answer ε α) := by
  rintro _ ⟨⟩
  exact holds

theorem check {result : Except ε α} (holds : ∀ value, result = .ok value → post value) :
    Finds post (Early.check result : Early Answer ε α) :=
  holds

theorem bind {program : Early Answer ε β} {next : β → Early Answer ε α} {middle : β → Prop}
    (first : Finds middle program) (later : ∀ value, middle value → Finds post (next value)) :
    Finds post (program >>= next) :=
  Within.run_seq first (fun _ _ => nofun) fun value known => later value (known value rfl)

theorem of_reads {program : Early Answer ε α} (reads : Reads program) :
    Finds (fun _ => True) program :=
  Within.mono reads fun _ _ _ _ => trivial

theorem reads {program : Early Answer ε α} (finds : Finds post program) : Reads program :=
  Within.mono finds fun _ _ => trivial

/-- Go on after steps whose results do not matter. -/
theorem after_reads {program : Early Answer ε β} {next : β → Early Answer ε α}
    (first : Reads program) (later : ∀ value, Finds post (next value)) :
    Finds post (program >>= next) :=
  bind (of_reads first) fun value _ => later value

end Finds

/-! ## Writing at the end -/

/-- From the first call that writes on, no call is marked. -/
def WritesLast (marked : Call → Bool) (program : Early Answer ε α) : Prop :=
  Every (fun trace _ => ∃ front back, trace = front ++ back ∧ Untouched front ∧
    Unmarked marked back) program.run

namespace WritesLast

variable {marked : Call → Bool}

theorem of_reads {program : Early Answer ε α} (reads : Reads program) :
    WritesLast marked program :=
  fun trace _ run => ⟨trace, [], by simp, reads.untouched run, unmarked_nil⟩

theorem of_unmarked {program : Early Answer ε α}
    (calls : Within (fun call => marked call = false) (fun _ => True) program.run) :
    WritesLast marked program :=
  fun trace _ run => ⟨[], trace, rfl, unmarked_nil, (Within.every calls _ _ run).1⟩

theorem after_reads {program : Early Answer ε α} {next : α → Early Answer ε β}
    (reads : Reads program) (later : ∀ value, WritesLast marked (next value)) :
    WritesLast marked (program >>= next) := by
  refine Every.run_seq (fun _ _ run => reads.untouched run) ?_ ?_
  · intro trace error untouched
    exact ⟨trace, [], by simp, untouched, unmarked_nil⟩
  · intro trace value untouched
    refine (later value).mono ?_
    rintro _ _ ⟨front, back, rfl, front_untouched, back_unmarked⟩
    refine ⟨trace ++ front, back, by simp, ?_, back_unmarked⟩
    exact unmarked_append.mpr ⟨untouched, front_untouched⟩

theorem before_unmarked {program : Early Answer ε α} {next : α → Early Answer ε β}
    (first : WritesLast marked program)
    (later : ∀ value, Within (fun call => marked call = false) (fun _ => True) (next value).run) :
    WritesLast marked (program >>= next) := by
  refine Every.run_seq first (fun _ _ known => known) ?_
  rintro _ value ⟨front, back, rfl, untouched, unmarked⟩
  refine (Within.every (later value)).mono fun rest _ also => ?_
  exact ⟨front, back ++ rest, by simp, untouched, unmarked_append.mpr ⟨unmarked, also.1⟩⟩

/-- What is read to the end of a trace, behind a write, lies behind all the
marked calls of the program that has written. -/
theorem behind {program : Early Answer ε α} (last : WritesLast marked program)
    {trace rest readback : List (Exchange Answer)} {result : Except ε α}
    (run : Traces program.run trace result) (written : ¬Untouched trace)
    (untouched : Untouched readback) (suffix : readback <:+ trace ++ rest) :
    ∃ tail, Unmarked marked tail ∧ readback <:+ tail ++ rest := by
  obtain ⟨front, back, rfl, front_untouched, unmarked⟩ := last trace result run
  obtain ⟨exchange, member, writing⟩ : ∃ exchange ∈ back, writes exchange.request = true := by
    refine Classical.byContradiction fun none => ?_
    refine written (unmarked_append.mpr ⟨front_untouched, fun exchange member => ?_⟩)
    exact Bool.eq_false_iff.mpr fun writing => none ⟨exchange, member, writing⟩
  obtain ⟨earlier, later, rfl⟩ := List.append_of_mem member
  refine ⟨later, (unmarked_cons.mp (unmarked_append.mp unmarked).2).2, ?_⟩
  have inside : readback <:+ (front ++ earlier) ++ exchange :: (later ++ rest) := by
    simpa using suffix
  exact suffix_of_unmarked writing untouched inside

end WritesLast

end Interaction
