import Sysboost.Interaction.Effects

/-!
# Programs that return early

A program that returns a result stops at its first error.  The steps of such a
program are calls whose errors are replaced, checks that make no call, and
refusals; each has a rule for the calls it makes.
-/

namespace Interaction

universe u v w x

variable {Call : Type u} {Answer : Call → Type v} {α β ε δ : Type w}

/-- A program whose `bind` returns early with an error. -/
abbrev Early (Answer : Call → Type v) (ε α : Type w) := ExceptT ε (Prog Answer) α

namespace Early

/-- A call that may fail; its error is replaced. -/
def attempt (change : δ → ε) (program : Prog Answer (Except δ α)) : Early Answer ε α :=
  ExceptT.mk (program >>= fun result => Prog.ret (result.mapError change))

/-- A step that makes no call; its error is returned. -/
def check (result : Except ε α) : Early Answer ε α :=
  ExceptT.mk (Prog.ret result)

/-- Return early when a condition holds. -/
def refuseIf (condition : Bool) (error : ε) : Early Answer ε PUnit :=
  check (if condition then .error error else .ok ⟨⟩)

/-- Go on with the result of a program, whatever it is. -/
def inspect (program : Early Answer δ α) (next : Except δ α → Early Answer ε β) :
    Early Answer ε β :=
  ExceptT.mk (program.run >>= fun result => (next result).run)

@[simp]
theorem check_ok_bind (value : α) (next : α → Early Answer ε β) :
    (check (.ok value) >>= next) = next value :=
  rfl

section Exec

variable {W : Type x} {answer : W → (request : Call) → Answer request × W} {change : δ → ε}
  {program : Prog Answer (Except δ α)} {world after : W}

/-- A call that is known to succeed. -/
theorem exec_attempt_ok {value : α} (known : program.exec answer world = (.ok value, after)) :
    (attempt change program).run.exec answer world = (.ok value, after) := by
  change (program >>= fun result => Prog.ret (result.mapError change)).exec answer world = _
  rw [Prog.exec_bind, known]
  rfl

/-- A call that is known to fail. -/
theorem exec_attempt_error {error : δ}
    (known : program.exec answer world = (.error error, after)) :
    (attempt change program).run.exec answer world = (.error (change error), after) := by
  change (program >>= fun result => Prog.ret (result.mapError change)).exec answer world = _
  rw [Prog.exec_bind, known]
  rfl

end Exec

end Early

/-! ## Calls -/

namespace Within

variable {allowed : Call → Prop} {post : Except ε α → Prop}

theorem attempt {change : δ → ε} {program : Prog Answer (Except δ α)} {m : Except δ α → Prop}
    (first : Within allowed m program)
    (keeps : ∀ result, m result → post (result.mapError change)) :
    Within allowed post (Early.attempt change program).run :=
  seq first keeps

theorem check {result : Except ε α} (holds : post result) :
    Within allowed post (Early.check result : Early Answer ε α).run :=
  holds

theorem inspect {program : Early Answer δ β} {next : Except δ β → Early Answer ε α}
    {m : Except δ β → Prop} (first : Within allowed m program.run)
    (later : ∀ result, m result → Within allowed post (next result).run) :
    Within allowed post (Early.inspect program next).run :=
  seq first later

end Within

/-! ## Traces -/

namespace Every

/-- A trace of a program is one of its traces. -/
theorem traces (program : Prog Answer α) : Every (Traces program) program :=
  fun _ _ run => run

theorem both {program : Prog Answer α} {first second : List (Exchange Answer) → α → Prop}
    (holds : Every first program) (also : Every second program) :
    Every (fun trace value => first trace value ∧ second trace value) program :=
  fun trace value run => ⟨holds trace value run, also trace value run⟩

theorem check {result : Except ε α} {post : List (Exchange Answer) → Except ε α → Prop}
    (holds : post [] result) : Every post (Early.check result : Early Answer ε α).run :=
  ret_iff.mpr holds

/-- A refusal tells what it has checked. -/
theorem refuseIf {condition : Bool} {error : ε} :
    Every (fun trace result => trace = [] ∧ (result = .ok ⟨⟩ ↔ condition = false))
      (Early.refuseIf condition error : Early Answer ε PUnit).run := by
  cases condition with
  | false => exact check ⟨rfl, by simp⟩
  | true => exact check ⟨rfl, by simp⟩

theorem inspect {program : Early Answer δ β} {next : Except δ β → Early Answer ε α}
    {middle : List (Exchange Answer) → Except δ β → Prop}
    {post : List (Exchange Answer) → Except ε α → Prop} (first : Every middle program.run)
    (later : ∀ trace result, middle trace result →
      Every (fun more value => post (trace ++ more) value) (next result).run) :
    Every post (Early.inspect program next).run :=
  seq first later

end Every

end Interaction
