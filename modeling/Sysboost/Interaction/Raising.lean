import Sysboost.Interaction.Early
import Sysboost.Results.Errors

/-!
# What a program calls and raises

One judgement bounds the calls of a program and the errors it returns early
with, whatever the answers are.
-/

namespace Interaction

open Results

universe u v w

variable {Call : Type u} {Answer : Call → Type v} {α β ε δ : Type w}

/-- Every call is allowed and every error satisfies `p`. -/
def Raising (allowed : Call → Prop) (p : ε → Prop) (program : Early Answer ε α) : Prop :=
  Within allowed (Raises p) program.run

namespace Raising

variable {allowed : Call → Prop} {p : ε → Prop}

theorem bind {program : Early Answer ε α} {next : α → Early Answer ε β}
    (first : Raising allowed p program) (later : ∀ value, Raising allowed p (next value)) :
    Raising allowed p (program >>= next) := by
  refine Within.run_seq first ?_ fun value _ => later value
  intro error raises
  exact raises_error (raises error rfl)

theorem pure (value : α) : Raising allowed p (Pure.pure value : Early Answer ε α) :=
  raises_ok value

theorem throw {error : ε} (holds : p error) :
    Raising allowed p (MonadExcept.throw error : Early Answer ε α) :=
  raises_error holds

theorem check {result : Except ε α} (raises : Raises p result) :
    Raising allowed p (Early.check result : Early Answer ε α) :=
  raises

theorem refuseIf {condition : Bool} {error : ε} (holds : p error) :
    Raising allowed p (Early.refuseIf condition error : Early Answer ε PUnit) :=
  raises_ite (fun _ => raises_error holds) fun _ => raises_ok _

theorem attempt {change : δ → ε} {program : Prog Answer (Except δ α)}
    (calls : Within allowed (fun _ => True) program) (holds : ∀ cause, p (change cause)) :
    Raising allowed p (Early.attempt change program) := by
  refine Within.attempt calls fun result _ => ?_
  cases result with
  | error cause => exact raises_error (holds cause)
  | ok value => exact raises_ok value

/-- One call whose error is replaced. -/
theorem call {Answer : Call → Type w} {change : δ → ε} {request : Call}
    {next : Answer request → Prog Answer (Except δ α)} (may : allowed request)
    (returns : ∀ answer, ∃ result, next answer = .ret result) (holds : ∀ cause, p (change cause)) :
    Raising allowed p (Early.attempt change (.call request next)) := by
  refine attempt ⟨may, fun answer => ?_⟩ holds
  obtain ⟨result, same⟩ := returns answer
  rw [same]
  trivial

theorem lift_bind {program : Prog Answer α} {next : α → Early Answer ε β}
    (calls : Within allowed (fun _ => True) program)
    (later : ∀ value, Raising allowed p (next value)) :
    Raising allowed p (ExceptT.lift program >>= next) :=
  Within.lift_seq calls fun value _ => later value

theorem inspect {q : δ → Prop} {program : Early Answer δ α}
    {next : Except δ α → Early Answer ε β} (first : Raising allowed q program)
    (later : ∀ result, Raises q result → Raising allowed p (next result)) :
    Raising allowed p (Early.inspect program next) :=
  Within.inspect first later

/-- More calls are allowed. -/
theorem weaken {program : Early Answer ε α} {allowed' : Call → Prop}
    (raising : Raising allowed p program) (implies : ∀ call, allowed call → allowed' call) :
    Raising allowed' p program :=
  Within.weaken raising implies

/-- The calls alone. -/
theorem calls {program : Early Answer ε α} (raising : Raising allowed p program) :
    Within allowed (fun _ => True) program.run :=
  Within.mono raising fun _ _ => trivial

end Raising

end Interaction
