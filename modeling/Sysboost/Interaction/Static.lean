import Sysboost.Interaction.Raising

/-!
# Answers that never change

Where every call has one answer, a program has one outcome and leaves nothing
behind.  A program that returns early then is a sequence of results, and what a
program promises for all answers holds of its outcome.
-/

namespace Interaction

open Results

universe u v w

variable {Call : Type u} {Answer : Call → Type v} {α β δ ε : Type w}
  (answer : (request : Call) → Answer request)

/-- The outcome when every call has one answer. -/
def Prog.eval : Prog Answer α → α
  | ret value => value
  | call request next => eval (next (answer request))

@[simp]
theorem Prog.eval_ret (value : α) : (ret value : Prog Answer α).eval answer = value :=
  rfl

@[simp]
theorem Prog.eval_perform {Answer : Call → Type w} (answer : (request : Call) → Answer request)
    (request : Call) : (perform request).eval answer = answer request :=
  rfl

theorem Prog.eval_bind (program : Prog Answer α) (next : α → Prog Answer β) :
    (program >>= next).eval answer = (next (program.eval answer)).eval answer := by
  induction program with
  | ret value => rfl
  | call request rest ih => exact ih (answer request)

/-- What a program promises for all answers holds of its outcome. -/
theorem Within.eval {allowed : Call → Prop} {post : α → Prop} {program : Prog Answer α}
    (within : Within allowed post program) : post (program.eval answer) := by
  induction program with
  | ret value => exact within
  | call request next ih => exact ih (answer request) (within.2 (answer request))

/-- The calls that are made when every call has one answer. -/
def Prog.calls : Prog Answer α → List Call
  | ret _ => []
  | call request next => request :: calls (next (answer request))

theorem Prog.calls_bind (program : Prog Answer α) (next : α → Prog Answer β) :
    (program >>= next).calls answer =
      program.calls answer ++ (next (program.eval answer)).calls answer := by
  induction program with
  | ret value => rfl
  | call request rest ih => exact congrArg (request :: ·) (ih (answer request))

/-- A program makes none but the calls it is allowed. -/
theorem Within.of_mem_calls {allowed : Call → Prop} {post : α → Prop} {program : Prog Answer α}
    (within : Within allowed post program) {call : Call} (member : call ∈ program.calls answer) :
    allowed call := by
  induction program with
  | ret value => cases member
  | call request next ih =>
      rcases List.mem_cons.mp member with rfl | member
      · exact within.1
      · exact ih (answer request) (within.2 (answer request)) member

namespace Early

/-- The result when every call has one answer. -/
def result (program : Early Answer ε α) : Except ε α :=
  program.run.eval answer

theorem result_bind (program : Early Answer ε α) (next : α → Early Answer ε β) :
    (program >>= next).result answer =
      program.result answer >>= fun value => (next value).result answer := by
  unfold result
  rw [ExceptT.run_bind, Prog.eval_bind]
  cases program.run.eval answer with
  | error error => rfl
  | ok value => rfl

/-- Past a step that succeeds, the result is that of what follows. -/
theorem result_bind_of_ok {program : Early Answer ε α} {next : α → Early Answer ε β} {value : α}
    (known : program.result answer = .ok value) :
    (program >>= next).result answer = (next value).result answer := by
  rw [result_bind, known]
  rfl

/-- A sequence succeeds when its steps do. -/
theorem result_bind_ok_iff {program : Early Answer ε α} {next : α → Early Answer ε β}
    {value : β} :
    (program >>= next).result answer = .ok value ↔
      ∃ first, program.result answer = .ok first ∧ (next first).result answer = .ok value := by
  rw [result_bind, bind_eq_ok_iff]

@[simp]
theorem result_pure (value : α) : (pure value : Early Answer ε α).result answer = .ok value :=
  rfl

@[simp]
theorem result_throw (error : ε) :
    (throw error : Early Answer ε α).result answer = .error error :=
  rfl

@[simp]
theorem result_check (result : Except ε α) :
    (check result : Early Answer ε α).result answer = result :=
  rfl

@[simp]
theorem result_attempt (change : δ → ε) (program : Prog Answer (Except δ α)) :
    (attempt change program).result answer = (program.eval answer).mapError change :=
  Prog.eval_bind answer program _

@[simp]
theorem result_lift (program : Prog Answer α) :
    result answer (ExceptT.lift program : Early Answer ε α) = .ok (program.eval answer) :=
  Prog.eval_bind answer program _

/-- The calls that are made when every call has one answer. -/
def calls (program : Early Answer ε α) : List Call :=
  program.run.calls answer

/-- A sequence makes the calls of its first step, and those of what follows it. -/
theorem mem_calls_bind_iff {program : Early Answer ε α} {next : α → Early Answer ε β}
    {call : Call} :
    call ∈ (program >>= next).calls answer ↔
      call ∈ program.calls answer ∨
        ∃ value, program.result answer = .ok value ∧ call ∈ (next value).calls answer := by
  unfold calls result
  rw [ExceptT.run_bind, Prog.calls_bind, List.mem_append]
  apply or_congr_right
  cases program.run.eval answer with
  | error error => simp [Prog.calls]
  | ok value => simp

/-- Past a step that succeeds without making it, a call is made by what follows. -/
theorem mem_calls_bind_of_result {program : Early Answer ε α} {next : α → Early Answer ε β}
    {call : Call} {value : α} (other : call ∉ program.calls answer)
    (known : program.result answer = .ok value) :
    call ∈ (program >>= next).calls answer ↔ call ∈ (next value).calls answer := by
  rw [mem_calls_bind_iff, or_iff_right other, known]
  simp

theorem mem_calls_refuseIf_bind_iff {condition : Bool} {error : ε}
    {next : PUnit → Early Answer ε β} {call : Call} :
    call ∈ (refuseIf condition error >>= next).calls answer ↔
      condition = false ∧ call ∈ (next ⟨⟩).calls answer := by
  have none : call ∉ (check (if condition then .error error else .ok ⟨⟩) :
      Early Answer ε PUnit).calls answer := by
    simp [calls, check, Prog.calls]
  rw [refuseIf, mem_calls_bind_iff, or_iff_right none, result_check]
  cases condition with
  | false => simp [Unique.exists_iff]
  | true => simp

/-- A refusal, or the result of what follows. -/
theorem result_refuseIf_bind {condition : Bool} {error : ε}
    {next : PUnit → Early Answer ε β} :
    (refuseIf condition error >>= next).result answer =
      if condition then .error error else (next ⟨⟩).result answer := by
  rw [result_bind]
  cases condition with
  | false => rfl
  | true => rfl

theorem result_refuseIf_bind_ok_iff {condition : Bool} {error : ε}
    {next : PUnit → Early Answer ε β} {value : β} :
    (refuseIf condition error >>= next).result answer = .ok value ↔
      condition = false ∧ (next ⟨⟩).result answer = .ok value := by
  rw [result_refuseIf_bind]
  cases condition with
  | false => simp
  | true => simp

theorem result_refuseIf_ok_iff {condition : Bool} {error : ε} :
    (refuseIf condition error : Early Answer ε PUnit).result answer = .ok ⟨⟩ ↔
      condition = false := by
  cases condition with
  | false => simp [refuseIf]
  | true => simp [refuseIf]

theorem raises_result_refuseIf {p : ε → Prop} {condition : Bool} {error : ε}
    (holds : condition = true → p error) :
    Raises p ((refuseIf condition error : Early Answer ε PUnit).result answer) := by
  cases condition with
  | false => exact raises_ok _
  | true => exact raises_error (holds rfl)

/-- The errors of a sequence whose first step has a known result. -/
theorem raises_result_bind {p : ε → Prop} {program : Early Answer ε α}
    {next : α → Early Answer ε β} (first : Raises p (program.result answer))
    (later : ∀ value, program.result answer = .ok value → Raises p ((next value).result answer)) :
    Raises p ((program >>= next).result answer) := by
  rw [result_bind]
  exact raises_bind first later

end Early

/-- What a program may raise bounds its result. -/
theorem Raising.result {allowed : Call → Prop} {p : ε → Prop} {program : Early Answer ε α}
    (raising : Raising allowed p program) : Raises p (program.result answer) :=
  Within.eval answer raising

end Interaction
