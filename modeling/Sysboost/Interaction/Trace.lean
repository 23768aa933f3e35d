import Sysboost.Interaction.Safety

/-!
# Traces of programs

A trace lists the calls of a complete run with their answers, in order.  The
judgement `Every post program` says what holds of all traces and results when
every answer is arbitrary; its rules compose along the program.
-/

namespace Interaction

universe u v w x

variable {Call : Type u} {Answer : Call → Type v}

/-- A call with its answer. -/
structure Exchange (Answer : Call → Type v) where
  request : Call
  answer : Answer request

/-- The exchanges of a complete run. -/
inductive Traces {α : Type w} : Prog Answer α → List (Exchange Answer) → α → Prop where
  | ret (value : α) : Traces (.ret value) [] value
  | call {request : Call} {next : Answer request → Prog Answer α} (answer : Answer request)
      {trace : List (Exchange Answer)} {value : α} (rest : Traces (next answer) trace value) :
      Traces (.call request next) (⟨request, answer⟩ :: trace) value

/-- A property of all traces and results. -/
def Every {α : Type w} (post : List (Exchange Answer) → α → Prop) (program : Prog Answer α) :
    Prop :=
  ∀ trace value, Traces program trace value → post trace value

namespace Every

variable {α β : Type w} {post : List (Exchange Answer) → α → Prop}

@[simp]
theorem ret_iff {value : α} : Every post (.ret value : Prog Answer α) ↔ post [] value := by
  constructor
  · intro every
    exact every [] value (.ret value)
  · intro holds trace result run
    cases run
    exact holds

theorem call_iff {request : Call} {next : Answer request → Prog Answer α} :
    Every post (.call request next) ↔
      ∀ answer, Every (fun trace value => post (⟨request, answer⟩ :: trace) value)
        (next answer) := by
  constructor
  · intro every answer trace value run
    exact every _ value (.call answer run)
  · intro all trace value run
    cases run with
    | call answer rest => exact all answer _ value rest

theorem perform_bind_iff {Answer : Call → Type w} {request : Call}
    {next : Answer request → Prog Answer β} {post : List (Exchange Answer) → β → Prop} :
    Every post (Prog.perform request >>= next) ↔
      ∀ answer, Every (fun trace value => post (⟨request, answer⟩ :: trace) value)
        (next answer) :=
  call_iff

theorem mono {program : Prog Answer α} {other : List (Exchange Answer) → α → Prop}
    (every : Every post program) (implies : ∀ trace value, post trace value → other trace value) :
    Every other program :=
  fun trace value run => implies trace value (every trace value run)

/-- The trace of a composition is the trace of the first part, then of the second. -/
theorem bind {program : Prog Answer α} {next : α → Prog Answer β}
    {post : List (Exchange Answer) → β → Prop}
    (every : Every (fun trace value => Every (fun more result => post (trace ++ more) result)
      (next value)) program) :
    Every post (program >>= next) := by
  induction program generalizing post with
  | ret value => exact ret_iff.mp every
  | call request rest ih =>
      exact call_iff.mpr fun answer => ih answer (call_iff.mp every answer)

/-- Composition through an intermediate assertion. -/
theorem seq {program : Prog Answer α} {next : α → Prog Answer β}
    {middle : List (Exchange Answer) → α → Prop} {post : List (Exchange Answer) → β → Prop}
    (first : Every middle program)
    (later : ∀ trace value, middle trace value →
      Every (fun more result => post (trace ++ more) result) (next value)) :
    Every post (program >>= next) :=
  bind (first.mono later)

/-- Composition of programs that may return early with an error. -/
theorem run_seq {ε : Type w} {program : ExceptT ε (Prog Answer) α}
    {next : α → ExceptT ε (Prog Answer) β} {middle : List (Exchange Answer) → Except ε α → Prop}
    {post : List (Exchange Answer) → Except ε β → Prop} (first : Every middle program.run)
    (early : ∀ trace error, middle trace (.error error) → post trace (.error error))
    (later : ∀ trace value, middle trace (.ok value) →
      Every (fun more result => post (trace ++ more) result) (next value).run) :
    Every post (program >>= next).run := by
  refine seq first fun trace result known => ?_
  rcases result with error | value
  · refine ret_iff.mpr ?_
    rw [List.append_nil]
    exact early trace error known
  · exact later trace value known

/-- Composition after a program that cannot return early. -/
theorem lift_seq {ε : Type w} {program : Prog Answer α} {next : α → ExceptT ε (Prog Answer) β}
    {middle : List (Exchange Answer) → α → Prop}
    {post : List (Exchange Answer) → Except ε β → Prop} (first : Every middle program)
    (later : ∀ trace value, middle trace value →
      Every (fun more result => post (trace ++ more) result) (next value).run) :
    Every post (ExceptT.lift program >>= next).run := by
  have lifted : Every (fun trace result => ∃ value, result = .ok value ∧ middle trace value)
      (ExceptT.lift program : ExceptT ε (Prog Answer) α).run :=
    seq first fun trace value known => ret_iff.mpr ⟨value, rfl, by simpa using known⟩
  refine run_seq lifted (fun _ _ known => ?_) fun trace result known => ?_
  · obtain ⟨value, impossible, -⟩ := known
    cases impossible
  · obtain ⟨_, same, known⟩ := known
    cases same
    exact later trace result known

end Every

/-! ## Traces in a world -/

/-- The environment gives the answers of the trace, one after the other. -/
inductive Steps {W : Type x} (env : Environment Answer W) : W → List (Exchange Answer) → W → Prop
  | nil (world : W) : Steps env world [] world
  | cons {request : Call} {answer : Answer request} {trace : List (Exchange Answer)}
      {world middle final : W} (law : env world request answer middle)
      (rest : Steps env middle trace final) : Steps env world (⟨request, answer⟩ :: trace) final

theorem Steps.append_iff {W : Type x} {env : Environment Answer W} {world final : W}
    {first second : List (Exchange Answer)} :
    Steps env world (first ++ second) final ↔
      ∃ middle, Steps env world first middle ∧ Steps env middle second final := by
  induction first generalizing world with
  | nil =>
      constructor
      · exact fun steps => ⟨world, .nil world, steps⟩
      · rintro ⟨middle, none, steps⟩
        cases none
        exact steps
  | cons exchange first ih =>
      constructor
      · intro steps
        cases steps with
        | cons law rest =>
            obtain ⟨middle, front, back⟩ := ih.mp rest
            exact ⟨middle, .cons law front, back⟩
      · rintro ⟨middle, front, back⟩
        cases front with
        | cons law rest => exact .cons law (ih.mpr ⟨middle, rest, back⟩)

/-- One exchange. -/
theorem Steps.singleton_iff {W : Type x} {env : Environment Answer W} {world final : W}
    {exchange : Exchange Answer} :
    Steps env world [exchange] final ↔ env world exchange.request exchange.answer final := by
  constructor
  · intro steps
    cases steps with
    | cons law rest =>
        cases rest
        exact law
  · exact fun law => .cons law (.nil final)

section Exec

variable {α : Type w} {W : Type x} (answer : W → (request : Call) → Answer request × W)

/-- The trace of a program whose calls are answered by a function. -/
def Prog.trace : Prog Answer α → W → List (Exchange Answer)
  | .ret _, _ => []
  | .call request next, world =>
      ⟨request, (answer world request).1⟩ ::
        Prog.trace (next (answer world request).1) (answer world request).2

theorem Prog.traces_trace (program : Prog Answer α) (world : W) :
    Traces program (program.trace answer world) (program.exec answer world).1 := by
  induction program generalizing world with
  | ret value => exact .ret value
  | call request next ih => exact .call _ (ih _ _)

theorem Prog.trace_bind {β : Type w} (program : Prog Answer α) (next : α → Prog Answer β)
    (world : W) :
    (program >>= next).trace answer world = program.trace answer world ++
      (next (program.exec answer world).1).trace answer (program.exec answer world).2 := by
  induction program generalizing world with
  | ret value => rfl
  | call request following ih => exact congrArg (List.cons _) (ih _ _)

theorem Prog.trace_run_bind {ε β : Type w} (program : ExceptT ε (Prog Answer) α)
    (next : α → ExceptT ε (Prog Answer) β) (world : W) :
    (program >>= next).run.trace answer world =
      match program.run.exec answer world with
      | (.ok value, after) => program.run.trace answer world ++ (next value).run.trace answer after
      | (.error _, _) => program.run.trace answer world := by
  rw [ExceptT.run_bind, Prog.trace_bind]
  rcases program.run.exec answer world with ⟨_ | value, after⟩
  · exact List.append_nil _
  · rfl

theorem Prog.steps_trace {env : Environment Answer W}
    (obeys : ∀ world request, env world request (answer world request).1 (answer world request).2)
    (program : Prog Answer α) (world : W) :
    Steps env world (program.trace answer world) (program.exec answer world).2 := by
  induction program generalizing world with
  | ret value => exact .nil world
  | call request next ih => exact .cons (obeys world request) (ih _ _)

end Exec

/-- Every call of a safe program is guarded in the world in which it is answered. -/
theorem Alone.guard_of_mem {α : Type w} {W : Type x} {env : Environment Answer W}
    {guard : W → Call → Prop} {post : α → W → Prop} {program : Prog Answer α} {world final : W}
    {trace : List (Exchange Answer)} {value : α} (safe : Alone env guard post program world)
    (traces : Traces program trace value) (steps : Steps env world trace final)
    {exchange : Exchange Answer} (member : exchange ∈ trace) :
    ∃ before after, guard before exchange.request ∧
      env before exchange.request exchange.answer after := by
  induction traces generalizing world with
  | ret value => cases member
  | @call request next answer trace value rest ih =>
      cases steps with
      | @cons _ _ _ _ middle _ law more =>
          obtain ⟨guarded, safe⟩ := Alone.call_iff.mp safe
          rcases List.mem_cons.mp member with rfl | member
          · exact ⟨world, middle, guarded, law⟩
          · exact ih (safe answer middle law) more member

end Interaction
