import Sysboost.Interaction.Trace

/-!
# The calls a program may make

`Within allowed post program` bounds the calls of a program and its result,
whatever the answers are.  It mentions no world; `Within.safe` turns it into
safety wherever the allowed calls keep an assertion.
-/

namespace Interaction

universe u v w x

variable {Call : Type u} {Answer : Call → Type v} {W : Type x} {α β : Type w}

/-- Every call is allowed and the result satisfies `post`, for all answers. -/
def Within (allowed : Call → Prop) (post : α → Prop) : Prog Answer α → Prop
  | .ret value => post value
  | .call request next => allowed request ∧ ∀ answer, Within allowed post (next answer)

namespace Within

variable {allowed : Call → Prop} {post : α → Prop}

@[simp]
theorem ret_iff {value : α} : Within allowed post (.ret value : Prog Answer α) ↔ post value :=
  Iff.rfl

theorem call_iff {request : Call} {next : Answer request → Prog Answer α} :
    Within allowed post (.call request next) ↔
      allowed request ∧ ∀ answer, Within allowed post (next answer) :=
  Iff.rfl

theorem perform_bind_iff {Answer : Call → Type w} {request : Call}
    {next : Answer request → Prog Answer β} {post : β → Prop} :
    Within allowed post (Prog.perform request >>= next) ↔
      allowed request ∧ ∀ answer, Within allowed post (next answer) :=
  Iff.rfl

/-- Any program makes some calls and returns some result. -/
theorem any (program : Prog Answer α) : Within (fun _ => True) (fun _ => True) program := by
  induction program with
  | ret value => trivial
  | call request next ih => exact ⟨trivial, ih⟩

theorem mono {program : Prog Answer α} {other : α → Prop} (within : Within allowed post program)
    (implies : ∀ value, post value → other value) : Within allowed other program := by
  induction program with
  | ret value => exact implies value within
  | call request next ih => exact ⟨within.1, fun answer => ih answer (within.2 answer)⟩

/-- Composition through an intermediate assertion. -/
theorem seq {program : Prog Answer α} {next : α → Prog Answer β} {m : α → Prop}
    {post : β → Prop} (first : Within allowed m program)
    (later : ∀ value, m value → Within allowed post (next value)) :
    Within allowed post (program >>= next) := by
  induction program with
  | ret value => exact later value first
  | call request rest ih => exact ⟨first.1, fun answer => ih answer (first.2 answer)⟩

/-- More calls are allowed. -/
theorem weaken {program : Prog Answer α} {allowed' : Call → Prop}
    (within : Within allowed post program) (implies : ∀ request, allowed request → allowed' request) :
    Within allowed' post program := by
  induction program with
  | ret value => exact within
  | call request next ih =>
      exact ⟨implies request within.1, fun answer => ih answer (within.2 answer)⟩

/-- A program that may return early with an error, inspected by its caller. -/
theorem run_seq {ε : Type w} {program : ExceptT ε (Prog Answer) α}
    {next : α → ExceptT ε (Prog Answer) β} {m : Except ε α → Prop}
    {post : Except ε β → Prop} (first : Within allowed m program.run)
    (early : ∀ error, m (.error error) → post (.error error))
    (later : ∀ value, m (.ok value) → Within allowed post (next value).run) :
    Within allowed post (program >>= next).run := by
  refine seq first fun result known => ?_
  rcases result with error | value
  · exact early error known
  · exact later value known

theorem lift_seq {ε : Type w} {program : Prog Answer α} {next : α → ExceptT ε (Prog Answer) β}
    {m : α → Prop} {post : Except ε β → Prop} (first : Within allowed m program)
    (later : ∀ value, m value → Within allowed post (next value).run) :
    Within allowed post (ExceptT.lift program >>= next).run := by
  rw [Prog.run_lift_bind]
  exact seq first later

/-- Iteration with an assertion on what the loop carries along. -/
theorem foldlM {γ : Type w} {step : α → γ → Prog Answer α} {carried : α → Prop}
    (each : ∀ value item, carried value → Within allowed carried (step value item))
    (items : List γ) {value : α} (start : carried value) :
    Within allowed carried (items.foldlM step value) := by
  induction items generalizing value with
  | nil => exact start
  | cons item rest ih =>
      rw [List.foldlM_cons]
      exact seq (each value item start) fun next known => ih known

/-- A list of steps, each of which may return early. -/
theorem mapM_run {ε γ : Type w} {step : γ → ExceptT ε (Prog Answer) α}
    (each : ∀ item, Within allowed (fun _ => True) (step item).run) (items : List γ) :
    Within allowed (fun _ => True) (items.mapM step).run := by
  induction items with
  | nil =>
      rw [List.mapM_nil]
      trivial
  | cons item rest ih =>
      rw [List.mapM_cons]
      refine run_seq (each item) (fun _ _ => trivial) fun _ _ => ?_
      exact run_seq ih (fun _ _ => trivial) fun _ _ => trivial

theorem forM_run {ε γ : Type w} {step : γ → ExceptT ε (Prog Answer) PUnit}
    (each : ∀ item, Within allowed (fun _ => True) (step item).run) (items : List γ) :
    Within allowed (fun _ => True) (items.forM step).run := by
  induction items with
  | nil => trivial
  | cons item rest ih => exact run_seq (each item) (fun _ _ => trivial) fun _ _ => ih

/-- The calls of a complete run are allowed. -/
theorem every {program : Prog Answer α} (within : Within allowed post program) :
    Every (fun trace value => (∀ exchange ∈ trace, allowed exchange.request) ∧ post value)
      program := by
  induction program with
  | ret value => exact Every.ret_iff.mpr ⟨by simp, within⟩
  | call request next ih =>
      refine Every.call_iff.mpr fun answer => (ih answer (within.2 answer)).mono ?_
      rintro trace value ⟨all, holds⟩
      refine ⟨fun exchange member => ?_, holds⟩
      rcases List.mem_cons.mp member with rfl | member
      · exact within.1
      · exact all exchange member

/-- What is made through a wider interface are calls of this interface. -/
theorem embed {Call' : Type*} {Answer' : Call' → Type*} {inject : Call → Call'}
    {back : ∀ request, Answer' (inject request) → Answer request} {allowed' : Call' → Prop}
    {program : Prog Answer α} (within : Within allowed post program)
    (implies : ∀ request, allowed request → allowed' (inject request)) :
    Within allowed' post (program.embed inject back) := by
  induction program with
  | ret value => exact within
  | call request next ih =>
      exact ⟨implies request within.1, fun answer => ih _ (within.2 (back request answer))⟩

/-- A program whose calls keep an assertion is safe where it holds. -/
theorem safe {env : Environment Answer W} {rely : W → W → Prop} {guard : W → Call → Prop}
    {own : W → Prop} (stable : ∀ {before after}, rely before after → own before → own after)
    (keeps : ∀ {world request}, own world → allowed request → guard world request ∧
      ∀ answer after, env world request answer after → own after)
    {program : Prog Answer α} {world : W} (within : Within allowed post program)
    (holds : own world) :
    Safe env rely guard (fun value after => post value ∧ own after) program world := by
  induction program generalizing world with
  | ret value => exact fun later step => ⟨within, stable step holds⟩
  | call request next ih =>
      intro later step
      obtain ⟨guarded, kept⟩ := keeps (stable step holds) within.1
      exact ⟨guarded, fun answer after law =>
        ih answer (within.2 answer) (kept answer after law)⟩

end Within

end Interaction
