import Mathlib.Data.List.Forall2
import Sysboost.Interaction.Early

/-!
# Programs over programs

The calls of a program can themselves be made by programs over another
interface.  Terms say which calls may be made and what their answers promise.
A program that obeys the terms is safe over every interface that meets them, as
long as what serves the calls keeps an invariant.
-/

namespace Interaction

universe u v w x

variable {Call : Type u} {Answer : Call → Type w} {α β : Type w}

/-! ## Terms -/

/-- The calls that may be made, and what is promised about their answers. -/
structure Terms (Answer : Call → Type w) where
  allowed : Call → Prop
  promised : (request : Call) → Answer request → Prop

/-- Every call is allowed and the result satisfies `post`, as long as the
answers are as promised. -/
def Obeys (terms : Terms Answer) (post : α → Prop) : Prog Answer α → Prop
  | .ret value => post value
  | .call request next => terms.allowed request ∧
      ∀ answer, terms.promised request answer → Obeys terms post (next answer)

namespace Obeys

variable {terms : Terms Answer} {post : α → Prop}

@[simp]
theorem ret_iff {value : α} : Obeys terms post (.ret value) ↔ post value :=
  Iff.rfl

theorem perform_bind_iff {request : Call} {next : Answer request → Prog Answer β}
    {post : β → Prop} :
    Obeys terms post (Prog.perform request >>= next) ↔ terms.allowed request ∧
      ∀ answer, terms.promised request answer → Obeys terms post (next answer) :=
  Iff.rfl

/-- A program that makes allowed calls only, whatever is promised. -/
theorem of_within {allowed : Call → Prop} {program : Prog Answer α}
    (within : Within allowed post program)
    (implies : ∀ request, allowed request → terms.allowed request) : Obeys terms post program := by
  induction program with
  | ret value => exact within
  | call request next ih =>
      constructor
      · exact implies request within.1
      · exact fun answer _ => ih answer (within.2 answer)

theorem mono {program : Prog Answer α} {other : α → Prop} (obeys : Obeys terms post program)
    (implies : ∀ value, post value → other value) : Obeys terms other program := by
  induction program with
  | ret value => exact implies value obeys
  | call request next ih =>
      constructor
      · exact obeys.1
      · exact fun answer promised => ih answer (obeys.2 answer promised)

/-- Composition through an intermediate assertion. -/
theorem seq {program : Prog Answer α} {next : α → Prog Answer β} {m : α → Prop}
    {post : β → Prop} (first : Obeys terms m program)
    (later : ∀ value, m value → Obeys terms post (next value)) :
    Obeys terms post (program >>= next) := by
  induction program with
  | ret value => exact later value first
  | call request rest ih =>
      constructor
      · exact first.1
      · exact fun answer promised => ih answer (first.2 answer promised)

/-- Composition of programs that may return early with an error. -/
theorem run_seq {ε : Type w} {program : ExceptT ε (Prog Answer) α}
    {next : α → ExceptT ε (Prog Answer) β} {m : Except ε α → Prop} {post : Except ε β → Prop}
    (first : Obeys terms m program.run)
    (early : ∀ error, m (.error error) → post (.error error))
    (later : ∀ value, m (.ok value) → Obeys terms post (next value).run) :
    Obeys terms post (program >>= next).run := by
  apply seq first
  intro result known
  cases result with
  | error error => exact early error known
  | ok value => exact later value known

/-- Composition after a program that cannot return early. -/
theorem lift_seq {ε : Type w} {program : Prog Answer α} {next : α → ExceptT ε (Prog Answer) β}
    {m : α → Prop} {post : Except ε β → Prop} (first : Obeys terms m program)
    (later : ∀ value, m value → Obeys terms post (next value).run) :
    Obeys terms post (ExceptT.lift program >>= next).run := by
  rw [Prog.run_lift_bind]
  exact seq first later

/-- A list of steps, each of which may return early; `each` holds of every item
with its result. -/
theorem mapM_run {ε γ : Type w} {step : γ → ExceptT ε (Prog Answer) α}
    {each : γ → α → Prop} {items : List γ}
    (steps : ∀ item ∈ items, Obeys terms (fun result => ∀ value, result = .ok value →
      each item value) (step item).run) :
    Obeys terms (fun result => ∀ values, result = .ok values → List.Forall₂ each items values)
      (items.mapM step).run := by
  induction items with
  | nil =>
      rw [List.mapM_nil]
      rintro _ ⟨⟩
      exact .nil
  | cons item rest ih =>
      rw [List.forall_mem_cons] at steps
      rw [List.mapM_cons]
      apply run_seq steps.1
      · exact fun _ _ => nofun
      intro value first
      apply run_seq (ih steps.2)
      · exact fun _ _ => nofun
      rintro values later _ ⟨⟩
      exact .cons (first value rfl) (later values rfl)

end Obeys

/-! ## Serving calls -/

variable {Call' : Type v} {Answer' : Call' → Type w}

/-- The program with each of its calls made by a program over another interface. -/
def Prog.via (serve : (request : Call) → Prog Answer' (Answer request)) :
    Prog Answer α → Prog Answer' α
  | .ret value => .ret value
  | .call request next => serve request >>= fun answer => (next answer).via serve

/-- A program that obeys terms is safe over programs that meet them. -/
theorem Obeys.via {W : Type x} {env : Environment Answer' W} {guard : W → Call' → Prop}
    {invariant : W → Prop} {serve : (request : Call) → Prog Answer' (Answer request)}
    {terms : Terms Answer} {post : α → Prop} {program : Prog Answer α} {world : W}
    (meets : ∀ request world, terms.allowed request → invariant world →
      Alone env guard (fun answer after => terms.promised request answer ∧ invariant after)
        (serve request) world)
    (obeys : Obeys terms post program) (holds : invariant world) :
    Alone env guard (fun value after => post value ∧ invariant after) (program.via serve)
      world := by
  induction program generalizing world with
  | ret value => exact Alone.ret_iff.mpr ⟨obeys, holds⟩
  | call request next ih =>
      apply Alone.seq (meets request world obeys.1 holds)
      intro answer after kept
      exact ih answer (obeys.2 answer kept.1) kept.2

/-- What is safe over an interface is safe through a wider one. -/
theorem Alone.embed {W : Type x} {env : Environment Answer' W} {guard : W → Call' → Prop}
    {inject : Call → Call'} {back : ∀ request, Answer' (inject request) → Answer request}
    {post : α → W → Prop} {program : Prog Answer α} {world : W}
    (safe : Alone (fun world request answer after => ∃ given,
      back request given = answer ∧ env world (inject request) given after)
      (fun world request => guard world (inject request)) post program world) :
    Alone env guard post (program.embed inject back) world := by
  induction program generalizing world with
  | ret value => exact safe
  | call request next ih =>
      obtain ⟨guarded, rest⟩ := Alone.call_iff.mp safe
      apply Alone.call_iff.mpr
      constructor
      · exact guarded
      · exact fun answer after law => ih _ (rest _ after ⟨answer, rfl, law⟩)

end Interaction
