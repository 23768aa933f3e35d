import Sysboost.Interaction.Effects

/-!
# Calls made in turn

Whether a call may be made can depend on the exchange just before it.  A program
keeps to its turns when each of its calls may be made then, whatever the answers
are and whatever came before the program.
-/

namespace Interaction

universe u v w x

variable {Call : Type u} {Answer : Call → Type v} {α β : Type w}

/-- Every call may follow the exchange before it; `last` came before the first. -/
def InTurn (may : Option (Exchange Answer) → Call → Prop) :
    Prog Answer α → Option (Exchange Answer) → Prop
  | .ret _, _ => True
  | .call request next, last => may last request ∧
      ∀ answer, InTurn may (next answer) (some ⟨request, answer⟩)

/-- The program keeps to its turns, whatever came before it. -/
def Turns (may : Option (Exchange Answer) → Call → Prop) (program : Prog Answer α) : Prop :=
  ∀ last, InTurn may program last

variable {may : Option (Exchange Answer) → Call → Prop}

/-- In a world that remembers the last exchange, every call is made in turn. -/
theorem InTurn.alone {W : Type x} {env : Environment Answer W}
    {latest : W → Option (Exchange Answer)}
    (remembers : ∀ {world request answer after}, env world request answer after →
      latest after = some ⟨request, answer⟩)
    {program : Prog Answer α} {world : W} (inTurn : InTurn may program (latest world)) :
    Alone env (fun world request => may (latest world) request) (fun _ _ => True) program
      world := by
  induction program generalizing world with
  | ret value => exact Alone.ret_iff.mpr trivial
  | call request next ih =>
      apply Alone.call_iff.mpr
      constructor
      · exact inTurn.1
      · intro answer after law
        apply ih
        rw [remembers law]
        exact inTurn.2 answer

namespace Turns

theorem ret (value : α) : Turns may (.ret value : Prog Answer α) :=
  fun _ => trivial

/-- A call that may be made at any time. -/
theorem call {request : Call} {next : Answer request → Prog Answer α}
    (free : ∀ last, may last request) (later : ∀ answer, Turns may (next answer)) :
    Turns may (.call request next) :=
  fun last => ⟨free last, fun answer => later answer _⟩

theorem perform {Answer : Call → Type w} {may : Option (Exchange Answer) → Call → Prop}
    {request : Call} (free : ∀ last, may last request) :
    Turns may (Prog.perform request) :=
  call free ret

/-- Composition: the second part keeps to its turns after every result of the first. -/
theorem seq {program : Prog Answer α} {next : α → Prog Answer β} (first : Turns may program)
    (later : ∀ value, Turns may (next value)) : Turns may (program >>= next) := by
  intro last
  have inTurn := first last
  clear first
  induction program generalizing last with
  | ret value => exact later value last
  | call request rest ih =>
      constructor
      · exact inTurn.1
      · exact fun answer => ih answer _ (inTurn.2 answer)

/-- Composition of programs that may return early with an error. -/
theorem run_seq {ε : Type w} {program : ExceptT ε (Prog Answer) α}
    {next : α → ExceptT ε (Prog Answer) β} (first : Turns may program.run)
    (later : ∀ value, Turns may (next value).run) : Turns may (program >>= next).run := by
  apply seq first
  intro result
  cases result with
  | error error => exact ret _
  | ok value => exact later value

/-- Composition after a program that cannot return early. -/
theorem lift_seq {ε : Type w} {program : Prog Answer α} {next : α → ExceptT ε (Prog Answer) β}
    (first : Turns may program) (later : ∀ value, Turns may (next value).run) :
    Turns may (ExceptT.lift program >>= next).run := by
  rw [Prog.run_lift_bind]
  exact seq first later

/-- A loop whose body keeps to its turns. -/
theorem foldlM {γ : Type x} {body : α → γ → Prog Answer α} {items : List γ}
    (turns : ∀ state, ∀ item ∈ items, Turns may (body state item)) (start : α) :
    Turns may (items.foldlM body start) := by
  induction items generalizing start with
  | nil => exact ret start
  | cons item rest ih =>
      rw [List.foldlM_cons]
      apply seq (turns start item List.mem_cons_self)
      exact ih fun state other member => turns state other (List.mem_cons_of_mem _ member)

end Turns

end Interaction
