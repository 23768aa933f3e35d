import Sysboost.Interaction.Program
import Mathlib.Logic.Relation

/-!
# Safety of programs under an environment and interference

`Safe env rely guard post program world` holds when, whatever the environment
answers and whatever others do between two calls within `rely`, every call the
program makes satisfies `guard` in the world in which it is made, and `post`
holds of its result.  The predicate speaks about every prefix of a run: a
program abandoned after any call has made only guarded calls.
-/

namespace Interaction

universe u v w x

variable {Call : Type u} {Answer : Call → Type v} {W : Type x}

/-- How the world answers a call and changes. -/
abbrev Environment {Call : Type u} (Answer : Call → Type v) (W : Type x) :=
  W → (request : Call) → Answer request → W → Prop

/-- Guarded calls and a postcondition, for every answer and all interference. -/
def Safe {α : Type w} (env : Environment Answer W) (rely : W → W → Prop)
    (guard : W → Call → Prop) (post : α → W → Prop) : Prog Answer α → W → Prop
  | .ret value, world => ∀ later, rely world later → post value later
  | .call request next, world => ∀ later, rely world later →
      guard later request ∧ ∀ answer after, env later request answer after →
        Safe env rely guard post (next answer) after

namespace Safe

variable {α β : Type w} {env : Environment Answer W} {rely : W → W → Prop}
  {guard : W → Call → Prop} {post : α → W → Prop}

/-- More interference before the first call is absorbed by a transitive rely. -/
theorem interfere (trans : ∀ a b c, rely a b → rely b c → rely a c)
    {program : Prog Answer α} {world after : W} (safe : Safe env rely guard post program world)
    (step : rely world after) : Safe env rely guard post program after := by
  cases program with
  | ret value => exact fun later more => safe later (trans _ _ _ step more)
  | call request next => exact fun later more => safe later (trans _ _ _ step more)

theorem mono {program : Prog Answer α} {world : W} {other : α → W → Prop}
    (safe : Safe env rely guard post program world)
    (implies : ∀ value world, post value world → other value world) :
    Safe env rely guard other program world := by
  induction program generalizing world with
  | ret value => exact fun later step => implies _ _ (safe later step)
  | call request next ih =>
      intro later step
      obtain ⟨guarded, rest⟩ := safe later step
      exact ⟨guarded, fun answer after law => ih answer (rest answer after law)⟩

/-- Fewer behaviours of the environment and a weaker guard. -/
theorem weaken {program : Prog Answer α} {world : W} {env' : Environment Answer W}
    {guard' : W → Call → Prop} (safe : Safe env rely guard post program world)
    (fewer : ∀ world request answer after, guard world request →
      env' world request answer after → env world request answer after)
    (implies : ∀ world request, guard world request → guard' world request) :
    Safe env' rely guard' post program world := by
  induction program generalizing world with
  | ret value => exact safe
  | call request next ih =>
      intro later step
      obtain ⟨guarded, rest⟩ := safe later step
      exact ⟨implies _ _ guarded, fun answer after law =>
        ih answer (rest answer after (fewer _ _ _ _ guarded law))⟩

/-- Less interference. -/
theorem undisturbed {program : Prog Answer α} {world : W} {rely' : W → W → Prop}
    (safe : Safe env rely guard post program world)
    (fewer : ∀ {before after}, rely' before after → rely before after) :
    Safe env rely' guard post program world := by
  induction program generalizing world with
  | ret value => exact fun later step => safe later (fewer step)
  | call request next ih =>
      intro later step
      obtain ⟨guarded, rest⟩ := safe later (fewer step)
      exact ⟨guarded, fun answer after law => ih answer (rest answer after law)⟩

/-- What interference and guarded calls keep holds along the program. -/
theorem carry {program : Prog Answer α} {world : W} {carried : W → Prop}
    (safe : Safe env rely guard post program world)
    (stable : ∀ {before after}, rely before after → carried before → carried after)
    (kept : ∀ {world request answer after}, carried world → guard world request →
      env world request answer after → carried after)
    (holds : carried world) :
    Safe env rely (fun world request => guard world request ∧ carried world)
      (fun value after => post value after ∧ carried after) program world := by
  induction program generalizing world with
  | ret value => exact fun later step => ⟨safe later step, stable step holds⟩
  | call request next ih =>
      intro later step
      obtain ⟨guarded, rest⟩ := safe later step
      have holds := stable step holds
      exact ⟨⟨guarded, holds⟩, fun answer after law =>
        ih answer (rest answer after law) (kept holds guarded law)⟩

/-- Composition: the second part is safe from every result of the first. -/
theorem bind (refl : ∀ world, rely world world) {program : Prog Answer α}
    {next : α → Prog Answer β} {world : W} {post : β → W → Prop}
    (safe : Safe env rely guard (fun value after => Safe env rely guard post (next value) after)
      program world) :
    Safe env rely guard post (program >>= next) world := by
  induction program generalizing world with
  | ret value => exact safe world (refl world)
  | call request rest ih =>
      intro later step
      obtain ⟨guarded, more⟩ := safe later step
      exact ⟨guarded, fun answer after law => ih answer (more answer after law)⟩

/-- Two independently established facts about one program. -/
theorem and {program : Prog Answer α} {world : W} {guard' : W → Call → Prop}
    {post' : α → W → Prop} (first : Safe env rely guard post program world)
    (second : Safe env rely guard' post' program world) :
    Safe env rely (fun world request => guard world request ∧ guard' world request)
      (fun value world => post value world ∧ post' value world) program world := by
  induction program generalizing world with
  | ret value => exact fun later step => ⟨first later step, second later step⟩
  | call request next ih =>
      intro later step
      obtain ⟨guarded, rest⟩ := first later step
      obtain ⟨guarded', rest'⟩ := second later step
      exact ⟨⟨guarded, guarded'⟩, fun answer after law =>
        ih answer (rest answer after law) (rest' answer after law)⟩

/-- A call that is made while an assertion holds that interference keeps. -/
theorem perform_bind {Answer : Call → Type w} {env : Environment Answer W} {request : Call}
    {next : Answer request → Prog Answer β} {world : W} {pre : W → Prop} {post : β → W → Prop}
    (stable : ∀ {before after}, rely before after → pre before → pre after) (holds : pre world)
    (made : ∀ later, pre later → guard later request ∧ ∀ answer after,
      env later request answer after → Safe env rely guard post (next answer) after) :
    Safe env rely guard post (Prog.perform request >>= next) world :=
  fun later step => made later (stable step holds)

/-- One call on its own. -/
theorem perform {Answer : Call → Type w} {env : Environment Answer W} {request : Call}
    {world : W} {pre : W → Prop} {post : Answer request → W → Prop}
    (stable : ∀ {before after}, rely before after → pre before → pre after) (holds : pre world)
    (made : ∀ later, pre later → guard later request ∧ ∀ answer after,
      env later request answer after → Safe env rely guard post (.ret answer) after) :
    Safe env rely guard post (Prog.perform request) world :=
  fun later step => made later (stable step holds)

theorem ret {value : α} {world : W} {pre : W → Prop}
    (stable : ∀ {before after}, rely before after → pre before → pre after) (holds : pre world)
    (returned : ∀ later, pre later → post value later) :
    Safe env rely guard post (.ret value : Prog Answer α) world :=
  fun later step => returned later (stable step holds)

section Compose

variable (refl : ∀ world, rely world world)

include refl

/-- Composition through an intermediate assertion. -/
theorem seq {program : Prog Answer α} {next : α → Prog Answer β} {world : W}
    {m : α → W → Prop} {post : β → W → Prop}
    (first : Safe env rely guard m program world)
    (later : ∀ value after, m value after → Safe env rely guard post (next value) after) :
    Safe env rely guard post (program >>= next) world :=
  bind refl (mono first later)

/-- Composition of programs that may return early with an error. -/
theorem run_seq {ε : Type w} {program : ExceptT ε (Prog Answer) α}
    {next : α → ExceptT ε (Prog Answer) β} {world : W} {m : Except ε α → W → Prop}
    {post : Except ε β → W → Prop} (first : Safe env rely guard m program.run world)
    (early : ∀ error after, m (.error error) after →
      Safe env rely guard post (.ret (.error error)) after)
    (later : ∀ value after, m (.ok value) after →
      Safe env rely guard post (next value).run after) :
    Safe env rely guard post (program >>= next).run world := by
  refine seq refl first fun result after known => ?_
  rcases result with error | value
  · exact early error after known
  · exact later value after known

/-- Composition after a program that cannot return early. -/
theorem lift_seq {ε : Type w} {program : Prog Answer α} {next : α → ExceptT ε (Prog Answer) β}
    {world : W} {m : α → W → Prop} {post : Except ε β → W → Prop}
    (first : Safe env rely guard m program world)
    (later : ∀ value after, m value after → Safe env rely guard post (next value).run after) :
    Safe env rely guard post (ExceptT.lift program >>= next).run world := by
  rw [Prog.run_lift_bind]
  exact seq refl first later

end Compose

end Safe

/-! ## Runs without interference -/

section Alone

variable {α β : Type w} {env : Environment Answer W} {guard : W → Call → Prop}
  {post : α → W → Prop}

/-- Safety when nobody else acts between two calls. -/
abbrev Alone (env : Environment Answer W) (guard : W → Call → Prop) (post : α → W → Prop)
    (program : Prog Answer α) (world : W) : Prop :=
  Safe env Eq guard post program world

namespace Alone

@[simp]
theorem ret_iff {value : α} {world : W} :
    Alone env guard post (.ret value) world ↔ post value world := by
  simp [Alone, Safe]

theorem call_iff {request : Call} {next : Answer request → Prog Answer α} {world : W} :
    Alone env guard post (.call request next) world ↔
      guard world request ∧ ∀ answer after, env world request answer after →
        Alone env guard post (next answer) after := by
  simp [Alone, Safe]

theorem perform_bind_iff {Answer : Call → Type w} {env : Environment Answer W}
    {request : Call} {next : Answer request → Prog Answer β} {world : W} {post : β → W → Prop} :
    Alone env guard post (Prog.perform request >>= next) world ↔
      guard world request ∧ ∀ answer after, env world request answer after →
        Alone env guard post (next answer) after :=
  call_iff

theorem bind {program : Prog Answer α} {next : α → Prog Answer β} {world : W}
    {post : β → W → Prop}
    (safe : Alone env guard (fun value after => Alone env guard post (next value) after)
      program world) :
    Alone env guard post (program >>= next) world :=
  Safe.bind (fun _ => rfl) safe

/-- Composition through an intermediate assertion. -/
theorem seq {program : Prog Answer α} {next : α → Prog Answer β} {world : W}
    {m : α → W → Prop} {post : β → W → Prop}
    (first : Alone env guard m program world)
    (later : ∀ value after, m value after → Alone env guard post (next value) after) :
    Alone env guard post (program >>= next) world :=
  bind (Safe.mono first later)

/-- Composition of programs that may return early with an error. -/
theorem run_seq {ε : Type w} {program : ExceptT ε (Prog Answer) α}
    {next : α → ExceptT ε (Prog Answer) β} {world : W} {m : Except ε α → W → Prop}
    {post : Except ε β → W → Prop} (first : Alone env guard m program.run world)
    (early : ∀ error after, m (.error error) after → post (.error error) after)
    (later : ∀ value after, m (.ok value) after →
      Alone env guard post (next value).run after) :
    Alone env guard post (program >>= next).run world := by
  refine seq first fun result after known => ?_
  rcases result with error | value
  · exact ret_iff.mpr (early error after known)
  · exact later value after known

/-- Composition after a program that cannot return early. -/
theorem lift_seq {ε : Type w} {program : Prog Answer α} {next : α → ExceptT ε (Prog Answer) β}
    {world : W} {m : α → W → Prop} {post : Except ε β → W → Prop}
    (first : Alone env guard m program world)
    (later : ∀ value after, m value after → Alone env guard post (next value).run after) :
    Alone env guard post (ExceptT.lift program >>= next).run world := by
  have lifted : Alone env guard (fun result after => ∃ value, result = .ok value ∧
      m value after) (ExceptT.lift program : ExceptT ε (Prog Answer) α).run world :=
    seq first fun value _ known => ret_iff.mpr ⟨value, rfl, known⟩
  refine run_seq lifted (fun _ _ known => ?_) fun result after known => ?_
  · obtain ⟨value, impossible, -⟩ := known
    cases impossible
  · obtain ⟨_, same, known⟩ := known
    cases same
    exact later result after known

end Alone

end Alone

/-! ## Complete runs -/

/-- A complete run of a program under an environment. -/
inductive Executes {α : Type w} (env : Environment Answer W) :
    Prog Answer α → W → α → W → Prop where
  | ret (value : α) (world : W) : Executes env (.ret value) world value world
  | call {request : Call} {next : Answer request → Prog Answer α} {world m final : W}
      {answer : Answer request} {value : α} (law : env world request answer m)
      (rest : Executes env (next answer) m value final) :
      Executes env (.call request next) world value final

theorem Executes.post {α : Type w} {env : Environment Answer W} {guard : W → Call → Prop}
    {post : α → W → Prop} {program : Prog Answer α} {world final : W} {value : α}
    (run : Executes env program world value final)
    (safe : Alone env guard post program world) : post value final := by
  induction run with
  | ret value world => exact Alone.ret_iff.mp safe
  | call law _ ih => exact ih ((Alone.call_iff.mp safe).2 _ _ law)

/-- An environment that is answered by a function has the run of that function. -/
theorem Executes.exec {α : Type w} {env : Environment Answer W}
    {answer : W → (request : Call) → Answer request × W}
    (obeys : ∀ world request, env world request (answer world request).1 (answer world request).2)
    (program : Prog Answer α) (world : W) :
    Executes env program world (program.exec answer world).1 (program.exec answer world).2 := by
  induction program generalizing world with
  | ret value => exact .ret value world
  | call request next ih => exact .call (obeys world request) (ih _ _)

end Interaction
