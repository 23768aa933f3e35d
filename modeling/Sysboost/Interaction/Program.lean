import Mathlib.Logic.Basic

/-!
# Programs that call typed ports

A program is a tree of port calls: it either has returned, or it makes one
call and goes on according to the answer.  Nothing is said here about what the
ports do; an environment relates a world, a call, an answer and the world
after it.  A program can therefore be stopped, resumed or abandoned between
any two calls.
-/

namespace Interaction

universe u v w

/-- A program over calls of type `Call`, where `Answer request` is the type of
answers to `request`. -/
inductive Prog {Call : Type u} (Answer : Call → Type v) (α : Type w) where
  | ret (value : α)
  | call (request : Call) (next : Answer request → Prog Answer α)

variable {Call : Type u} {Answer : Call → Type v} {α β γ : Type w}

namespace Prog

/-- Sequential composition. -/
def bind : Prog Answer α → (α → Prog Answer β) → Prog Answer β
  | ret value, next => next value
  | call request rest, next => call request fun answer => (rest answer).bind next

instance : Monad (Prog Answer) where
  pure := ret
  bind := bind

/-- The program that makes one call and returns its answer. -/
def perform {Answer : Call → Type w} (request : Call) : Prog Answer (Answer request) :=
  call request ret

@[simp]
theorem pure_eq_ret (value : α) : (pure value : Prog Answer α) = ret value :=
  rfl

@[simp]
theorem ret_bind (value : α) (next : α → Prog Answer β) :
    (ret value : Prog Answer α) >>= next = next value :=
  rfl

@[simp]
theorem call_bind (request : Call) (rest : Answer request → Prog Answer α)
    (next : α → Prog Answer β) :
    call request rest >>= next = call request fun answer => rest answer >>= next :=
  rfl

@[simp]
theorem perform_bind {Answer : Call → Type w} (request : Call)
    (next : Answer request → Prog Answer β) :
    perform request >>= next = call request next :=
  rfl

@[simp]
theorem bind_assoc (program : Prog Answer α) (first : α → Prog Answer β)
    (second : β → Prog Answer γ) :
    (program >>= first) >>= second = program >>= fun value => first value >>= second := by
  induction program with
  | ret value => rfl
  | call request rest ih => simp [ih]

theorem map_id_eq (program : Prog Answer α) : id <$> program = program := by
  induction program with
  | ret value => rfl
  | call request rest ih => exact congrArg (call request) (funext ih)

instance : LawfulMonad (Prog Answer) :=
  LawfulMonad.mk' (Prog Answer) map_id_eq (fun _ _ => rfl) bind_assoc

/-- A step that cannot return early, followed by steps that can. -/
theorem run_lift_bind {ε : Type w} (program : Prog Answer α)
    (next : α → ExceptT ε (Prog Answer) β) :
    (ExceptT.lift program >>= next).run = program >>= fun value => (next value).run := by
  induction program with
  | ret value => rfl
  | call request rest ih => exact congrArg (call request) (funext ih)

/-- The program with its calls made through a wider interface. -/
def embed {Call' : Type*} {Answer' : Call' → Type*} (inject : Call → Call')
    (back : ∀ request, Answer' (inject request) → Answer request) :
    Prog Answer α → Prog Answer' α
  | ret value => ret value
  | call request next => call (inject request) fun answer =>
      embed inject back (next (back request answer))

/-- The outcome under an environment that answers every call by a function. -/
def exec {W : Type*} (answer : W → (request : Call) → Answer request × W) :
    Prog Answer α → W → α × W
  | ret value, world => (value, world)
  | call request next, world =>
      exec answer (next (answer world request).1) (answer world request).2

section Exec

variable {W : Type*} {answer : W → (request : Call) → Answer request × W}

@[simp]
theorem exec_ret (value : α) (world : W) :
    exec answer (ret value : Prog Answer α) world = (value, world) :=
  rfl

@[simp]
theorem exec_call (request : Call) (next : Answer request → Prog Answer α) (world : W) :
    exec answer (call request next) world =
      exec answer (next (answer world request).1) (answer world request).2 :=
  rfl

theorem exec_bind (program : Prog Answer α) (next : α → Prog Answer β) (world : W) :
    exec answer (program >>= next) world =
      exec answer (next (exec answer program world).1) (exec answer program world).2 := by
  induction program generalizing world with
  | ret value => rfl
  | call request rest ih => simp [ih]

/-- The outcome of a step that can return early, followed by more steps. -/
theorem exec_run_bind {ε : Type w} (program : ExceptT ε (Prog Answer) α)
    (next : α → ExceptT ε (Prog Answer) β) (world : W) :
    exec answer (program >>= next).run world =
      match exec answer program.run world with
      | (.ok value, after) => exec answer (next value).run after
      | (.error error, after) => (.error error, after) := by
  rw [ExceptT.run_bind, exec_bind]
  obtain ⟨result, after⟩ := exec answer program.run world
  cases result with
  | error error => rfl
  | ok value => rfl

/-- Go on after a step whose outcome is known. -/
theorem exec_run_seq {ε : Type w} {program : ExceptT ε (Prog Answer) α}
    {next : α → ExceptT ε (Prog Answer) β} {world after : W} {value : α}
    (first : exec answer program.run world = (.ok value, after)) :
    exec answer (program >>= next).run world = exec answer (next value).run after := by
  rw [exec_run_bind, first]

/-- Nothing is done after a step that returns early. -/
theorem exec_run_stop {ε : Type w} {program : ExceptT ε (Prog Answer) α}
    {next : α → ExceptT ε (Prog Answer) β} {world after : W} {error : ε}
    (first : exec answer program.run world = (.error error, after)) :
    exec answer (program >>= next).run world = (.error error, after) := by
  rw [exec_run_bind, first]

/-- A program that cannot return early and whose outcome is known. -/
theorem exec_lift {ε : Type w} {program : Prog Answer α} {world after : W} {value : α}
    (known : exec answer program world = (value, after)) :
    exec answer (ExceptT.lift program : ExceptT ε (Prog Answer) α).run world =
      (.ok value, after) := by
  change exec answer (program >>= fun value => Prog.ret (Except.ok value)) world = _
  rw [exec_bind, known]
  rfl

/-- A wider interface that answers the calls of a narrower one as it does. -/
theorem exec_embed {Call' : Type*} {Answer' : Call' → Type*} {W' : Type*}
    {answer' : W' → (request : Call') → Answer' request × W'} (inject : Call → Call')
    (back : ∀ request, Answer' (inject request) → Answer request) (widen : W → W')
    (agrees : ∀ world request,
      back request (answer' (widen world) (inject request)).1 = (answer world request).1 ∧
        (answer' (widen world) (inject request)).2 = widen (answer world request).2)
    (program : Prog Answer α) (world : W) :
    exec answer' (program.embed inject back) (widen world) =
      ((exec answer program world).1, widen (exec answer program world).2) := by
  induction program generalizing world with
  | ret value => rfl
  | call request next ih =>
      obtain ⟨same, after⟩ := agrees world request
      simp only [embed, exec_call, same, after, ih]

theorem exec_run_bind_ok {ε : Type w} {program : ExceptT ε (Prog Answer) α}
    {next : α → ExceptT ε (Prog Answer) β} {world : W} {result : β}
    (ok : (exec answer (program >>= next).run world).1 = .ok result) :
    ∃ value, (exec answer program.run world).1 = .ok value ∧
      (exec answer (next value).run (exec answer program.run world).2).1 = .ok result := by
  rw [exec_run_bind] at ok
  generalize exec answer program.run world = outcome at ok ⊢
  obtain ⟨_ | value, after⟩ := outcome
  · cases ok
  · exact ⟨value, rfl, ok⟩

/-- A loop of checks that has returned has made each of them. -/
theorem exec_forM_ok {ε ι : Type w} {check : ι → ExceptT ε (Prog Answer) PUnit}
    {items : List ι} {world : W} (ok : (exec answer (items.forM check).run world).1 = .ok ⟨⟩) :
    ∀ item ∈ items, ∃ before, (exec answer (check item).run before).1 = .ok ⟨⟩ := by
  induction items generalizing world with
  | nil => simp
  | cons first rest ih =>
      have both : (exec answer (check first >>= fun _ => rest.forM check).run world).1 = .ok ⟨⟩ := ok
      obtain ⟨⟨⟩, firstOk, restOk⟩ := exec_run_bind_ok both
      intro item known
      rcases List.mem_cons.mp known with rfl | known
      · exact ⟨world, firstOk⟩
      · exact ih restOk item known

/-- The rest of the program after its first calls, and the world then. -/
def advance (answer : W → (request : Call) → Answer request × W) :
    Nat → Prog Answer α → W → Prog Answer α × W
  | calls + 1, call request next, world =>
      advance answer calls (next (answer world request).1) (answer world request).2
  | _, rest, world => (rest, world)

end Exec

end Prog

end Interaction
