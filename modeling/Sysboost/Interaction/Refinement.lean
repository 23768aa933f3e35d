import Sysboost.Interaction.Contracts
import Sysboost.Interaction.Runs

/-!
# Services whose calls are served by programs

A service can make its calls through programs over another interface.  A relation
between the two worlds is a refinement when each of these programs, wherever it is
stopped, has done nothing that can be seen or what one call of the upper service
does.  Then every run of the lower service is explained by a run of the upper one.
-/

namespace Interaction

universe u v w x y

/-! ## Stopped programs -/

section Stopped

variable {Call : Type u} {Answer : Call → Type v} {W : Type x} {α : Type w}

/-- A run of the program can be stopped with this rest of it in this world. -/
inductive Stops (env : Environment Answer W) :
    Prog Answer α → W → Prog Answer α → W → Prop
  | here (program : Prog Answer α) (world : W) : Stops env program world program world
  | call {request : Call} {next : Answer request → Prog Answer α} {answer : Answer request}
      {world middle after : W} {rest : Prog Answer α}
      (law : env world request answer middle) (stops : Stops env (next answer) middle rest after) :
      Stops env (.call request next) world rest after

/-- One more call. -/
theorem Stops.tail {env : Environment Answer W} {program : Prog Answer α} {world after : W}
    {request : Call} {next : Answer request → Prog Answer α} {answer : Answer request} {last : W}
    (stops : Stops env program world (.call request next) after)
    (law : env after request answer last) : Stops env program world (next answer) last := by
  generalize stopped : Prog.call request next = rest at stops
  induction stops with
  | here program world =>
      subst stopped
      exact .call law (.here _ _)
  | call first _ ih => exact .call first (ih law stopped)

/-- A run in which every call is answered by a function can be stopped after any
number of calls. -/
theorem Stops.advance {env : Environment Answer W}
    {answer : W → (request : Call) → Answer request × W}
    (obeys : ∀ world request, env world request (answer world request).1 (answer world request).2)
    (calls : Nat) (program : Prog Answer α) (world : W) :
    Stops env program world (program.advance answer calls world).1
      (program.advance answer calls world).2 := by
  induction calls generalizing program world with
  | zero => cases program <;> exact .here _ _
  | succ calls ih =>
      cases program with
      | ret value => exact .here _ _
      | call request next => exact .call (obeys world request) (ih _ _)

/-- A program of one call stops before it or has returned. -/
theorem Stops.of_perform {Answer : Call → Type v} {env : Environment Answer W} {made request : Call}
    {next : Answer request → Prog Answer (Answer made)} {world after : W}
    (stops : Stops env (Prog.perform made) world (.call request next) after) :
    request = made ∧ after = world := by
  cases stops with
  | here => exact ⟨rfl, rfl⟩
  | call law stops => cases stops

/-- A stopped program still makes allowed calls only. -/
theorem Stops.within {env : Environment Answer W} {allowed : Call → Prop} {post : α → Prop}
    {program rest : Prog Answer α} {world after : W} (stops : Stops env program world rest after)
    (within : Within allowed post program) : Within allowed post rest := by
  induction stops with
  | here program world => exact within
  | @call request next answer world middle after rest law _ ih => exact ih (within.2 answer)

/-- The rest of a stopped program is safe. -/
theorem Stops.safe {env : Environment Answer W} {guard : W → Call → Prop} {post : α → W → Prop}
    {program rest : Prog Answer α} {world after : W} (stops : Stops env program world rest after)
    (safe : Alone env guard post program world) : Alone env guard post rest after := by
  induction stops with
  | here program world => exact safe
  | call law _ ih => exact ih ((Alone.call_iff.mp safe).2 _ _ law)

/-- What is asserted at every call and of the result holds wherever a program stops. -/
theorem Stops.assertion {env : Environment Answer W} {p : W → Prop} {post : α → W → Prop}
    {program rest : Prog Answer α} {world after : W} (stops : Stops env program world rest after)
    (safe : Alone env (fun world _ => p world) post program world)
    (returned : ∀ value world, post value world → p world) : p after := by
  have left := stops.safe safe
  cases rest with
  | ret value => exact returned value after (Alone.ret_iff.mp left)
  | call request next => exact (Alone.call_iff.mp left).1

/-- What is asserted at every call may be assumed of its answer. -/
theorem Alone.assume {env : Environment Answer W} {guard guard' : W → Call → Prop}
    {post post' : α → W → Prop} {program : Prog Answer α} {world : W}
    (safe : Alone env guard post program world)
    (assuming : Alone (fun world request answer after =>
      guard world request ∧ env world request answer after) guard' post' program world) :
    Alone env guard' post' program world := by
  induction program generalizing world with
  | ret value => exact Alone.ret_iff.mpr (Alone.ret_iff.mp assuming)
  | call request next ih =>
      rcases Alone.call_iff.mp safe with ⟨guarded, rest⟩
      rcases Alone.call_iff.mp assuming with ⟨guarded', rest'⟩
      apply Alone.call_iff.mpr
      constructor
      · exact guarded'
      · exact fun answer after law => ih answer (rest _ _ law) (rest' _ _ ⟨guarded, law⟩)

/-- A program is safe in a wider world when it is safe in the part it acts on. -/
theorem Alone.view {W' : Type y} {env : Environment Answer W} {env' : Environment Answer W'}
    (view : W' → W) {guard : W → Call → Prop} {post : α → W → Prop} {program : Prog Answer α}
    {world : W'}
    (acts : ∀ world request answer after, env' world request answer after →
      env (view world) request answer (view after))
    (safe : Alone env guard post program (view world)) :
    Alone env' (fun world request => guard (view world) request)
      (fun value after => post value (view after)) program world := by
  induction program generalizing world with
  | ret value => exact Alone.ret_iff.mpr (Alone.ret_iff.mp safe)
  | call request next ih =>
      rcases Alone.call_iff.mp safe with ⟨guarded, rest⟩
      apply Alone.call_iff.mpr
      constructor
      · exact guarded
      · exact fun answer after law => ih answer (rest answer _ (acts _ _ _ _ law))

end Stopped

/-! ## Runs with answers that pass a check -/

section Passing

variable {Call : Type u} {Answer : Call → Type v} {W : Type x} {α : Type w}

/-- Every answer that the program gets passes the check. -/
def Prog.passes (check : (request : Call) → Answer request → Bool)
    (answer : W → (request : Call) → Answer request × W) : Prog Answer α → W → Bool
  | .ret _, _ => true
  | .call request next, world => check request (answer world request).1 &&
      (next (answer world request).1).passes check answer (answer world request).2

theorem Executes.of_passes {env : Environment Answer W}
    {answer : W → (request : Call) → Answer request × W}
    (obeys : ∀ world request, env world request (answer world request).1 (answer world request).2)
    {check : (request : Call) → Answer request → Bool} {program : Prog Answer α} {world : W}
    (passes : program.passes check answer world = true) :
    Executes (fun before request given after => env before request given after ∧
        check request given = true) program world
      (program.exec answer world).1 (program.exec answer world).2 := by
  induction program generalizing world with
  | ret value => exact .ret value world
  | call request next ih =>
      rw [Prog.passes, Bool.and_eq_true] at passes
      exact .call ⟨obeys world request, passes.1⟩ (ih _ passes.2)

end Passing

/-! ## Terms in a world -/

section Terms

variable {Call : Type u} {Answer : Call → Type w} {W : Type x} {α : Type w} {post : α → Prop}
  {program : Prog Answer α}

/-- Terms that allow more and promise more. -/
theorem Obeys.weaken {terms terms' : Terms Answer} (obeys : Obeys terms post program)
    (allowed : ∀ request, terms.allowed request → terms'.allowed request)
    (promised : ∀ request answer, terms'.promised request answer → terms.promised request answer) :
    Obeys terms' post program := by
  induction program with
  | ret value => exact obeys
  | call request next ih =>
      constructor
      · exact allowed request obeys.1
      · exact fun answer known => ih answer (obeys.2 answer (promised request answer known))

/-- A program that obeys terms is safe in a world where the promises are kept. -/
theorem Obeys.alone {env : Environment Answer W} {terms : Terms Answer} {invariant : W → Prop}
    {world : W} (obeys : Obeys terms post program)
    (keeps : ∀ world request answer after, invariant world → terms.allowed request →
      env world request answer after → terms.promised request answer ∧ invariant after)
    (holds : invariant world) :
    Alone env (fun world request => terms.allowed request ∧ invariant world)
      (fun value after => post value ∧ invariant after) program world := by
  induction program generalizing world with
  | ret value => exact Alone.ret_iff.mpr ⟨obeys, holds⟩
  | call request next ih =>
      apply Alone.call_iff.mpr
      constructor
      · exact ⟨obeys.1, holds⟩
      · intro answer after law
        rcases keeps _ _ _ _ holds obeys.1 law with ⟨promised, holds⟩
        exact ih answer (obeys.2 answer promised) holds

end Terms

/-! ## Refinement -/

namespace Service

variable {Call : Type u} {Answer : Call → Type w} {Call' : Type v} {Answer' : Call' → Type w}
  {Party Request Reply : Type w} {W : Type x} {W' : Type y}

/-- A service that serves fewer requests in an environment that does less. -/
theorem SerialReachable.forget {Request' : Type w} {forget : Request' → Request}
    {fewer : Service Answer Party Request' Reply W} {service : Service Answer Party Request Reply W}
    {initial : W} (program : ∀ request, fewer.program request = service.program (forget request))
    (env : ∀ {party world made answer after}, fewer.env party world made answer after →
      service.env party world made answer after)
    (issue : ∀ {party request world},
      fewer.issue party request world = service.issue party (forget request) world)
    (reply : ∀ {party request result world},
      fewer.reply party request result world = service.reply party (forget request) result world)
    (stop : ∀ {party world}, fewer.stop party world = service.stop party world)
    {state : Serial Answer Party Request' Reply W} (reachable : SerialReachable fewer initial state) :
    SerialReachable service initial ⟨state.world,
      state.current.map fun serving => (serving.1, forget serving.2.1, serving.2.2)⟩ := by
  induction reachable with
  | refl => exact .refl
  | tail _ step ih =>
      cases step with
      | start party request world =>
          rw [program, issue]
          exact ih.tail (.start party (forget request) world)
      | call law => exact ih.tail (.call (env law))
      | finish party request result world =>
          rw [reply]
          exact ih.tail (.finish party (forget request) result world)
      | stop party request rest world =>
          rw [stop]
          exact ih.tail (.stop party (forget request) rest world)
      | leave party world =>
          rw [stop]
          exact ih.tail (.leave party world)

/-- The obligations: the lower service runs the programs of the upper one, and
each call is served by a program that does, as far as can be seen, nothing or what
the call does. -/
structure Implements (lower : Service Answer' Party Request Reply W')
    (upper : Service Answer Party Request Reply W)
    (serve : (request : Call) → Prog Answer' (Answer request))
    (guard : Party → W → Call → Prop) (related : W' → W → Prop) : Prop where
  program : ∀ request, lower.program request = (upper.program request).via serve
  issue : ∀ {party request low high}, related low high →
    related (lower.issue party request low) (upper.issue party request high)
  reply : ∀ {party request result low high}, related low high →
    related (lower.reply party request result low) (upper.reply party request result high)
  stop : ∀ {party low high}, related low high →
    related (lower.stop party low) (upper.stop party high)
  serves : ∀ {party made low high}, guard party high made → related low high →
    Alone (lower.env party)
      (fun now _ => related now high ∨
        ∃ answer after, upper.env party high made answer after ∧ related now after)
      (fun answer now => ∃ after, upper.env party high made answer after ∧ related now after)
      (serve made) low

section Rest

variable {upper : Service Answer Party Request Reply W}
  {lower : Service Answer' Party Request Reply W'}
  {serve : (request : Call) → Prog Answer' (Answer request)}
  {guard : Party → W → Call → Prop} {related : W' → W → Prop}

/-- The rest of a lower program stands for the rest of an upper one: it has
returned, or it is about to make a call while it serves one. -/
inductive Stands (lower : Service Answer' Party Request Reply W')
    (upper : Service Answer Party Request Reply W)
    (serve : (request : Call) → Prog Answer' (Answer request)) (related : W' → W → Prop)
    (party : Party) (high : W) (low : W') : Prog Answer Reply → Prog Answer' Reply → Prop
  | returned {result : Reply} (same : related low high) :
      Stands lower upper serve related party high low (.ret result) (.ret result)
  | serving {made : Call} {next : Answer made → Prog Answer Reply} {inner : Call'}
      {more : Answer' inner → Prog Answer' (Answer made)} {start : W'} (same : related start high)
      (stops : Stops (lower.env party) (serve made) start (.call inner more) low)
      (serves : Alone (lower.env party)
        (fun now _ => related now high ∨
          ∃ answer after, upper.env party high made answer after ∧ related now after)
        (fun answer now => ∃ after, upper.env party high made answer after ∧ related now after)
        (.call inner more) low) :
      Stands lower upper serve related party high low (.call made next)
        (.call inner fun answer => more answer >>= fun answer => (next answer).via serve)

/-- What is known of a state of the lower service. -/
def Explained (lower : Service Answer' Party Request Reply W')
    (upper : Service Answer Party Request Reply W)
    (serve : (request : Call) → Prog Answer' (Answer request)) (related : W' → W → Prop)
    (initial : W) : Serial Answer' Party Request Reply W' → Prop
  | ⟨low, none⟩ => ∃ high, SerialReachable upper initial ⟨high, none⟩ ∧ related low high
  | ⟨low, some (party, request, rest)⟩ => ∃ high above,
      SerialReachable upper initial ⟨high, some (party, request, above)⟩ ∧
        Stands lower upper serve related party high low above rest

theorem explained_serving_iff {initial : W} {low : W'} {party : Party} {request : Request}
    {rest : Prog Answer' Reply} :
    Explained lower upper serve related initial ⟨low, some (party, request, rest)⟩ ↔
      ∃ high above, SerialReachable upper initial ⟨high, some (party, request, above)⟩ ∧
        Stands lower upper serve related party high low above rest :=
  Iff.rfl

namespace Implements

variable (implements : Implements lower upper serve guard related) {initial : W}
  (good : ∀ {state}, SerialReachable upper initial state → ∀ {party request made next},
    state.current = some (party, request, .call made next) → guard party state.world made)

include implements good

/-- The upper service catches up with a program that has served its calls so far. -/
theorem catchUp {party : Party} {request : Request} {above : Prog Answer Reply} {high : W}
    {low : W'} (reachable : SerialReachable upper initial ⟨high, some (party, request, above)⟩)
    (same : related low high) :
    Explained lower upper serve related initial ⟨low, some (party, request, above.via serve)⟩ := by
  induction above generalizing high with
  | ret result => exact explained_serving_iff.mpr ⟨high, .ret result, reachable, .returned same⟩
  | call made next ih =>
      have serves := implements.serves (good reachable rfl) same
      change Explained lower upper serve related initial ⟨low, some (party, request,
        serve made >>= fun answer => (next answer).via serve)⟩
      generalize served : serve made = program at serves ⊢
      cases program with
      | ret answer =>
          rcases Alone.ret_iff.mp serves with ⟨after, law, same⟩
          exact ih answer (reachable.tail (.call law)) same
      | call inner more =>
          have stops : Stops (lower.env party) (serve made) low (.call inner more) low := by
            rw [served]
            exact .here _ _
          exact explained_serving_iff.mpr
            ⟨high, .call made next, reachable, .serving same stops serves⟩

theorem step {before after : Serial Answer' Party Request Reply W'}
    (explained : Explained lower upper serve related initial before)
    (step : SerialStep lower before after) :
    Explained lower upper serve related initial after := by
  cases step with
  | start party request low =>
      rcases explained with ⟨high, reachable, same⟩
      rw [implements.program]
      exact implements.catchUp good (reachable.start party request) (implements.issue same)
  | @call party request low now made next answer law =>
      rcases explained with ⟨high, above, reachable, stands⟩
      cases stands with
      | @serving outer later _ more start same stops serves =>
          have rest := (Alone.call_iff.mp serves).2 answer now law
          have stopped := stops.tail law
          change Explained lower upper serve related initial ⟨now, some (party, request,
            more answer >>= fun answer => (later answer).via serve)⟩
          generalize more answer = program at rest stopped ⊢
          cases program with
          | ret value =>
              rcases Alone.ret_iff.mp rest with ⟨left, law, same⟩
              exact implements.catchUp good (reachable.tail (.call law)) same
          | call inner further =>
              exact explained_serving_iff.mpr ⟨high, _, reachable, .serving same stopped rest⟩
  | finish party request result low =>
      rcases explained with ⟨high, above, reachable, stands⟩
      cases stands with
      | returned same =>
          exact ⟨_, reachable.tail (.finish party request result high), implements.reply same⟩
  | stop party request rest low =>
      rcases explained with ⟨high, above, reachable, stands⟩
      cases stands with
      | returned same =>
          exact ⟨_, reachable.tail (.stop party request _ high), implements.stop same⟩
      | serving _ _ serves =>
          rcases (Alone.call_iff.mp serves).1 with same | ⟨answer, left, law, same⟩
          · exact ⟨_, reachable.tail (.stop party request _ high), implements.stop same⟩
          · exact ⟨_, (reachable.tail (.call law)).tail (.stop party request _ left),
              implements.stop same⟩
  | leave party low =>
      rcases explained with ⟨high, reachable, same⟩
      exact ⟨_, reachable.tail (.leave party high), implements.stop same⟩

/-- Every run of the lower service is explained by a run of the upper one. -/
theorem explained {start : W'} (same : related start initial)
    {state : Serial Answer' Party Request Reply W'}
    (reachable : SerialReachable lower start state) :
    Explained lower upper serve related initial state := by
  induction reachable with
  | refl => exact ⟨initial, .refl, same⟩
  | tail _ step ih => exact implements.step good ih step

end Implements

end Rest

/-- The world of an explained state is that of a state of the upper service. -/
theorem Explained.related {upper : Service Answer Party Request Reply W}
    {lower : Service Answer' Party Request Reply W'}
    {serve : (request : Call) → Prog Answer' (Answer request)} {related : W' → W → Prop}
    {initial : W} {state : Serial Answer' Party Request Reply W'}
    (explained : Explained lower upper serve related initial state) :
    ∃ above, SerialReachable upper initial above ∧ related state.world above.world := by
  rcases state with ⟨low, _ | ⟨party, request, rest⟩⟩
  · rcases explained with ⟨high, reachable, same⟩
    exact ⟨⟨high, none⟩, reachable, same⟩
  · rcases explained with ⟨high, above, reachable, stands⟩
    cases stands with
    | returned same => exact ⟨_, reachable, same⟩
    | serving _ _ serves =>
        rcases (Alone.call_iff.mp serves).1 with same | ⟨answer, left, law, same⟩
        · exact ⟨_, reachable, same⟩
        · exact ⟨_, reachable.tail (.call law), same⟩

end Service

end Interaction
