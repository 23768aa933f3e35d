import Sysboost.Interaction.Safety
import Mathlib.Logic.Function.Basic

/-!
# Runs of a service

A service answers requests with programs.  In a serial run one party at a time
serves a request, and it can stop between any two calls; in a concurrent run
any number of parties make their calls in any order.  The two invariant rules
reduce a property of all reachable states to one safety judgement for each
kind of request.
-/

namespace Interaction

universe u v w x y

/-- Programs for requests, the environment each party runs in, and what a
request, its reply and a stopped party do to the world. -/
structure Service {Call : Type u} (Answer : Call → Type v) (Party : Type w) (Request : Type w)
    (Reply : Type w) (W : Type x) where
  program : Request → Prog Answer Reply
  env : Party → Environment Answer W
  issue : Party → Request → W → W
  reply : Party → Request → Reply → W → W
  stop : Party → W → W

variable {Call : Type u} {Answer : Call → Type v} {Party Request Reply : Type w} {W : Type x}

namespace Service

/-! ## One party at a time -/

/-- The world and the request in service, with the rest of its program. -/
structure Serial (Answer : Call → Type v) (Party Request Reply : Type w) (W : Type x) where
  world : W
  current : Option (Party × Request × Prog Answer Reply)

/-- One step of a serial run. -/
inductive SerialStep (service : Service Answer Party Request Reply W) :
    Serial Answer Party Request Reply W → Serial Answer Party Request Reply W → Prop
  | start (party : Party) (request : Request) (world : W) :
      SerialStep service ⟨world, none⟩
        ⟨service.issue party request world, some (party, request, service.program request)⟩
  | call {party : Party} {request : Request} {world after : W} {made : Call}
      {next : Answer made → Prog Answer Reply} {answer : Answer made}
      (law : service.env party world made answer after) :
      SerialStep service ⟨world, some (party, request, .call made next)⟩
        ⟨after, some (party, request, next answer)⟩
  | finish (party : Party) (request : Request) (result : Reply) (world : W) :
      SerialStep service ⟨world, some (party, request, .ret result)⟩
        ⟨service.reply party request result world, none⟩
  | stop (party : Party) (request : Request) (rest : Prog Answer Reply) (world : W) :
      SerialStep service ⟨world, some (party, request, rest)⟩ ⟨service.stop party world, none⟩
  | leave (party : Party) (world : W) :
      SerialStep service ⟨world, none⟩ ⟨service.stop party world, none⟩

/-- The states a serial run from `initial` can reach. -/
def SerialReachable (service : Service Answer Party Request Reply W) (initial : W) :
    Serial Answer Party Request Reply W → Prop :=
  Relation.ReflTransGen (SerialStep service) ⟨initial, none⟩

/-- What is known of a serial state: the invariant when no request is served,
and otherwise the safety of the rest of the program. -/
def SerialGood (service : Service Answer Party Request Reply W) (invariant : W → Prop)
    (guard : Party → W → Call → Prop) : Serial Answer Party Request Reply W → Prop
  | ⟨world, none⟩ => invariant world
  | ⟨world, some (party, request, rest)⟩ =>
      Alone (service.env party) (fun world made => invariant world ∧ guard party world made)
        (fun result world =>
          invariant world ∧ invariant (service.reply party request result world)) rest world

theorem serialGood_serving_iff {service : Service Answer Party Request Reply W}
    {invariant : W → Prop} {guard : Party → W → Call → Prop} {world : W} {party : Party}
    {request : Request} {rest : Prog Answer Reply} :
    SerialGood service invariant guard ⟨world, some (party, request, rest)⟩ ↔
      Alone (service.env party) (fun world made => invariant world ∧ guard party world made)
        (fun result world =>
          invariant world ∧ invariant (service.reply party request result world)) rest world :=
  Iff.rfl

/-- The invariant holds wherever a run can be stopped. -/
theorem SerialGood.invariant {service : Service Answer Party Request Reply W}
    {invariant : W → Prop} {guard : Party → W → Call → Prop}
    {state : Serial Answer Party Request Reply W}
    (good : SerialGood service invariant guard state) : invariant state.world := by
  rcases state with ⟨world, _ | ⟨party, request, rest⟩⟩
  · exact good
  · rw [serialGood_serving_iff] at good
    cases rest with
    | ret result => exact (Alone.ret_iff.mp good).1
    | call made next => exact (Alone.call_iff.mp good).1.1

/-- The invariant rule for serial runs. -/
theorem SerialReachable.good {service : Service Answer Party Request Reply W}
    {invariant : W → Prop} {guard : Party → W → Call → Prop} {initial : W}
    (start : invariant initial)
    (requests : ∀ party request world, invariant world →
      SerialGood service invariant guard
        ⟨service.issue party request world, some (party, request, service.program request)⟩)
    (stops : ∀ party world, invariant world → invariant (service.stop party world))
    {state : Serial Answer Party Request Reply W}
    (reachable : SerialReachable service initial state) :
    SerialGood service invariant guard state := by
  induction reachable with
  | refl => exact start
  | tail _ step ih =>
      cases step with
      | start party request world => exact requests party request world ih
      | call law => exact (Alone.call_iff.mp (serialGood_serving_iff.mp ih)).2 _ _ law
      | finish party request result world =>
          exact (Alone.ret_iff.mp (serialGood_serving_iff.mp ih)).2
      | stop party request rest world => exact stops party world ih.invariant
      | leave party world => exact stops party world ih

/-! ### Building runs -/

namespace SerialReachable

variable {service : Service Answer Party Request Reply W} {initial world : W} {party : Party}
  {request : Request} {rest : Prog Answer Reply}

theorem executes {result : Reply} {final : W}
    (reachable : SerialReachable service initial ⟨world, some (party, request, rest)⟩)
    (run : Executes (service.env party) rest world result final) :
    SerialReachable service initial ⟨final, some (party, request, .ret result)⟩ := by
  induction run with
  | ret value world => exact reachable
  | call law _ ih => exact ih (reachable.tail (.call law))

theorem start (reachable : SerialReachable service initial ⟨world, none⟩) (party : Party)
    (request : Request) :
    SerialReachable service initial
      ⟨service.issue party request world, some (party, request, service.program request)⟩ :=
  reachable.tail (.start party request world)

/-- A request is served to its end. -/
theorem serve {result : Reply} {final : W}
    (reachable : SerialReachable service initial ⟨world, none⟩)
    (run : Executes (service.env party) (service.program request)
      (service.issue party request world) result final) :
    SerialReachable service initial ⟨service.reply party request result final, none⟩ :=
  ((reachable.start party request).executes run).tail (.finish party request result final)

/-- A request is served for some calls. -/
theorem advance {answer : W → (request : Call) → Answer request × W}
    (obeys : ∀ world made, service.env party world made (answer world made).1
      (answer world made).2) (calls : Nat)
    (reachable : SerialReachable service initial ⟨world, some (party, request, rest)⟩) :
    SerialReachable service initial ⟨(rest.advance answer calls world).2,
      some (party, request, (rest.advance answer calls world).1)⟩ := by
  induction calls generalizing rest world with
  | zero => cases rest <;> exact reachable
  | succ calls ih =>
      cases rest with
      | ret value => exact reachable
      | call made next => exact ih (reachable.tail (.call (obeys world made)))

end SerialReachable

/-! ## Any number of parties at once -/

/-- The world and what every party is doing. -/
structure Concurrent (Answer : Call → Type v) (Party Request Reply : Type w) (W : Type x) where
  world : W
  running : Party → Option (Request × Prog Answer Reply)

section Concurrent

variable [DecidableEq Party]

/-- One step of one party in a concurrent run. -/
inductive ConcurrentStep (service : Service Answer Party Request Reply W) :
    Concurrent Answer Party Request Reply W → Concurrent Answer Party Request Reply W → Prop
  | start {state : Concurrent Answer Party Request Reply W} {party : Party} (request : Request)
      (idle : state.running party = none) :
      ConcurrentStep service state ⟨service.issue party request state.world,
        Function.update state.running party (some (request, service.program request))⟩
  | call {state : Concurrent Answer Party Request Reply W} {party : Party} {request : Request}
      {after : W} {made : Call} {next : Answer made → Prog Answer Reply} {answer : Answer made}
      (serves : state.running party = some (request, .call made next))
      (law : service.env party state.world made answer after) :
      ConcurrentStep service state
        ⟨after, Function.update state.running party (some (request, next answer))⟩
  | finish {state : Concurrent Answer Party Request Reply W} {party : Party} {request : Request}
      {result : Reply} (serves : state.running party = some (request, .ret result)) :
      ConcurrentStep service state ⟨service.reply party request result state.world,
        Function.update state.running party none⟩
  | stop (state : Concurrent Answer Party Request Reply W) (party : Party) :
      ConcurrentStep service state ⟨service.stop party state.world,
        Function.update state.running party none⟩

/-- The states a concurrent run from `initial` can reach. -/
def ConcurrentReachable (service : Service Answer Party Request Reply W) (initial : W) :
    Concurrent Answer Party Request Reply W → Prop :=
  Relation.ReflTransGen (ConcurrentStep service) ⟨initial, fun _ => none⟩

/-! ### Building runs -/

namespace ConcurrentReachable

variable {service : Service Answer Party Request Reply W} {initial world : W} {party : Party}
  {running : Party → Option (Request × Prog Answer Reply)} {request : Request}
  {rest : Prog Answer Reply}

theorem executes {result : Reply} {final : W}
    (reachable : ConcurrentReachable service initial
      ⟨world, Function.update running party (some (request, rest))⟩)
    (run : Executes (service.env party) rest world result final) :
    ConcurrentReachable service initial
      ⟨final, Function.update running party (some (request, .ret result))⟩ := by
  induction run with
  | ret value world => exact reachable
  | call law _ ih =>
      have made := reachable.tail (.call (Function.update_self ..) law)
      rw [Function.update_idem] at made
      exact ih made

theorem start (reachable : ConcurrentReachable service initial ⟨world, running⟩) (party : Party)
    (idle : running party = none) (request : Request) :
    ConcurrentReachable service initial ⟨service.issue party request world,
      Function.update running party (some (request, service.program request))⟩ :=
  reachable.tail (.start request idle)

/-- A party makes some calls while the others wait. -/
theorem advance {answer : W → (request : Call) → Answer request × W}
    (obeys : ∀ world made, service.env party world made (answer world made).1
      (answer world made).2) (calls : Nat)
    (reachable : ConcurrentReachable service initial
      ⟨world, Function.update running party (some (request, rest))⟩) :
    ConcurrentReachable service initial ⟨(rest.advance answer calls world).2,
      Function.update running party (some (request, (rest.advance answer calls world).1))⟩ := by
  induction calls generalizing rest world with
  | zero => cases rest <;> exact reachable
  | succ calls ih =>
      cases rest with
      | ret value => exact reachable
      | call made next =>
          have one := reachable.tail (.call (Function.update_self ..) (obeys world made))
          rw [Function.update_idem] at one
          exact ih one

/-- A party that serves no request stops. -/
theorem leave (idle : running party = none)
    (reachable : ConcurrentReachable service initial ⟨world, running⟩) :
    ConcurrentReachable service initial ⟨service.stop party world, running⟩ := by
  have same : Function.update running party none = running := by
    rw [← idle, Function.update_eq_self]
  have stopped := reachable.tail (.stop _ party)
  rwa [same] at stopped

/-- A party stops while it serves a request. -/
theorem abandon {doing : Option (Request × Prog Answer Reply)} (idle : running party = none)
    (reachable : ConcurrentReachable service initial
      ⟨world, Function.update running party doing⟩) :
    ConcurrentReachable service initial ⟨service.stop party world, running⟩ := by
  have stopped := reachable.tail (.stop _ party)
  have left : Function.update (Function.update running party doing) party none = running := by
    rw [Function.update_idem, ← idle, Function.update_eq_self]
  rw [left] at stopped
  exact stopped

/-- A party serves the rest of a request while the others wait. -/
theorem complete {result : Reply} {final : W} (idle : running party = none)
    (reachable : ConcurrentReachable service initial
      ⟨world, Function.update running party (some (request, rest))⟩)
    (run : Executes (service.env party) rest world result final) :
    ConcurrentReachable service initial ⟨service.reply party request result final, running⟩ := by
  have left : Function.update (Function.update running party (some (request, .ret result)))
      party none = running := by
    rw [Function.update_idem, ← idle, Function.update_eq_self]
  have finished := (executes reachable run).tail (.finish (Function.update_self ..))
  rw [left] at finished
  exact finished

/-- A party serves a request to its end while the others wait. -/
theorem serve {result : Reply} {final : W} (idle : running party = none)
    (reachable : ConcurrentReachable service initial ⟨world, running⟩)
    (run : Executes (service.env party) (service.program request)
      (service.issue party request world) result final) :
    ConcurrentReachable service initial ⟨service.reply party request result final, running⟩ :=
  complete idle (start reachable party idle request) run

end ConcurrentReachable

end Concurrent

/-- What each party relies on and guarantees. -/
structure Contract (service : Service Answer Party Request Reply W) where
  /-- Holds in every state. -/
  invariant : W → Prop
  /-- Holds of a party that serves no request. -/
  idle : Party → W → Prop
  /-- What the steps of other parties may do. -/
  rely : Party → W → W → Prop
  /-- What a party may call. -/
  guard : Party → W → Call → Prop

namespace Contract

variable {service : Service Answer Party Request Reply W}

/-- A party is idle, or the rest of its program is safe. -/
def Keeps (contract : Contract service) (party : Party) (world : W) :
    Option (Request × Prog Answer Reply) → Prop
  | none => contract.idle party world
  | some (request, rest) =>
      Safe (service.env party) (contract.rely party) (contract.guard party)
        (fun result world => contract.idle party (service.reply party request result world))
        rest world

theorem keeps_serving_iff {contract : Contract service} {party : Party} {world : W}
    {request : Request} {rest : Prog Answer Reply} :
    contract.Keeps party world (some (request, rest)) ↔
      Safe (service.env party) (contract.rely party) (contract.guard party)
        (fun result world => contract.idle party (service.reply party request result world))
        rest world :=
  Iff.rfl

theorem keeps_idle_iff {contract : Contract service} {party : Party} {world : W} :
    contract.Keeps party world none ↔ contract.idle party world :=
  Iff.rfl

/-- The obligations of the rule: every step keeps the invariant and is within
what all other parties rely on. -/
structure Sound (contract : Contract service) (initial : W) : Prop where
  rely_trans : ∀ party a b c, contract.rely party a b → contract.rely party b c →
    contract.rely party a c
  rely_refl : ∀ party world, contract.rely party world world
  idle_stable : ∀ {party before after}, contract.rely party before after →
    contract.idle party before → contract.idle party after
  start : contract.invariant initial ∧ ∀ party, contract.idle party initial
  issue : ∀ party request world, contract.invariant world → contract.idle party world →
    contract.invariant (service.issue party request world) ∧
      Safe (service.env party) (contract.rely party) (contract.guard party)
        (fun result world => contract.idle party (service.reply party request result world))
        (service.program request) (service.issue party request world)
  issue_rely : ∀ {party other} request world, other ≠ party →
    contract.rely other world (service.issue party request world)
  law : ∀ {party world made answer after}, contract.invariant world →
    contract.guard party world made → service.env party world made answer after →
    contract.invariant after ∧ ∀ other, other ≠ party → contract.rely other world after
  reply : ∀ {party request result world}, contract.invariant world →
    contract.idle party (service.reply party request result world) →
    contract.invariant (service.reply party request result world) ∧
      ∀ other, other ≠ party → contract.rely other world (service.reply party request result world)
  stop : ∀ party world, contract.invariant world →
    contract.invariant (service.stop party world) ∧
      contract.idle party (service.stop party world) ∧
      ∀ other, other ≠ party → contract.rely other world (service.stop party world)

/-- What a party keeps survives the steps of the others. -/
theorem Keeps.stable {contract : Contract service} {initial : W}
    (sound : contract.Sound initial) {party : Party} {before after : W}
    {doing : Option (Request × Prog Answer Reply)} (keeps : contract.Keeps party before doing)
    (step : contract.rely party before after) : contract.Keeps party after doing := by
  rcases doing with _ | ⟨request, rest⟩
  · exact keeps_idle_iff.mpr (sound.idle_stable step keeps)
  · rw [keeps_serving_iff] at keeps ⊢
    exact Safe.interfere (sound.rely_trans party) keeps step

/-- The step of one party, given what it keeps afterwards. -/
theorem Keeps.update [DecidableEq Party] {contract : Contract service} {initial : W}
    (sound : contract.Sound initial) {state : Concurrent Answer Party Request Reply W}
    {party : Party} {after : W} {doing : Option (Request × Prog Answer Reply)}
    (keeps : ∀ other, contract.Keeps other state.world (state.running other))
    (own : contract.Keeps party after doing)
    (others : ∀ other, other ≠ party → contract.rely other state.world after) (other : Party) :
    contract.Keeps other after (Function.update state.running party doing other) := by
  by_cases same : other = party
  · subst other
    simpa using own
  · rw [Function.update_of_ne same]
    exact (keeps other).stable sound (others other same)

/-- The invariant rule for concurrent runs. -/
theorem Sound.reachable [DecidableEq Party] {contract : Contract service} {initial : W}
    (sound : contract.Sound initial) {state : Concurrent Answer Party Request Reply W}
    (reachable : ConcurrentReachable service initial state) :
    contract.invariant state.world ∧
      ∀ party, contract.Keeps party state.world (state.running party) := by
  induction reachable with
  | refl => exact sound.start
  | tail _ step ih =>
      obtain ⟨holds, keeps⟩ := ih
      cases step with
      | @start party request idle =>
          have own := keeps party
          rw [idle, keeps_idle_iff] at own
          obtain ⟨holds', safe⟩ := sound.issue party request _ holds own
          exact ⟨holds', Keeps.update sound keeps (keeps_serving_iff.mpr safe)
            fun other different => sound.issue_rely request _ different⟩
      | @call party request after made next answer serves law =>
          have own := keeps party
          rw [serves, keeps_serving_iff] at own
          obtain ⟨guarded, rest⟩ := own _ (sound.rely_refl party _)
          obtain ⟨holds', others⟩ := sound.law holds guarded law
          exact ⟨holds', Keeps.update sound keeps (keeps_serving_iff.mpr (rest _ _ law)) others⟩
      | @finish party request result serves =>
          have own := keeps party
          rw [serves, keeps_serving_iff] at own
          have idle := own _ (sound.rely_refl party _)
          obtain ⟨holds', others⟩ := sound.reply holds idle
          exact ⟨holds', Keeps.update sound keeps (keeps_idle_iff.mpr idle) others⟩
      | stop party =>
          obtain ⟨holds', idle, others⟩ := sound.stop party _ holds
          exact ⟨holds', Keeps.update sound keeps (keeps_idle_iff.mpr idle) others⟩

end Contract

end Service

end Interaction
