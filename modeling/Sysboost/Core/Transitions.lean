import Sysboost.Core.Journal
import Sysboost.Results.Panics

/-!
# The chain of session transitions

The session state, the transition log and its numbering change together or not
at all.  Calls of `transition` keep the log a chain from `new` to the current
state, which is the chain that the decoder checks.
-/

namespace Sysboost.Core

open Results

/-- The most items of a `Vec`, which has at most `isize::MAX` bytes. -/
def maxVecLength : Nat := 2 ^ 63 - 1

/-- The arguments of a call of `transition`. -/
structure TransitionCall where
  next : SessionState
  at_ : Timestamp
  reason : String

namespace SessionRecord

/-- A call of `transition`; a push beyond the capacity of the log panics. -/
def call (record : SessionRecord) (call : TransitionCall) :
    Except Panic (Except SysboostError Unit × SessionRecord) :=
  let outcome := record.transition call.next call.at_ call.reason
  if outcome.2.transitions.length ≤ maxVecLength then .ok outcome
  else .error ⟨"capacity overflow"⟩

/-- Calls one after the other, whatever they return. -/
def callAll (record : SessionRecord) : List TransitionCall → Except Panic SessionRecord
  | [] => .ok record
  | call :: rest => do
      let (_, after) ← record.call call
      after.callAll rest

/-- A failed call leaves the record as it was. -/
theorem eq_of_transition_error {record left : SessionRecord} {next : SessionState}
    {at_ : Timestamp} {reason : String} {error : SysboostError}
    (failed : record.transition next at_ reason = (.error error, left)) : left = record := by
  unfold transition at failed
  split at failed
  · cases failed
    rfl
  · split at failed
    · cases failed
      rfl
    · cases failed

theorem call_eq_ok_iff {record : SessionRecord} {call : TransitionCall}
    {outcome : Except SysboostError Unit × SessionRecord} :
    record.call call = .ok outcome ↔
      record.transition call.next call.at_ call.reason = outcome ∧
        outcome.2.transitions.length ≤ maxVecLength := by
  unfold SessionRecord.call
  dsimp only
  constructor
  · intro ok
    split at ok
    next fits =>
      cases ok
      exact ⟨rfl, fits⟩
    · cases ok
  · rintro ⟨rfl, fits⟩
    rw [if_pos fits]

/-- A new record has the given session and no transitions. -/
theorem new_eq_ok {session : Session} {mutations : List PlannedMutation}
    {record : SessionRecord} (made : SessionRecord.new session mutations = .ok record) :
    record.session = session ∧ record.transitions = [] := by
  unfold SessionRecord.new at made
  split at made
  · cases made
  split at made
  · cases made
  · obtain ⟨operations, -, made⟩ := bind_eq_ok_iff.mp made
    cases made
    exact ⟨rfl, rfl⟩

/-- The transitions lead from `new` to the state of the session, are numbered
from one on, and each is legal. -/
structure Chained (record : SessionRecord) : Prop where
  numbered : ∀ index transition, record.transitions[index]? = some transition →
    transition.sequence.toNat = index + 1
  starts : ∀ transition, record.transitions[0]? = some transition →
    transition.fromState = .new
  linked : ∀ index before after, record.transitions[index]? = some before →
    record.transitions[index + 1]? = some after → after.fromState = before.toState
  legal : ∀ transition ∈ record.transitions,
    transition.fromState.canTransition transition.toState = true
  ends : record.session.state =
    (record.transitions.getLast?.map TransitionRecord.toState).getD .new

namespace Chained

variable {record after : SessionRecord}

theorem of_new {session : Session} {mutations : List PlannedMutation}
    (fresh : session.state = .new) (made : SessionRecord.new session mutations = .ok record) :
    Chained record := by
  obtain ⟨same, empty⟩ := new_eq_ok made
  constructor
  · simp [empty]
  · simp [empty]
  · simp [empty]
  · simp [empty]
  · simpa [empty, same] using fresh

/-- The next number is one more than the length of the log. -/
theorem nextSequence_toNat (chained : Chained record)
    (fits : record.transitions.length ≤ maxVecLength) :
    record.nextSequence.toNat = record.transitions.length + 1 := by
  unfold nextSequence
  cases last : record.transitions.getLast? with
  | none =>
      rw [List.getLast?_eq_none_iff.mp last]
      rfl
  | some transition =>
      rw [List.getLast?_eq_getElem?] at last
      have number := chained.numbered _ _ last
      have inside : 0 < record.transitions.length := by
        by_contra empty
        rw [List.getElem?_eq_none (by omega)] at last
        cases last
      have small : transition.sequence.toNat + 1 < 2 ^ 64 := by
        unfold maxVecLength at fits
        omega
      simp only [small, if_true]
      rw [UInt64.toNat_add, UInt64.toNat_one, Nat.mod_eq_of_lt small, number]
      omega

/-- The last transition leads to the state of the session. -/
theorem toState_of_last (chained : Chained record) {index : Nat} {last : TransitionRecord}
    (found : record.transitions[index]? = some last)
    (end_ : record.transitions.length = index + 1) : last.toState = record.session.state := by
  have same : record.transitions.getLast? = some last := by
    rw [List.getLast?_eq_getElem?, end_]
    exact found
  rw [chained.ends, same]
  rfl

/-- A legal transition makes the chain longer. -/
theorem moved (chained : Chained record) (fits : record.transitions.length ≤ maxVecLength)
    {next : SessionState} (legal : record.session.state.canTransition next = true)
    (at_ : Timestamp) (reason : String) : Chained (record.moved next at_ reason) := by
  have split {index : Nat} {transition : TransitionRecord}
      (found : (record.moved next at_ reason).transitions[index]? = some transition) :
      record.transitions[index]? = some transition ∨ index = record.transitions.length ∧
        transition = ⟨record.nextSequence, record.sessionId, record.session.state, next, at_,
          reason⟩ := by
    simp only [SessionRecord.moved, List.getElem?_append] at found
    split at found
    · exact .inl found
    · rw [List.getElem?_singleton] at found
      split at found
      · cases found
        exact .inr ⟨by omega, rfl⟩
      · cases found
  constructor
  · intro index transition found
    rcases split found with old | ⟨rfl, rfl⟩
    · exact chained.numbered index transition old
    · exact chained.nextSequence_toNat fits
  · intro transition found
    rcases split found with old | ⟨empty, rfl⟩
    · exact chained.starts transition old
    · have none : record.transitions = [] := List.length_eq_zero_iff.mp empty.symm
      rw [chained.ends, none]
      rfl
  · intro index before later found foundLater
    rcases split foundLater with old | ⟨length, rfl⟩
    · rcases split found with older | ⟨rfl, -⟩
      · exact chained.linked index before later older old
      · rw [List.getElem?_eq_none (by omega)] at old
        cases old
    · rcases split found with older | ⟨rfl, -⟩
      · exact (chained.toState_of_last older length.symm).symm
      · omega
  · intro transition member
    rcases List.mem_append.mp member with old | new
    · exact chained.legal transition old
    · obtain rfl := List.mem_singleton.mp new
      exact legal
  · simp [SessionRecord.moved]

theorem call (chained : Chained record) (fits : record.transitions.length ≤ maxVecLength)
    {call : TransitionCall} {result : Except SysboostError Unit}
    (called : record.call call = .ok (result, after)) :
    Chained after ∧ after.transitions.length ≤ maxVecLength := by
  obtain ⟨outcome, room⟩ := call_eq_ok_iff.mp called
  cases result with
  | error error =>
      obtain rfl := eq_of_transition_error outcome
      exact ⟨chained, room⟩
  | ok value =>
      obtain ⟨legal, rfl⟩ := moved_of_transition outcome
      exact ⟨chained.moved fits legal call.at_ call.reason, room⟩

theorem callAll {calls : List TransitionCall} (chained : Chained record)
    (fits : record.transitions.length ≤ maxVecLength)
    (run : record.callAll calls = .ok after) :
    Chained after ∧ after.transitions.length ≤ maxVecLength := by
  induction calls generalizing record with
  | nil =>
      cases run
      exact ⟨chained, fits⟩
  | cons call rest ih =>
      obtain ⟨⟨result, next⟩, called, run⟩ := bind_eq_ok_iff.mp run
      obtain ⟨chained, fits⟩ := chained.call fits called
      exact ih chained fits run

/-- The restored state has no successor in the chain. -/
theorem restored_last (chained : Chained record) {index : Nat} {transition : TransitionRecord}
    (found : record.transitions[index]? = some transition)
    (restored : transition.toState = .restored) :
    record.transitions.length = index + 1 ∧ record.session.state = .restored := by
  have inside := (List.getElem?_eq_some_iff.mp found).1
  have last : record.transitions.length = index + 1 := by
    by_contra more
    have follows : index + 1 < record.transitions.length := by omega
    have later := List.getElem?_eq_getElem follows
    have legal := chained.legal _ (List.getElem_mem follows)
    rw [chained.linked _ _ _ found later, restored, SessionState.canTransition_restored] at legal
    cases legal
  exact ⟨last, (chained.toState_of_last found last).symm.trans restored⟩

/-- The check of the decoder follows a chain from any of its places on. -/
theorem validateChain_drop (chained : Chained record)
    (fits : record.transitions.length ≤ maxVecLength) {index : Nat} {state : SessionState}
    {sequence : UInt64} (inside : index ≤ record.transitions.length)
    (number : sequence.toNat = index + 1)
    (reached : state =
      ((record.transitions.take index).getLast?.map TransitionRecord.toState).getD .new) :
    validateChain state sequence (record.transitions.drop index) = .ok record.session.state := by
  generalize rest : record.transitions.drop index = later
  induction later generalizing index state sequence with
  | nil =>
      have whole : record.transitions.take index = record.transitions :=
        List.take_of_length_le (List.drop_eq_nil_iff.mp rest)
      rw [whole, ← chained.ends] at reached
      rw [reached]
      rfl
  | cons transition later ih =>
      have found : record.transitions[index]? = some transition := by
        have head := congrArg List.head? rest
        rwa [List.head?_drop] at head
      have bound := (List.getElem?_eq_some_iff.mp found).1
      have own : transition.fromState = state := by
        cases index with
        | zero => exact (chained.starts _ found).trans reached.symm
        | succ index =>
            have before : index < record.transitions.length := by omega
            have reading := List.getElem?_eq_getElem before
            rw [reached, List.getLast?_take, if_neg index.succ_ne_zero, index.add_sub_cancel,
              reading]
            exact chained.linked _ _ _ reading found
      have same : transition.sequence = sequence := by
        apply UInt64.toNat_inj.mp
        rw [chained.numbered _ _ found, number]
      have legal := chained.legal _ (List.mem_of_getElem? found)
      have small : sequence.toNat + 1 < 2 ^ 64 := by
        unfold maxVecLength at fits
        omega
      rw [own] at legal
      simp only [validateChain, same, own, legal, bne_self_eq_false, Bool.or_self, Bool.not_true,
        Bool.false_eq_true, if_false, small, if_true]
      refine ih (Nat.succ_le_of_lt bound) ?_ ?_ ?_
      · rw [UInt64.toNat_add, UInt64.toNat_one, Nat.mod_eq_of_lt small, number]
      · rw [List.take_add_one, found]
        simp
      · rw [← List.tail_drop, rest]
        rfl

/-- The decoder accepts the chain. -/
theorem validateChain_eq (chained : Chained record)
    (fits : record.transitions.length ≤ maxVecLength) :
    validateChain .new 1 record.transitions = .ok record.session.state :=
  chained.validateChain_drop fits (Nat.zero_le _) rfl rfl

end Chained

/-- Whatever calls a new record has seen, its transitions are a chain from `new`
to its state, nothing follows `restored`, and a call that fails changes nothing. -/
theorem callAll_chained {session : Session} {mutations : List PlannedMutation}
    {record after : SessionRecord} {calls : List TransitionCall} (fresh : session.state = .new)
    (made : SessionRecord.new session mutations = .ok record)
    (run : record.callAll calls = .ok after) :
    after.Chained ∧
      (∀ index transition, after.transitions[index]? = some transition →
        transition.toState = .restored →
          after.transitions.length = index + 1 ∧ after.session.state = .restored) ∧
      (∀ next, SessionState.restored.canTransition next = false) ∧
      ∀ call error left, after.call call = .ok (.error error, left) → left = after := by
  have started : record.transitions.length ≤ maxVecLength := by
    rw [(new_eq_ok made).2]
    exact Nat.zero_le _
  have chained := ((Chained.of_new fresh made).callAll started run).1
  refine ⟨chained, ?_, SessionState.canTransition_restored, ?_⟩
  · intro index transition found restored
    exact chained.restored_last found restored
  · intro call error left failed
    exact eq_of_transition_error (call_eq_ok_iff.mp failed).1

/-- One call that the table allows and one that it does not. -/
theorem callAll_chained_detected :
    ∃ record, SessionRecord.new { governorRecord.session with state := .new }
        [governorMutation] = .ok record ∧
      record.callAll [⟨.detected, .fromUnixMillis 8, "fixture detection"⟩,
        ⟨.active, .fromUnixMillis 9, "too early"⟩] = .ok governorRecord ∧
      governorRecord.Chained := by
  let session : Session := { governorRecord.session with state := .new }
  let record : SessionRecord := ⟨session, [.planned governorMutation], [], []⟩
  have made : SessionRecord.new session [governorMutation] = .ok record := by decide
  have run : record.callAll [⟨.detected, .fromUnixMillis 8, "fixture detection"⟩,
      ⟨.active, .fromUnixMillis 9, "too early"⟩] = .ok governorRecord := by decide
  exact ⟨record, made, run, (callAll_chained rfl made run).1⟩

end SessionRecord

end Sysboost.Core
