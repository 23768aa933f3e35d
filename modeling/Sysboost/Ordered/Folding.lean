import Sysboost.Ordered.Sorting
import Sysboost.Results.Loops

/-!
# Folding and checking sorted lists

A fold whose steps commute on items with the same key does not depend on which
of the sorted orders it goes through.  A check of every item reports the same
error in each of them, when the items that fail first fail alike.
-/

namespace Ordered

open Results

universe u v w

variable {α : Type u} {κ : Type v} [LinearOrder κ] {key : α → κ} {ε : Type w}

section Folds

variable {σ : Type*} {step : σ → α → Except ε σ}
  (commutes : ∀ state first second, key first = key second →
    (step state first >>= fun after => step after second) =
      step state second >>= fun after => step after first)

include commutes

/-- An item moves in front of items with the same key. -/
theorem foldlM_move {item : α} {front : List α} (tied : ∀ other ∈ front, key other = key item)
    (rest : List α) (state : σ) :
    (front ++ item :: rest).foldlM step state = (item :: (front ++ rest)).foldlM step state := by
  induction front generalizing state with
  | nil => rfl
  | cons first front ih =>
      rw [List.forall_mem_cons] at tied
      calc (first :: (front ++ item :: rest)).foldlM step state
          = step state first >>= fun after => (front ++ item :: rest).foldlM step after := rfl
        _ = step state first >>= fun after => step after item >>= fun last =>
              (front ++ rest).foldlM step last := by
            congr 1
            funext after
            exact ih tied.2 after
        _ = (step state first >>= fun after => step after item) >>= fun last =>
              (front ++ rest).foldlM step last := (bind_assoc _ _ _).symm
        _ = (step state item >>= fun after => step after first) >>= fun last =>
              (front ++ rest).foldlM step last := by rw [commutes state first item tied.1]
        _ = (item :: (first :: front ++ rest)).foldlM step state := bind_assoc _ _ _

theorem foldlM_sorted_congr {items other : List α}
    (sorted : items.Pairwise fun first second => key first ≤ key second)
    (sorted' : other.Pairwise fun first second => key first ≤ key second)
    (perm : items.Perm other) (state : σ) :
    items.foldlM step state = other.foldlM step state := by
  induction items generalizing other state with
  | nil => rw [← perm.nil_eq]
  | cons item items ih =>
      obtain ⟨front, rest, rfl⟩ := List.append_of_mem (perm.mem_iff.mp List.mem_cons_self)
      have tied : ∀ other ∈ front, key other = key item := by
        intro other member
        have before := (List.pairwise_append.mp sorted').2.2 other member item List.mem_cons_self
        have present : other ∈ item :: items :=
          perm.mem_iff.mpr (List.mem_append_left _ member)
        rcases List.mem_cons.mp present with rfl | present
        · rfl
        · exact le_antisymm before ((List.pairwise_cons.mp sorted).1 other present)
      rw [foldlM_move commutes tied]
      have perm := (perm.trans List.perm_middle).cons_inv
      have sorted' := sorted'.sublist
        ((List.Sublist.refl front).append (List.sublist_cons_self item rest))
      show (step state item >>= fun after => items.foldlM step after) =
        step state item >>= fun after => (front ++ rest).foldlM step after
      congr 1
      funext after
      exact ih (List.pairwise_cons.mp sorted).2 sorted' perm after

end Folds

section Checks

variable {check : α → Except ε Unit}

/-- A check that fails, fails at an item before which no item fails. -/
theorem exists_of_forM_error {items : List α} {error : ε}
    (sorted : items.Pairwise fun first second => key first ≤ key second)
    (failed : items.forM check = .error error) : ∃ item ∈ items, check item = .error error ∧
      ∀ other ∈ items, key other < key item → check other = .ok () := by
  induction items with
  | nil => cases failed
  | cons first items ih =>
      rw [List.pairwise_cons] at sorted
      cases result : check first with
      | error error' =>
          have same : check first = .error error := by
            rw [result]
            have failed : (check first >>= fun _ => items.forM check) = .error error := failed
            rw [result] at failed
            exact congrArg Except.error (Except.error.inj failed)
          refine ⟨first, List.mem_cons_self, same, fun other member less => ?_⟩
          rcases List.mem_cons.mp member with rfl | member
          · exact absurd less (lt_irrefl _)
          · exact absurd less (not_lt.mpr (sorted.1 other member))
      | ok value =>
          have failed : (check first >>= fun _ => items.forM check) = .error error := failed
          rw [result] at failed
          obtain ⟨item, member, fails, before⟩ := ih sorted.2 failed
          refine ⟨item, List.mem_cons_of_mem _ member, fails, fun other present less => ?_⟩
          rcases List.mem_cons.mp present with rfl | present
          · exact result
          · exact before other present less

/-- Two items with the same key, and with no failing item before them, fail
alike. -/
def FailAlike (key : α → κ) (check : α → Except ε Unit) (items : List α) : Prop :=
  ∀ first ∈ items, ∀ second ∈ items, key first = key second →
    (∀ other ∈ items, key other < key first → check other = .ok ()) →
    ∀ error error', check first = .error error → check second = .error error' → error = error'

theorem forM_sorted_congr {items other : List α} (alike : FailAlike key check items)
    (sorted : items.Pairwise fun first second => key first ≤ key second)
    (sorted' : other.Pairwise fun first second => key first ≤ key second)
    (perm : items.Perm other) : items.forM check = other.forM check := by
  have passes : items.forM check = .ok () ↔ other.forM check = .ok () := by
    simp only [forM_eq_ok_iff, perm.mem_iff]
  cases result : items.forM check with
  | ok value => exact (passes.mp result).symm
  | error error =>
      cases result' : other.forM check with
      | ok value =>
          rw [passes.mpr result'] at result
          cases result
      | error error' =>
          obtain ⟨item, member, fails, before⟩ := exists_of_forM_error sorted result
          obtain ⟨item', member', fails', before'⟩ := exists_of_forM_error sorted' result'
          have same : key item = key item' := by
            rcases lt_trichotomy (key item) (key item') with less | same | greater
            · rw [before' item (perm.mem_iff.mp member) less] at fails
              cases fails
            · exact same
            · rw [before item' (perm.mem_iff.mpr member') greater] at fails'
              cases fails'
          exact congrArg Except.error (alike item member item' (perm.mem_iff.mpr member') same
            before error error' fails fails')

end Checks

end Ordered
