import Mathlib.Data.List.Basic
import Mathlib.Order.Basic

/-!
# Runs of neighbours

A list is cut into runs, each given by its first and its last item; an item that
joins the one before it goes on with the run.  What the runs stand for is the
list again.
-/

namespace Ordered

universe u

variable {α : Type u} (joins : α → α → Bool)

/-- The runs of a list, the first of which has begun. -/
def runsFrom (first last : α) : List α → List (α × α)
  | [] => [(first, last)]
  | next :: rest =>
      if joins last next then runsFrom first next rest
      else (first, last) :: runsFrom next next rest

def runs : List α → List (α × α)
  | [] => []
  | first :: rest => runsFrom joins first first rest

variable {joins}

variable [Preorder α]

/-- A run does not end before it begins. -/
theorem le_of_mem_runsFrom {first last : α} {rest : List α} (ordered : first ≤ last)
    (sorted : (last :: rest).Pairwise (· < ·)) {run : α × α}
    (member : run ∈ runsFrom joins first last rest) : run.1 ≤ run.2 := by
  induction rest generalizing first last with
  | nil =>
      rw [List.mem_singleton.mp member]
      exact ordered
  | cons next rest ih =>
      obtain ⟨before, later⟩ := List.pairwise_cons.mp sorted
      rw [runsFrom] at member
      split at member
      · exact ih (ordered.trans (before next List.mem_cons_self).le) later member
      · rcases List.mem_cons.mp member with rfl | member
        · exact ordered
        · exact ih le_rfl later member

theorem le_of_mem_runs {items : List α} (sorted : items.Pairwise (· < ·)) {run : α × α}
    (member : run ∈ runs joins items) : run.1 ≤ run.2 := by
  cases items with
  | nil => cases member
  | cons first rest => exact le_of_mem_runsFrom le_rfl sorted member

/-- The items between the ends of a run: there is one when the ends are the same,
and one more when the run goes on. -/
structure Fills (joins : α → α → Bool) (fill : α × α → List α) : Prop where
  single : ∀ first, fill (first, first) = [first]
  extend : ∀ first last next, first ≤ last → last < next → joins last next = true →
    fill (first, next) = fill (first, last) ++ [next]

variable {fill : α × α → List α}

theorem flatMap_runsFrom (fills : Fills joins fill) {first last : α} {rest : List α}
    (ordered : first ≤ last) (sorted : (last :: rest).Pairwise (· < ·)) :
    (runsFrom joins first last rest).flatMap fill = fill (first, last) ++ rest := by
  induction rest generalizing first last with
  | nil => simp [runsFrom]
  | cons next rest ih =>
      obtain ⟨before, later⟩ := List.pairwise_cons.mp sorted
      have above : last < next := before next List.mem_cons_self
      rw [runsFrom]
      split
      next joined =>
        rw [ih (ordered.trans above.le) later, fills.extend first last next ordered above joined,
          List.append_assoc, List.singleton_append]
      · rw [List.flatMap_cons, ih le_rfl later, fills.single, List.singleton_append]

/-- The runs of an ordered list stand for its items. -/
theorem flatMap_runs (fills : Fills joins fill) {items : List α}
    (sorted : items.Pairwise (· < ·)) : (runs joins items).flatMap fill = items := by
  cases items with
  | nil => rfl
  | cons first rest =>
      rw [runs, flatMap_runsFrom fills le_rfl sorted, fills.single, List.singleton_append]

end Ordered
