import Mathlib.Data.Fintype.Card
import Mathlib.Data.Set.Finite.List
import Mathlib.Logic.Relation

/-!
# Acyclic relations

A relation is acyclic when no path leads back to where it started.  A rank that
falls along the relation shows this, and among finitely many items one has no
step to any of the others.
-/

namespace Ordered

universe u

variable {α : Type u} {R : α → α → Prop}

/-- No path returns to where it started. -/
def Acyclic (R : α → α → Prop) : Prop :=
  ∀ item, ¬Relation.TransGen R item item

namespace Acyclic

theorem of_rank (rank : α → ℕ) (falls : ∀ item other, R item other → rank other < rank item) :
    Acyclic R := by
  have path {item other : α} (steps : Relation.TransGen R item other) : rank other < rank item := by
    induction steps with
    | single step => exact falls _ _ step
    | tail _ step ih => exact (falls _ _ step).trans ih
  intro item cycle
  exact lt_irrefl _ (path cycle)

/-- Steps that another relation follows make no cycle when that relation makes
none. -/
theorem of_follows {β : Type*} {S : β → β → Prop} (acyclic : Acyclic S) (view : α → β → Prop)
    (single : ∀ item image image', view item image → view item image' → image = image')
    (follows : ∀ item other, R item other →
      ∃ image image', view item image ∧ view other image' ∧ S image image') : Acyclic R := by
  have path {item other : α} (steps : Relation.TransGen R item other) :
      ∃ image image', view item image ∧ view other image' ∧ Relation.TransGen S image image' := by
    induction steps with
    | single step =>
        obtain ⟨image, image', seen, seen', step⟩ := follows _ _ step
        exact ⟨image, image', seen, seen', .single step⟩
    | tail _ step ih =>
        obtain ⟨image, middle, seen, seen', steps⟩ := ih
        obtain ⟨middle', image', again, seen'', step⟩ := follows _ _ step
        cases single _ _ _ seen' again
        exact ⟨image, image', seen, seen'', steps.tail step⟩
  intro item cycle
  obtain ⟨image, image', seen, seen', steps⟩ := path cycle
  cases single _ _ _ seen seen'
  exact acyclic image steps

/-- One of finitely many items has no step to any of them. -/
theorem exists_last (acyclic : Acyclic R) {items : List α} (nonempty : items ≠ []) :
    ∃ item ∈ items, ∀ other ∈ items, ¬R item other := by
  let below (first second : {item // item ∈ items}) : Prop :=
    Relation.TransGen R second.val first.val
  have transitive : IsTrans _ below := ⟨fun _ _ _ later earlier => earlier.trans later⟩
  have irreflexive : Std.Irrefl below := ⟨fun item => acyclic item.val⟩
  have finite : Finite {item // item ∈ items} := List.finite_toSet items
  have founded : WellFounded below := Finite.wellFounded_of_trans_of_irrefl below
  obtain ⟨first, member⟩ := List.exists_mem_of_ne_nil items nonempty
  obtain ⟨⟨item, present⟩, -, last⟩ := founded.has_min Set.univ ⟨⟨first, member⟩, trivial⟩
  exact ⟨item, present, fun other present' step =>
    last ⟨other, present'⟩ trivial (.single step)⟩

end Acyclic

end Ordered
