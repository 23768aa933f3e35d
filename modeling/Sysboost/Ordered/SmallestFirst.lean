import Mathlib.Order.Lattice
import Sysboost.Ordered.Acyclic

/-!
# Smallest-first topological orders

An order of items is topological when every step leads to an earlier item.  It is
smallest-first when each place is taken by the smallest of the items that step
to earlier items only.
-/

namespace Ordered

universe u v

variable {α : Type u} {κ : Type v} [LinearOrder κ]

/-- Every item waits for those it steps to, and the smallest item that waits
for no other comes next. -/
structure SmallestFirst (R : α → α → Prop) (key : α → κ) (order : List α) : Prop where
  earlier : ∀ front item back, order = front ++ item :: back →
    ∀ other ∈ order, R item other → other ∈ front
  smallest : ∀ front item back, order = front ++ item :: back →
    ∀ other ∈ back, (∀ next ∈ order, R other next → next ∈ front) → key item < key other

namespace SmallestFirst

variable {R : α → α → Prop} {key : α → κ} {order : List α}

/-- The steps between the items of a topological order make no cycle. -/
theorem acyclic (first : SmallestFirst R key order) (nodup : order.Nodup) :
    Acyclic fun item other => item ∈ order ∧ other ∈ order ∧ R item other := by
  classical
  apply Acyclic.of_rank order.idxOf
  rintro item other ⟨member, member', step⟩
  obtain ⟨front, back, split⟩ := List.append_of_mem member
  have before := first.earlier front item back split other member' step
  have apart : item ∉ front := by
    rw [split] at nodup
    exact fun again => (List.disjoint_of_nodup_append nodup) again List.mem_cons_self
  rw [split, List.idxOf_append_of_mem before, List.idxOf_append_of_notMem apart,
    List.idxOf_cons_self, Nat.add_zero]
  exact List.idxOf_lt_length_iff.mpr before

end SmallestFirst

end Ordered
