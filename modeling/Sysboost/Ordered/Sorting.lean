import Mathlib.Data.List.Destutter
import Mathlib.Data.List.MinMax
import Mathlib.Data.List.Sort

/-!
# Sorting by a key

A stable sort forgets the order of a list up to ties: two orders of the same
items are sorted into the same list when items with the same key are equal.
The same holds of a first-match search whose matches are all equal.
-/

namespace Ordered

universe u v

variable {α : Type u} {κ : Type v}

/-- A stable sort by a key. -/
def sortBy [LinearOrder κ] (key : α → κ) (items : List α) : List α :=
  items.insertionSort fun first second => key first ≤ key second

/-- `dedup`: drop an item that equals its predecessor. -/
def dropRepeats [DecidableEq α] (items : List α) : List α :=
  items.destutter (· ≠ ·)

/-- Items with the same key are equal. -/
def Tieless (key : α → κ) (items : List α) : Prop :=
  ∀ first ∈ items, ∀ second ∈ items, key first = key second → first = second

instance [DecidableEq α] [DecidableEq κ] (key : α → κ) (items : List α) :
    Decidable (Tieless key items) :=
  inferInstanceAs (Decidable (∀ first ∈ items, ∀ second ∈ items,
    key first = key second → first = second))

namespace Tieless

variable {key : α → κ}

theorem of_perm {items other : List α} (tieless : Tieless key items) (perm : items.Perm other) :
    Tieless key other :=
  fun first present second present' =>
    tieless first (perm.mem_iff.mpr present) second (perm.mem_iff.mpr present')

theorem of_injective {items : List α} (injective : Function.Injective key) : Tieless key items :=
  fun _ _ _ _ same => injective same

end Tieless

section SortBy

variable [LinearOrder κ] (key : α → κ)

theorem sortBy_perm (items : List α) : (sortBy key items).Perm items :=
  List.perm_insertionSort _ items

@[simp]
theorem mem_sortBy {items : List α} {item : α} : item ∈ sortBy key items ↔ item ∈ items :=
  (sortBy_perm key items).mem_iff

theorem sortBy_pairwise (items : List α) :
    (sortBy key items).Pairwise fun first second => key first ≤ key second := by
  have total : Std.Total fun first second : α => key first ≤ key second :=
    ⟨fun first second => le_total (key first) (key second)⟩
  have transitive : IsTrans α fun first second => key first ≤ key second :=
    ⟨fun _ _ _ => le_trans⟩
  exact List.pairwise_insertionSort _ items

variable {key}

/-- Sorting forgets the order of the items when only equal items tie. -/
theorem sortBy_congr {items other : List α} (tieless : Tieless key items)
    (perm : items.Perm other) : sortBy key items = sortBy key other := by
  have sorted : (sortBy key items).Perm (sortBy key other) :=
    ((sortBy_perm key items).trans perm).trans (sortBy_perm key other).symm
  refine sorted.eq_of_pairwise ?_ (sortBy_pairwise key items) (sortBy_pairwise key other)
  intro first second present present' le ge
  have member : second ∈ items := perm.mem_iff.mpr ((mem_sortBy key).mp present')
  exact tieless first ((mem_sortBy key).mp present) second member (le_antisymm le ge)

/-- What comes before an item of a front is in the front. -/
theorem mem_of_prefix_of_lt {items front : List α}
    (sorted : items.Pairwise fun first second => key first ≤ key second) (isFront : front <+: items)
    {first second : α} (taken : second ∈ front) (member : first ∈ items)
    (less : key first < key second) : first ∈ front := by
  obtain ⟨rest, rfl⟩ := isFront
  rcases List.mem_append.mp member with inside | after
  · exact inside
  · have le := (List.pairwise_append.mp sorted).2.2 second taken first after
    exact absurd less (not_lt_of_ge le)

/-- Sorted lists stay as they are. -/
theorem sortBy_of_pairwise {items : List α}
    (sorted : items.Pairwise fun first second => key first ≤ key second) :
    sortBy key items = items :=
  sorted.insertionSort_eq

/-- Two sorted orders of the same items list the same keys. -/
theorem map_key_eq {items other : List α}
    (sorted : items.Pairwise fun first second => key first ≤ key second)
    (sorted' : other.Pairwise fun first second => key first ≤ key second)
    (perm : items.Perm other) : items.map key = other.map key :=
  (perm.map key).eq_of_pairwise (fun _ _ _ _ => le_antisymm) (List.pairwise_map.mpr sorted)
    (List.pairwise_map.mpr sorted')

end SortBy

/-! ## First matches -/

/-- A search whose matches are all equal forgets the order of the items. -/
theorem find?_congr {matches_ : α → Bool} {items other : List α}
    (single : ∀ first ∈ items, ∀ second ∈ items, matches_ first → matches_ second →
      first = second) (perm : items.Perm other) :
    items.find? matches_ = other.find? matches_ := by
  cases found : items.find? matches_ with
  | none =>
      rw [List.find?_eq_none] at found
      refine (List.find?_eq_none.mpr fun item member => ?_).symm
      exact found item (perm.mem_iff.mpr member)
  | some item =>
      have matched := List.find?_some found
      have member := List.mem_of_find?_eq_some found
      cases found' : other.find? matches_ with
      | none =>
          rw [List.find?_eq_none] at found'
          exact absurd matched (found' item (perm.mem_iff.mp member))
      | some item' =>
          have member' := perm.mem_iff.mpr (List.mem_of_find?_eq_some found')
          rw [single item member item' member' matched (List.find?_some found')]

/-- A search for a value forgets the order of the items when all the values
found are equal. -/
theorem findSome?_congr {β : Type*} {value : α → Option β} {items other : List α}
    (single : ∀ first ∈ items, ∀ second ∈ items, ∀ found found', value first = some found →
      value second = some found' → found = found') (perm : items.Perm other) :
    items.findSome? value = other.findSome? value := by
  cases found : items.findSome? value with
  | none =>
      rw [List.findSome?_eq_none_iff] at found
      refine (List.findSome?_eq_none_iff.mpr fun item member => ?_).symm
      exact found item (perm.mem_iff.mpr member)
  | some result =>
      obtain ⟨item, member, has⟩ := List.exists_of_findSome?_eq_some found
      cases found' : other.findSome? value with
      | none =>
          rw [List.findSome?_eq_none_iff] at found'
          rw [found' item (perm.mem_iff.mp member)] at has
          cases has
      | some result' =>
          obtain ⟨item', member', has'⟩ := List.exists_of_findSome?_eq_some found'
          rw [single item member item' (perm.mem_iff.mpr member') result result' has has']

/-- The first item with the least key does not depend on the order of the items
when all items with the least key are equal. -/
theorem argmin_congr [LinearOrder κ] {key : α → κ} {items other : List α}
    (single : ∀ first ∈ items, ∀ second ∈ items, (∀ item ∈ items, key first ≤ key item) →
      (∀ item ∈ items, key second ≤ key item) → first = second)
    (perm : items.Perm other) : items.argmin key = other.argmin key := by
  cases least : items.argmin key with
  | none =>
      rw [List.argmin_eq_none] at least
      subst least
      rw [← perm.nil_eq]
      rfl
  | some first =>
      cases least' : other.argmin key with
      | none =>
          rw [List.argmin_eq_none] at least'
          subst least'
          rw [perm.eq_nil] at least
          cases least
      | some second =>
          refine congrArg some (single first (List.argmin_mem least) second
            (perm.mem_iff.mpr (List.argmin_mem least')) ?_ ?_)
          · exact fun item member => List.le_of_mem_argmin member least
          · exact fun item member => List.le_of_mem_argmin (perm.mem_iff.mp member) least'

/-! ## Sorted sets -/

section Distinct

variable [DecidableEq α]

theorem mem_destutter'_of_mem {item : α} {items : List α} (first : α)
    (member : item ∈ first :: items) : item ∈ items.destutter' (· ≠ ·) first := by
  induction items generalizing first with
  | nil => simpa using member
  | cons second items ih =>
      by_cases same : first = second
      · subst same
        rw [List.destutter'_cons_neg _ (by simp)]
        exact ih first (by simpa using member)
      · rw [List.destutter'_cons_pos _ same]
        rcases List.mem_cons.mp member with rfl | member
        · exact List.mem_cons_self
        · exact List.mem_cons_of_mem _ (ih second member)

@[simp]
theorem mem_dropRepeats {items : List α} {item : α} : item ∈ dropRepeats items ↔ item ∈ items := by
  constructor
  · exact fun member => (List.destutter_sublist _ items).subset member
  · intro member
    rcases items with _ | ⟨first, items⟩
    · exact member
    · exact mem_destutter'_of_mem first member

end Distinct

/-- The last of the sorted items is a greatest one. -/
theorem getLast?_dropRepeats_sortBy [LinearOrder κ] [DecidableEq α] {key : α → κ} {items : List α}
    {greatest : α} (last : (dropRepeats (sortBy key items)).getLast? = some greatest) :
    greatest ∈ items ∧ ∀ item ∈ items, key item ≤ key greatest := by
  obtain ⟨front, whole⟩ := List.getLast?_eq_some_iff.mp last
  have listed (item : α) : item ∈ items ↔ item ∈ front ++ [greatest] := by
    rw [← whole, mem_dropRepeats, mem_sortBy]
  have sorted : (front ++ [greatest]).Pairwise fun first second => key first ≤ key second := by
    rw [← whole]
    exact (sortBy_pairwise key items).sublist (List.destutter_sublist _ _)
  rw [listed]
  constructor
  · simp
  · intro item member
    rw [listed, List.mem_append, List.mem_singleton] at member
    rcases member with before | rfl
    · exact (List.pairwise_append.mp sorted).2.2 item before greatest (List.mem_singleton_self _)
    · exact le_rfl

/-- A list that loses nothing when its repeats are dropped has none. -/
theorem nodup_of_length_dropRepeats [LinearOrder α] [DecidableEq α] {items : List α}
    (kept : (dropRepeats (sortBy id items)).length = items.length) : items.Nodup := by
  have sorted := sortBy_pairwise id items
  have perm := sortBy_perm id items
  have whole : dropRepeats (sortBy id items) = sortBy id items :=
    (List.destutter_sublist _ _).eq_of_length (kept.trans perm.length_eq.symm)
  have chain := (List.destutter_eq_self_iff _ _).mp whole
  have increasing : (sortBy id items).IsChain (· < ·) := by
    rw [List.isChain_iff_getElem] at chain ⊢
    intro index bound
    have le := List.pairwise_iff_getElem.mp sorted index (index + 1) (by omega) bound (by omega)
    exact lt_of_le_of_ne le (chain index bound)
  exact perm.nodup_iff.mp ((List.isChain_iff_pairwise.mp increasing).imp fun less => less.ne)

end Ordered
