import Sysboost.Ordered.Map

/-!
# Grouping by a key

Items are put under their keys one after the other.  Under each key then lie the
items with that key, in their order, so the groups part the items.
-/

universe u v

namespace OrderedMap

variable {κ : Type u} {α : Type v} [LinearOrder κ]

/-- Put an item behind those with its key. -/
def push (groups : OrderedMap κ (List α)) (key : κ) (item : α) : OrderedMap κ (List α) :=
  groups.insert key ((groups.get key).getD [] ++ [item])

/-- The items under their keys. -/
def groupBy (key : α → κ) (items : List α) : OrderedMap κ (List α) :=
  items.foldl (fun groups item => groups.push (key item) item) empty

theorem getD_push (groups : OrderedMap κ (List α)) (key other : κ) (item : α) :
    ((groups.push key item).get other).getD [] =
      (groups.get other).getD [] ++ if other = key then [item] else [] := by
  by_cases same : other = key
  · subst same
    simp [push]
  · simp [push, get_insert_of_ne same, same]

theorem getD_foldl_push {key : α → κ} (items : List α) (groups : OrderedMap κ (List α)) (own : κ) :
    ((items.foldl (fun groups item => groups.push (key item) item) groups).get own).getD [] =
      (groups.get own).getD [] ++ items.filter fun item => key item = own := by
  induction items generalizing groups with
  | nil => simp
  | cons item items ih =>
      rw [List.foldl_cons, ih, getD_push, List.append_assoc]
      by_cases same : key item = own
      · simp [same]
      · simp [same, Ne.symm same]

/-- No group is empty. -/
theorem ne_nil_of_get_foldl_push {key : α → κ} (items : List α) (groups : OrderedMap κ (List α))
    (full : ∀ own members, groups.get own = some members → members ≠ []) {own : κ}
    {members : List α}
    (found : (items.foldl (fun groups item => groups.push (key item) item) groups).get own =
      some members) : members ≠ [] := by
  induction items generalizing groups with
  | nil => exact full own members found
  | cons item items ih =>
      apply ih _ _ found
      intro other members found
      change (groups.push (key item) item).get other = some members at found
      by_cases same : other = key item
      · subst same
        rw [push, get_insert_self] at found
        cases found
        simp
      · rw [push, get_insert_of_ne same] at found
        exact full other members found

/-- Under a key lie the items with that key, if there are any. -/
theorem get_groupBy_eq_some_iff {key : α → κ} {items : List α} {own : κ} {members : List α} :
    (groupBy key items).get own = some members ↔
      members = (items.filter fun item => key item = own) ∧ members ≠ [] := by
  have whole : ((groupBy key items).get own).getD [] =
      items.filter fun item => key item = own := by
    rw [groupBy, getD_foldl_push, get_empty]
    rfl
  constructor
  · intro found
    constructor
    · rw [← whole, found]
      rfl
    · exact ne_nil_of_get_foldl_push items empty (fun _ _ none => by cases none) found
  · rintro ⟨rfl, full⟩
    cases found : (groupBy key items).get own with
    | none =>
        rw [found] at whole
        exact absurd whole.symm full
    | some members =>
        rw [found] at whole
        rw [← whole]
        rfl

/-- The groups are those of the keys of the items. -/
theorem mem_values_groupBy_iff {key : α → κ} {items members : List α} :
    members ∈ (groupBy key items).values ↔
      ∃ item ∈ items, members = items.filter fun other => key other = key item := by
  rw [mem_values]
  constructor
  · rintro ⟨own, found⟩
    obtain ⟨rfl, full⟩ := get_groupBy_eq_some_iff.mp found
    obtain ⟨item, member⟩ := List.exists_mem_of_ne_nil _ full
    obtain ⟨present, rfl⟩ : item ∈ items ∧ key item = own := by simpa using member
    exact ⟨item, present, rfl⟩
  · rintro ⟨item, present, rfl⟩
    refine ⟨key item, get_groupBy_eq_some_iff.mpr ⟨rfl, ?_⟩⟩
    exact List.ne_nil_of_mem (List.mem_filter.mpr ⟨present, by simp⟩)

/-- The groups come in the order of their keys, so two of them share no item. -/
theorem pairwise_values_groupBy {key : α → κ} {items : List α} :
    (groupBy key items).values.Pairwise fun first second =>
      ∀ item ∈ first, item ∉ second := by
  rw [values, List.pairwise_map]
  apply (groupBy key items).sorted.imp_of_mem
  intro first second present present' less item member member'
  have own := (get_groupBy_eq_some_iff.mp (get_eq_some_iff.mpr present)).1
  have own' := (get_groupBy_eq_some_iff.mp (get_eq_some_iff.mpr present')).1
  rw [own] at member
  rw [own'] at member'
  have same : key item = first.1 := by simpa using (List.mem_filter.mp member).2
  have same' : key item = second.1 := by simpa using (List.mem_filter.mp member').2
  exact less.ne (same.symm.trans same')

end OrderedMap
