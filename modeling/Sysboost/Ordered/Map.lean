import Mathlib.Data.List.Sort

/-!
# Ordered maps

A map is a list of entries in the strict order of their keys, so it is
determined by its lookups, and its values come in the order of their keys.
-/

universe u v

/-- A map whose entries are listed in the order of their keys. -/
structure OrderedMap (κ : Type u) (α : Type v) [LinearOrder κ] where
  entries : List (κ × α)
  sorted : entries.Pairwise fun first second => first.1 < second.1

namespace OrderedMap

variable {κ : Type u} {α : Type v} [LinearOrder κ]

def empty : OrderedMap κ α :=
  ⟨[], .nil⟩

/-- Put an entry in its place, instead of an entry with its key. -/
def place (key : κ) (value : α) : List (κ × α) → List (κ × α)
  | [] => [(key, value)]
  | entry :: rest =>
      if key < entry.1 then (key, value) :: entry :: rest
      else if key = entry.1 then (key, value) :: rest
      else entry :: place key value rest

theorem mem_place {key : κ} {value : α} {entries : List (κ × α)} {entry : κ × α}
    (member : entry ∈ place key value entries) : entry = (key, value) ∨ entry ∈ entries := by
  induction entries with
  | nil => exact .inl (by simpa [place] using member)
  | cons first rest ih =>
      unfold place at member
      split at member
      · exact List.mem_cons.mp member
      · split at member
        · rcases List.mem_cons.mp member with same | member
          · exact .inl same
          · exact .inr (List.mem_cons_of_mem _ member)
        · rcases List.mem_cons.mp member with rfl | member
          · exact .inr List.mem_cons_self
          · exact (ih member).imp_right (List.mem_cons_of_mem _)

theorem place_sorted {key : κ} {value : α} {entries : List (κ × α)}
    (sorted : entries.Pairwise fun first second => first.1 < second.1) :
    (place key value entries).Pairwise fun first second => first.1 < second.1 := by
  induction entries with
  | nil => simp [place]
  | cons first rest ih =>
      rw [List.pairwise_cons] at sorted
      unfold place
      split
      next less =>
        refine List.pairwise_cons.mpr ⟨fun entry member => ?_, List.pairwise_cons.mpr sorted⟩
        rcases List.mem_cons.mp member with rfl | member
        · exact less
        · exact lt_trans less (sorted.1 entry member)
      next notLess =>
        split
        next same => exact List.pairwise_cons.mpr ⟨same ▸ sorted.1, sorted.2⟩
        next differs =>
          have greater : first.1 < key := lt_of_le_of_ne (not_lt.mp notLess) (Ne.symm differs)
          refine List.pairwise_cons.mpr ⟨fun entry member => ?_, ih sorted.2⟩
          rcases mem_place member with rfl | member
          · exact greater
          · exact sorted.1 entry member

/-- `BTreeMap::insert`. -/
def insert (map : OrderedMap κ α) (key : κ) (value : α) : OrderedMap κ α :=
  ⟨place key value map.entries, place_sorted map.sorted⟩

/-- `BTreeMap::get`. -/
def get (map : OrderedMap κ α) (key : κ) : Option α :=
  (map.entries.find? fun entry => entry.1 = key).map Prod.snd

/-- `BTreeMap::values`. -/
def values (map : OrderedMap κ α) : List α :=
  map.entries.map Prod.snd

/-- `BTreeMap::remove`. -/
def remove (map : OrderedMap κ α) (key : κ) : OrderedMap κ α :=
  ⟨map.entries.filter fun entry => entry.1 ≠ key, map.sorted.filter _⟩

/-! ## Lookups -/

theorem get_eq_some_iff {map : OrderedMap κ α} {key : κ} {value : α} :
    map.get key = some value ↔ (key, value) ∈ map.entries := by
  constructor
  · intro found
    obtain ⟨⟨key', value'⟩, first, rfl⟩ := Option.map_eq_some_iff.mp found
    have own : key' = key := by simpa using List.find?_some first
    exact own ▸ List.mem_of_find?_eq_some first
  · intro member
    obtain ⟨entries, sorted⟩ := map
    induction entries with
    | nil => cases member
    | cons first rest ih =>
        rw [List.pairwise_cons] at sorted
        rcases List.mem_cons.mp member with rfl | member
        · simp [get]
        · have differs : first.1 ≠ key := (sorted.1 _ member).ne
          have found := ih sorted.2 member
          simp only [get] at found ⊢
          rw [List.find?_cons_of_neg (by simpa using differs)]
          exact found

theorem get_empty (key : κ) : (empty : OrderedMap κ α).get key = none :=
  rfl

@[simp]
theorem get_insert_self (map : OrderedMap κ α) (key : κ) (value : α) :
    (map.insert key value).get key = some value := by
  rw [get_eq_some_iff]
  obtain ⟨entries, sorted⟩ := map
  show (key, value) ∈ place key value entries
  induction entries with
  | nil => simp [place]
  | cons first rest ih =>
      unfold place
      split
      · exact List.mem_cons_self
      · split
        · exact List.mem_cons_self
        · exact List.mem_cons_of_mem _ (ih (List.pairwise_cons.mp sorted).2)

theorem get_insert_of_ne {map : OrderedMap κ α} {key other : κ} {value : α}
    (differs : other ≠ key) : (map.insert key value).get other = map.get other := by
  obtain ⟨entries, sorted⟩ := map
  show ((place key value entries).find? _).map Prod.snd = (entries.find? _).map Prod.snd
  congr 1
  induction entries with
  | nil => simp [place, Ne.symm differs]
  | cons first rest ih =>
      unfold place
      split
      · rw [List.find?_cons_of_neg (by simpa using Ne.symm differs)]
      · split
        next same =>
          rw [List.find?_cons_of_neg (by simpa using Ne.symm differs),
            List.find?_cons_of_neg (by simpa [← same] using Ne.symm differs)]
        · simp only [List.find?_cons]
          split
          · rfl
          · exact ih (List.pairwise_cons.mp sorted).2

theorem get_remove_self (map : OrderedMap κ α) (key : κ) : (map.remove key).get key = none := by
  simp [get, remove]

/-- A map is determined by its lookups. -/
theorem ext_get {map other : OrderedMap κ α} (same : ∀ key, map.get key = other.get key) :
    map = other := by
  have members (entry : κ × α) : entry ∈ map.entries ↔ entry ∈ other.entries := by
    have found : map.get entry.1 = some entry.2 ↔ entry ∈ map.entries := get_eq_some_iff
    have found' : other.get entry.1 = some entry.2 ↔ entry ∈ other.entries := get_eq_some_iff
    rw [← found, ← found', same]
  have irreflexive : Std.Irrefl fun first second : κ × α => first.1 < second.1 :=
    ⟨fun _ => lt_irrefl _⟩
  have antisymmetric : Std.Antisymm fun first second : κ × α => first.1 < second.1 :=
    ⟨fun _ _ less greater => absurd less greater.asymm⟩
  have entries : map.entries = other.entries :=
    map.sorted.eq_of_mem_iff other.sorted members
  cases map
  cases other
  simpa using entries

theorem mem_values {map : OrderedMap κ α} {value : α} :
    value ∈ map.values ↔ ∃ key, map.get key = some value := by
  simp [values, get_eq_some_iff]

end OrderedMap
