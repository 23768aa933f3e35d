import Mathlib.Data.List.Basic

/-!
# Loops of fallible steps

What a sequence, a check of every item, a map and a fold say when they do not
fail.
-/

namespace Results

universe u v w

variable {ε : Type u}

theorem bind_eq_ok_iff {α β : Type v} {first : Except ε α} {next : α → Except ε β} {result : β} :
    (first >>= next) = .ok result ↔ ∃ value, first = .ok value ∧ next value = .ok result := by
  cases first with
  | error error => simp [bind, Except.bind]
  | ok value => simp [bind, Except.bind]

theorem mapError_eq_ok_iff {α : Type v} {δ : Type w} {result : Except ε α} {change : ε → δ}
    {value : α} : result.mapError change = .ok value ↔ result = .ok value := by
  cases result with
  | error error => simp [Except.mapError]
  | ok found => simp [Except.mapError]

theorem toOption_eq_some_iff {α : Type v} {result : Except ε α} {value : α} :
    result.toOption = some value ↔ result = .ok value := by
  cases result with
  | error error => simp [Except.toOption]
  | ok found => simp [Except.toOption]

/-- Sequences agree when they go on alike after every result of the first. -/
theorem bind_congr_ok {α β : Type v} {first : Except ε α} {next other : α → Except ε β}
    (same : ∀ value, first = .ok value → next value = other value) :
    (first >>= next) = first >>= other := by
  cases result : first with
  | error error => rfl
  | ok value => exact same value result

/-- A last check that passes. -/
theorem ite_throw_eq_ok_iff {α : Type v} {refused : Prop} [Decidable refused] {error : ε}
    {rest : Except ε α} {result : α} :
    (if refused then throw error else rest) = .ok result ↔ ¬refused ∧ rest = .ok result := by
  by_cases refuses : refused
  · simp [refuses, throw, throwThe, MonadExceptOf.throw]
  · simp [refuses]

/-- A check that passes, with what follows it. -/
theorem guard_eq_ok_iff {α β : Type v} {refused : Prop} [Decidable refused] {error : ε}
    {next : α → Except ε β} {rest : Except ε β} {result : β} :
    (if refused then throw error >>= next else rest) = .ok result ↔
      ¬refused ∧ rest = .ok result := by
  by_cases refuses : refused
  · simp [refuses, throw, throwThe, MonadExceptOf.throw, bind, Except.bind]
  · simp [refuses]

/-- A sequence of which a part is read. -/
theorem map_of_bind {α β γ : Type v} {first : Except ε α} {next : α → Except ε β} {part : β → γ} :
    (first >>= next).map part = first >>= fun value => (next value).map part := by
  cases first with
  | error error => rfl
  | ok value => rfl

/-- A check with what follows it, of which a part is read. -/
theorem map_of_guard {α β γ : Type v} {refused : Prop} [Decidable refused] {error : ε}
    {next : α → Except ε β} {rest : Except ε β} {part : β → γ} :
    (if refused then throw error >>= next else rest).map part =
      if refused then throw error else rest.map part := by
  by_cases refuses : refused
  · simp only [if_pos refuses]
    rfl
  · simp only [if_neg refuses]

/-- A result that passes a test is a result. -/
theorem exists_ok_of_any {α : Type v} {x : Except ε α} {p : α → Bool}
    (holds : x.toOption.any p = true) : ∃ value, x = .ok value ∧ p value = true := by
  cases x with
  | error error => cases holds
  | ok value => exact ⟨value, rfl, holds⟩

/-- A loop of checks passes when every check does. -/
theorem forM_eq_ok_iff {α : Type w} {check : α → Except ε Unit} {items : List α} :
    items.forM check = .ok () ↔ ∀ item ∈ items, check item = .ok () := by
  induction items with
  | nil => simp [List.forM, pure, Except.pure]
  | cons item rest ih =>
      show (check item >>= fun _ => rest.forM check) = .ok () ↔ _
      rw [bind_eq_ok_iff, List.forall_mem_cons, ← ih]
      constructor
      · rintro ⟨⟨⟩, first, later⟩
        exact ⟨first, later⟩
      · rintro ⟨first, later⟩
        exact ⟨(), first, later⟩

/-- A map does not fail when no step does. -/
theorem mapM_eq_ok_iff {α : Type w} {β : Type v} {step : α → Except ε β} {items : List α}
    {results : List β} :
    items.mapM step = .ok results ↔
      List.Forall₂ (fun item result => step item = .ok result) items results := by
  induction items generalizing results with
  | nil =>
      constructor
      · rintro ⟨⟩
        exact .nil
      · rintro ⟨⟩
        rfl
  | cons item rest ih =>
      rw [List.mapM_cons, bind_eq_ok_iff]
      constructor
      · rintro ⟨result, first, ok⟩
        obtain ⟨results', later, ok⟩ := bind_eq_ok_iff.mp ok
        cases ok
        exact .cons first (ih.mp later)
      · rintro (_ | ⟨first, later⟩)
        refine ⟨_, first, bind_eq_ok_iff.mpr ⟨_, ih.mpr later, rfl⟩⟩

/-- Every result of a map comes from an item. -/
theorem exists_of_mapM_mem {α : Type w} {β : Type v} {step : α → Except ε β} {items : List α}
    {results : List β} (ok : items.mapM step = .ok results) {result : β}
    (member : result ∈ results) : ∃ item ∈ items, step item = .ok result := by
  induction mapM_eq_ok_iff.mp ok with
  | nil => cases member
  | @cons item made items results first later ih =>
      rcases List.mem_cons.mp member with rfl | member
      · exact ⟨item, List.mem_cons_self, first⟩
      · obtain ⟨other, present, gives⟩ := ih (mapM_eq_ok_iff.mpr later) member
        exact ⟨other, List.mem_cons_of_mem _ present, gives⟩

/-- Every item of a map has a result. -/
theorem exists_mapM_of_mem {α : Type w} {β : Type v} {step : α → Except ε β} {items : List α}
    {results : List β} (ok : items.mapM step = .ok results) {item : α} (member : item ∈ items) :
    ∃ result ∈ results, step item = .ok result := by
  induction mapM_eq_ok_iff.mp ok with
  | nil => cases member
  | @cons first made items results gives later ih =>
      rcases List.mem_cons.mp member with rfl | member
      · exact ⟨made, List.mem_cons_self, gives⟩
      · obtain ⟨result, present, other⟩ := ih (mapM_eq_ok_iff.mpr later) member
        exact ⟨result, List.mem_cons_of_mem _ present, other⟩

/-- The results of a map stand where their items do. -/
theorem getElem?_mapM {α : Type w} {β : Type v} {step : α → Except ε β} {items : List α}
    {results : List β} (ok : items.mapM step = .ok results) {place : Nat} {item : α}
    (at' : items[place]? = some item) :
    ∃ result, results[place]? = some result ∧ step item = .ok result := by
  induction mapM_eq_ok_iff.mp ok generalizing place with
  | nil => cases at'
  | @cons first made items results gives later ih =>
      cases place with
      | zero =>
          cases at'
          exact ⟨made, rfl, gives⟩
      | succ place => exact ih (mapM_eq_ok_iff.mpr later) at'

theorem length_mapM {α : Type w} {β : Type v} {step : α → Except ε β} {items : List α}
    {results : List β} (ok : items.mapM step = .ok results) : results.length = items.length := by
  induction mapM_eq_ok_iff.mp ok with
  | nil => rfl
  | cons _ later ih => rw [List.length_cons, List.length_cons, ih (mapM_eq_ok_iff.mpr later)]

/-- What a map that does not fail returns. -/
theorem map_eq_of_mapM_eq_some {α : Type w} {β : Type v} {step : α → Option β} {items : List α}
    {results : List β} (known : items.mapM step = some results) :
    items.map step = results.map some := by
  induction items generalizing results with
  | nil =>
      cases known
      rfl
  | cons item rest ih =>
      rw [List.mapM_cons] at known
      obtain ⟨first, gives, known⟩ := Option.bind_eq_some_iff.mp known
      obtain ⟨later, listed, same⟩ := Option.bind_eq_some_iff.mp known
      cases same
      rw [List.map_cons, List.map_cons, gives, ih listed]

/-- A map of optional steps that all give a result. -/
theorem mapM_eq_some_map {α : Type w} {β : Type v} {step : α → Option β} {make : α → β}
    {items : List α} (each : ∀ item ∈ items, step item = some (make item)) :
    items.mapM step = some (items.map make) := by
  induction items with
  | nil => rfl
  | cons item rest ih =>
      rw [List.forall_mem_cons] at each
      rw [List.mapM_cons, each.1, ih each.2]
      rfl

/-- A fold ends, or it stops at a step that fails; what every step keeps holds of
the items folded so far. -/
theorem foldlM_ok_or_fails {α : Type w} {σ : Type v} {step : σ → α → Except ε σ}
    {p : σ → List α → Prop} {items : List α} {initial : σ} (start : p initial [])
    (next : ∀ state front item rest after, front ++ item :: rest = items → p state front →
      step state item = .ok after → p after (front ++ [item])) :
    (∃ final, items.foldlM step initial = .ok final ∧ p final items) ∨
      ∃ state front item rest error, front ++ item :: rest = items ∧ p state front ∧
        step state item = .error error ∧ items.foldlM step initial = .error error := by
  suffices whole : ∀ rest front state, front ++ rest = items → p state front →
      (∃ final, rest.foldlM step state = .ok final ∧ p final items) ∨
        ∃ state' front item rest' error, front ++ item :: rest' = items ∧ p state' front ∧
          step state' item = .error error ∧ rest.foldlM step state = .error error by
    exact whole items [] initial rfl start
  intro rest
  induction rest with
  | nil =>
      intro front state same known
      rw [List.append_nil] at same
      exact .inl ⟨state, rfl, same ▸ known⟩
  | cons item rest ih =>
      intro front state same known
      rw [List.foldlM_cons]
      cases stepped : step state item with
      | error error => exact .inr ⟨state, front, item, rest, error, same, known, stepped, rfl⟩
      | ok after =>
          exact ih (front ++ [item]) after (by simpa using same)
            (next state front item rest after same known stepped)

/-- What every step of a fold keeps holds of the items folded so far. -/
theorem foldlM_eq_ok {α : Type w} {σ : Type v} {step : σ → α → Except ε σ}
    {p : σ → List α → Prop} {items : List α} {initial final : σ}
    (ok : items.foldlM step initial = .ok final) (start : p initial [])
    (next : ∀ state front item rest after, front ++ item :: rest = items → p state front →
      step state item = .ok after → p after (front ++ [item])) : p final items := by
  rcases foldlM_ok_or_fails start next with
    ⟨ended, same, known⟩ | ⟨_, _, _, _, error, -, -, -, same⟩
  · rw [ok] at same
    cases same
    exact known
  · rw [ok] at same
    cases same

/-- A loop that adds to a list ends while the list fits a bound. -/
theorem foldlM_append {α : Type w} {β : Type v} {step : List β → α → Except ε (List β)}
    {part : α → List β} {bound : Nat} {items : List α}
    (adds : ∀ state, ∀ item ∈ items, state.length + (part item).length ≤ bound →
      step state item = .ok (state ++ part item)) {initial : List β}
    (fits : initial.length + (items.flatMap part).length ≤ bound) :
    items.foldlM step initial = .ok (initial ++ items.flatMap part) := by
  induction items generalizing initial with
  | nil =>
      rw [List.flatMap_nil, List.append_nil]
      rfl
  | cons item rest ih =>
      rw [List.flatMap_cons, List.length_append] at fits
      rw [List.foldlM_cons, adds initial item List.mem_cons_self (by omega), List.flatMap_cons,
        ← List.append_assoc]
      apply ih
      · exact fun state item member => adds state item (List.mem_cons_of_mem _ member)
      · rw [List.length_append]
        omega

/-- Folds whose steps agree on every item agree. -/
theorem foldlM_congr {α : Type w} {σ : Type v} {step other : σ → α → Except ε σ} {items : List α}
    (same : ∀ state, ∀ item ∈ items, step state item = other state item) (initial : σ) :
    items.foldlM step initial = items.foldlM other initial := by
  induction items generalizing initial with
  | nil => rfl
  | cons item rest ih =>
      simp only [List.forall_mem_cons, forall_and] at same
      rw [List.foldlM_cons, List.foldlM_cons, same.1]
      congr 1
      funext state
      exact ih same.2 state

/-- What is related one by one and read alike has a partner read alike. -/
theorem exists_of_forall₂ {α β : Type*} {R : α → α → Prop} {read : α → β} {items others : List α}
    (related : List.Forall₂ R items others) (same : items.map read = others.map read) {item : α}
    (member : item ∈ items) : ∃ other ∈ others, R item other ∧ read item = read other := by
  induction related with
  | nil => cases member
  | cons relates rest ih =>
      obtain ⟨head, tail⟩ := List.cons.inj same
      rcases List.mem_cons.mp member with rfl | member
      · exact ⟨_, List.mem_cons_self, relates, head⟩
      · obtain ⟨other, present, known⟩ := ih tail member
        exact ⟨other, List.mem_cons_of_mem _ present, known⟩

/-- What is read alike wherever it is related reads the same. -/
theorem map_eq_of_forall₂ {α β : Type*} {R : α → α → Prop} {read : α → β} {items others : List α}
    (related : List.Forall₂ R items others)
    (same : ∀ item ∈ items, ∀ other ∈ others, R item other → read item = read other) :
    items.map read = others.map read := by
  induction related with
  | nil => rfl
  | cons relates rest ih =>
      rw [List.map_cons, List.map_cons, same _ List.mem_cons_self _ List.mem_cons_self relates,
        ih fun item member other member' => same item (List.mem_cons_of_mem _ member) other
          (List.mem_cons_of_mem _ member')]

end Results
