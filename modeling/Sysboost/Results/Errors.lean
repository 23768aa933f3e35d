import Sysboost.Results.Loops

/-!
# What a fallible computation raises

A predicate on the errors of a computation, followed through sequences, branches
and loops.
-/

namespace Results

universe u v w

variable {ε : Type u} {α β : Type v} {p : ε → Prop}

/-- Every error of the computation satisfies the predicate. -/
def Raises (p : ε → Prop) (x : Except ε α) : Prop :=
  ∀ error, x = .error error → p error

theorem exists_ok {x : Except ε α} (succeeds : x.toBool = true) : ∃ value, x = .ok value := by
  cases x with
  | error error => cases succeeds
  | ok value => exact ⟨value, rfl⟩

theorem exists_error {x : Except ε α} (fails : x.toBool = false) : ∃ error, x = .error error := by
  cases x with
  | error error => exact ⟨error, rfl⟩
  | ok value => cases fails

theorem raises_ok (value : α) : Raises p (.ok value : Except ε α) := by
  intro error raised
  cases raised

theorem raises_error {error : ε} (holds : p error) : Raises p (.error error : Except ε α) := by
  intro other raised
  cases raised
  exact holds

theorem raises_bind {x : Except ε α} {next : α → Except ε β} (first : Raises p x)
    (later : ∀ value, x = .ok value → Raises p (next value)) : Raises p (x >>= next) := by
  cases same : x with
  | error error => exact raises_error (first error same)
  | ok value => exact later value same

theorem raises_ite {condition : Prop} [Decidable condition] {x y : Except ε α}
    (yes : condition → Raises p x) (no : ¬condition → Raises p y) :
    Raises p (if condition then x else y) := by
  split
  · exact yes ‹_›
  · exact no ‹_›

/-- The errors of a computation whose errors are replaced. -/
theorem raises_mapError {δ : Type w} {x : Except δ α} {change : δ → ε}
    (holds : ∀ error, p (change error)) : Raises p (x.mapError change) := by
  cases x with
  | error error => exact raises_error (holds error)
  | ok value => exact raises_ok value

/-- Replacing errors by others of the kind. -/
theorem raises_mapError_of {x : Except ε α} {change : ε → ε} (raises : Raises p x)
    (keeps : ∀ error, p error → p (change error)) : Raises p (x.mapError change) := by
  cases x with
  | error error => exact raises_error (keeps error (raises error rfl))
  | ok value => exact raises_ok value

theorem raises_map {x : Except ε α} {change : α → β} (raises : Raises p x) :
    Raises p (x.map change) := by
  cases x with
  | error error => exact raises_error (raises error rfl)
  | ok value => exact raises_ok (change value)

theorem raises_forM {α : Type w} {check : α → Except ε Unit} {items : List α}
    (each : ∀ item ∈ items, Raises p (check item)) : Raises p (items.forM check) := by
  induction items with
  | nil => exact raises_ok ()
  | cons item rest ih =>
      rw [List.forall_mem_cons] at each
      exact raises_bind each.1 fun _ _ => ih each.2

theorem raises_mapM {α : Type w} {step : α → Except ε β} {items : List α}
    (each : ∀ item ∈ items, Raises p (step item)) : Raises p (items.mapM step) := by
  induction items with
  | nil => exact raises_ok []
  | cons item rest ih =>
      rw [List.forall_mem_cons] at each
      rw [List.mapM_cons]
      exact raises_bind each.1 fun _ _ => raises_bind (ih each.2) fun _ _ => raises_ok _

theorem raises_foldlM {α : Type w} {step : β → α → Except ε β} {items : List α}
    (each : ∀ state, ∀ item ∈ items, Raises p (step state item)) (initial : β) :
    Raises p (items.foldlM step initial) := by
  induction items generalizing initial with
  | nil => exact raises_ok initial
  | cons item rest ih =>
      simp only [List.forall_mem_cons, forall_and] at each
      exact raises_bind (each.1 initial) fun state _ => ih each.2 state

/-- A map whose steps do not fail gives results. -/
theorem exists_mapM {α : Type w} {step : α → Except ε β} {items : List α}
    (each : ∀ item ∈ items, ∃ result, step item = .ok result) :
    ∃ results, items.mapM step = .ok results := by
  induction items with
  | nil => exact ⟨[], rfl⟩
  | cons item rest ih =>
      rw [List.forall_mem_cons] at each
      obtain ⟨⟨result, first⟩, later⟩ := each
      obtain ⟨results, later⟩ := ih later
      exact ⟨result :: results, by rw [List.mapM_cons, first, later]; rfl⟩

end Results
