import Sysboost.Results.Loops

/-!
# Code that may panic

A panic stops a process with a message.  Code that may panic returns a value or
that message; what it returns may itself be an error.
-/

namespace Results

universe u v w

variable {ε : Type u} {α β : Type v}

/-- The message of a panic. -/
structure Panic where
  message : String
deriving DecidableEq

/-- `Result::expect`. -/
def expect (message : String) (result : Except ε α) : Except Panic α :=
  result.mapError fun _ => ⟨message⟩

/-- Code that runs to completion. -/
def Returns (x : Except Panic α) : Prop :=
  ∃ value, x = .ok value

theorem returns_ok (value : α) : Returns (.ok value) :=
  ⟨value, rfl⟩

theorem expect_eq_ok_iff {message : String} {result : Except ε α} {value : α} :
    expect message result = .ok value ↔ result = .ok value := by
  cases result with
  | error error => simp [expect, Except.mapError]
  | ok value => simp [expect, Except.mapError]

theorem returns_expect_iff {message : String} {result : Except ε α} :
    Returns (expect message result) ↔ ∃ value, result = .ok value := by
  simp only [Returns, expect_eq_ok_iff]

theorem returns_bind_iff {x : Except Panic α} {next : α → Except Panic β} :
    Returns (x >>= next) ↔ ∃ value, x = .ok value ∧ Returns (next value) := by
  constructor
  · rintro ⟨result, ok⟩
    obtain ⟨value, first, later⟩ := bind_eq_ok_iff.mp ok
    exact ⟨value, first, result, later⟩
  · rintro ⟨value, first, result, later⟩
    exact ⟨result, bind_eq_ok_iff.mpr ⟨value, first, later⟩⟩

/-- Steps that run to completion one after the other. -/
theorem Returns.bind {x : Except Panic α} {next : α → Except Panic β} (first : Returns x)
    (later : ∀ value, x = .ok value → Returns (next value)) : Returns (x >>= next) := by
  obtain ⟨value, known⟩ := first
  exact returns_bind_iff.mpr ⟨value, known, later value known⟩

/-- A loop runs to completion when each of its steps does. -/
theorem returns_mapM_iff {α : Type w} {step : α → Except Panic β} {items : List α} :
    Returns (items.mapM step) ↔ ∀ item ∈ items, Returns (step item) := by
  induction items with
  | nil => simp [Returns, pure, Except.pure]
  | cons item rest ih =>
      rw [List.mapM_cons, List.forall_mem_cons, ← ih, returns_bind_iff]
      constructor
      · rintro ⟨value, first, later⟩
        obtain ⟨values, rest, -⟩ := returns_bind_iff.mp later
        exact ⟨⟨value, first⟩, values, rest⟩
      · rintro ⟨⟨value, first⟩, values, rest⟩
        exact ⟨value, first, returns_bind_iff.mpr ⟨values, rest, returns_ok _⟩⟩

end Results
