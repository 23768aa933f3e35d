import Mathlib.Data.List.Basic
import Mathlib.Logic.Function.Basic

/-!
# Delimited encodings

An encoding is delimited when it ends where a stop begins: two values whose
encodings are followed by rests that are empty or begin with a stop have equal
texts only if the values and the rests are equal.
-/

namespace ByteCodec

universe u v w

variable {α : Type u} {β : Type v} {σ : Type w} {stop other : σ → Prop}

/-- Empty, or beginning with a stop. -/
def Stopped (stop : σ → Prop) (rest : List σ) : Prop :=
  ∀ symbol, rest.head? = some symbol → stop symbol

theorem stopped_nil : Stopped stop [] := by
  simp [Stopped]

theorem stopped_cons {symbol : σ} {rest : List σ} :
    Stopped stop (symbol :: rest) ↔ stop symbol := by
  simp [Stopped]

def Delimited (stop : σ → Prop) (encode : α → List σ) : Prop :=
  ∀ first second rest rest', Stopped stop rest → Stopped stop rest' →
    encode first ++ rest = encode second ++ rest' → first = second ∧ rest = rest'

/-- Two runs without a stop, each up to its first stop. -/
theorem run_append_inj {first second rest rest' : List σ} (run : ∀ symbol ∈ first, ¬stop symbol)
    (run' : ∀ symbol ∈ second, ¬stop symbol) (stopped : Stopped stop rest)
    (stopped' : Stopped stop rest') (same : first ++ rest = second ++ rest') :
    first = second ∧ rest = rest' := by
  induction first generalizing second with
  | nil =>
      cases second with
      | nil => exact ⟨rfl, same⟩
      | cons symbol second =>
          rw [List.nil_append] at same
          rw [same] at stopped
          exact absurd (stopped symbol rfl) (run' symbol List.mem_cons_self)
  | cons symbol first ih =>
      cases second with
      | nil =>
          rw [List.nil_append] at same
          rw [← same] at stopped'
          exact absurd (stopped' symbol rfl) (run symbol List.mem_cons_self)
      | cons symbol' second =>
          obtain ⟨head, tail⟩ := List.cons.inj same
          obtain ⟨runs, rests⟩ := ih
            (fun symbol member => run symbol (List.mem_cons_of_mem _ member))
            (fun symbol member => run' symbol (List.mem_cons_of_mem _ member)) tail
          exact ⟨by rw [head, runs], rests⟩

namespace Delimited

variable {encode : α → List σ} {encode' : β → List σ}

theorem injective (delimited : Delimited stop encode) : Function.Injective encode := by
  intro first second same
  exact (delimited first second [] [] stopped_nil stopped_nil (by rw [same])).1

/-- Encodings without a stop. -/
theorem of_run (run : ∀ value, ∀ symbol ∈ encode value, ¬stop symbol)
    (injective : Function.Injective encode) : Delimited stop encode := by
  intro first second rest rest' stopped stopped' same
  obtain ⟨same, rests⟩ := run_append_inj (run first) (run second) stopped stopped' same
  exact ⟨injective same, rests⟩

theorem congr {written : α → List σ} (delimited : Delimited stop encode)
    (same : ∀ value, written value = encode value) : Delimited stop written := by
  rwa [funext same]

theorem comap (delimited : Delimited stop encode) {view : β → α}
    (injective : Function.Injective view) : Delimited stop fun value => encode (view value) := by
  intro first second rest rest' stopped stopped' same
  obtain ⟨same, rests⟩ := delimited _ _ _ _ stopped stopped' same
  exact ⟨injective same, rests⟩

/-- A fixed text in front. -/
theorem after (front : List σ) (delimited : Delimited stop encode) :
    Delimited stop fun value => front ++ encode value := by
  intro first second rest rest' stopped stopped' same
  rw [List.append_assoc, List.append_assoc] at same
  exact delimited _ _ _ _ stopped stopped' (List.append_cancel_left same)

/-- A fixed text behind that begins with a stop ends an encoding anywhere. -/
theorem closed {symbol : σ} {close : List σ} (stops : stop symbol)
    (delimited : Delimited stop encode) :
    Delimited other fun value => encode value ++ symbol :: close := by
  intro first second rest rest' _ _ same
  rw [List.append_assoc, List.append_assoc] at same
  obtain ⟨same, rests⟩ := delimited _ _ _ _ (stopped_cons.mpr stops) (stopped_cons.mpr stops) same
  have rests : symbol :: close ++ rest = symbol :: close ++ rest' := rests
  exact ⟨same, List.append_cancel_left rests⟩

/-- Two encodings with a fixed text between them that begins with a stop. -/
theorem pair {symbol : σ} {between : List σ} (stops : stop symbol)
    (first : Delimited stop encode) (second : Delimited other encode') :
    Delimited other fun values : α × β =>
      encode values.1 ++ symbol :: between ++ encode' values.2 := by
  rintro ⟨one, two⟩ ⟨one', two'⟩ rest rest' stopped stopped' same
  simp only [List.append_assoc, List.cons_append] at same
  obtain ⟨ones, behind⟩ := first _ _ _ _ (stopped_cons.mpr stops) (stopped_cons.mpr stops) same
  have behind : between ++ (encode' two ++ rest) = between ++ (encode' two' ++ rest') :=
    (List.cons.inj behind).2
  obtain ⟨twos, rests⟩ := second _ _ _ _ stopped stopped' (List.append_cancel_left behind)
  exact ⟨by rw [ones, twos], rests⟩

end Delimited

end ByteCodec
