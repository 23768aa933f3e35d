import Sysboost.Interaction.Early

/-!
# Marked calls

A program that makes one call of a kind, always after the same number of other
calls, is recognised in a longer trace: where two of its runs end together they
are the same run.
-/

namespace Interaction

universe u v w

variable {Call : Type u} {Answer : Call → Type v} {α β ε : Type w}

/-- No call of the trace is marked. -/
def Unmarked (marked : Call → Bool) (trace : List (Exchange Answer)) : Prop :=
  ∀ exchange ∈ trace, marked exchange.request = false

/-- One call of the trace is marked, and it has so many calls before it. -/
def MarkedAt (marked : Call → Bool) (position : Nat) (trace : List (Exchange Answer)) : Prop :=
  ∃ before exchange after, trace = before ++ exchange :: after ∧ before.length = position ∧
    marked exchange.request = true ∧ Unmarked marked before ∧ Unmarked marked after

section Lists

variable {marked : Call → Bool} {position : Nat} {trace first second : List (Exchange Answer)}

@[simp]
theorem unmarked_nil : Unmarked marked ([] : List (Exchange Answer)) := by
  simp [Unmarked]

@[simp]
theorem unmarked_append :
    Unmarked marked (first ++ second) ↔ Unmarked marked first ∧ Unmarked marked second := by
  simp only [Unmarked, List.forall_mem_append]

@[simp]
theorem unmarked_cons {exchange : Exchange Answer} :
    Unmarked marked (exchange :: trace) ↔
      marked exchange.request = false ∧ Unmarked marked trace := by
  simp only [Unmarked, List.forall_mem_cons]

theorem Unmarked.of_suffix (unmarked : Unmarked marked second) (suffix : first <:+ second) :
    Unmarked marked first :=
  fun exchange member => unmarked exchange (suffix.subset member)

theorem MarkedAt.not_unmarked (at_ : MarkedAt marked position trace) : ¬Unmarked marked trace := by
  obtain ⟨before, exchange, after, rfl, -, holds, -, -⟩ := at_
  simp [holds]

/-- What ends after a marked call and holds none lies behind it. -/
theorem suffix_of_unmarked {exchange : Exchange Answer} (holds : marked exchange.request = true)
    (unmarked : Unmarked marked first) (suffix : first <:+ trace ++ exchange :: second) :
    first <:+ second := by
  have tail : exchange :: second <:+ trace ++ exchange :: second := List.suffix_append _ _
  rcases List.suffix_or_suffix_of_suffix suffix tail with inside | around
  · rcases List.suffix_cons_iff.mp inside with same | behind
    · rw [same, unmarked_cons] at unmarked
      simp [holds] at unmarked
    · exact behind
  · have member : exchange ∈ first := around.subset List.mem_cons_self
    simp [unmarked exchange member] at holds

/-- Two traces that end together and hold their mark at the same position are
the same. -/
theorem MarkedAt.eq_of_suffix (first_at : MarkedAt marked position first)
    (second_at : MarkedAt marked position second) (suffix : first <:+ trace ++ second) :
    first = second := by
  obtain ⟨before, exchange, after, rfl, length, holds, -, rest⟩ := first_at
  obtain ⟨before', exchange', after', rfl, length', holds', -, rest'⟩ := second_at
  have inside : exchange :: after <:+ trace ++ (before' ++ exchange' :: after') :=
    (List.suffix_append before _).trans suffix
  rw [← List.append_assoc] at inside
  have later : after <:+ after' :=
    suffix_of_unmarked holds' rest ((List.suffix_cons exchange after).trans inside)
  have tail : exchange' :: after' <:+ (trace ++ before') ++ exchange' :: after' :=
    List.suffix_append _ _
  have same : after.length = after'.length := by
    refine Nat.le_antisymm later.length_le ?_
    rcases List.suffix_or_suffix_of_suffix inside tail with shorter | longer
    · rcases List.suffix_cons_iff.mp shorter with equal | behind
      · exact Nat.le_of_eq (congrArg List.length (List.cons.inj equal).2).symm
      · have member : exchange ∈ after' := behind.subset List.mem_cons_self
        simp [rest' exchange member] at holds
    · simpa using longer.length_le
  have whole : before' ++ exchange' :: after' <:+ trace ++ (before' ++ exchange' :: after') :=
    List.suffix_append _ _
  refine (List.suffix_of_suffix_length_le suffix whole ?_).eq_of_length ?_
  all_goals
    simp only [List.length_append, List.length_cons]
    omega

end Lists

/-- Two runs of a program that begin the same trace are the same run. -/
theorem Traces.unique {program : Prog Answer α} {first second : List (Exchange Answer)}
    {value other : α} (run : Traces program first value) (again : Traces program second other)
    {more rest : List (Exchange Answer)} (same : first ++ more = second ++ rest) :
    first = second ∧ value = other := by
  induction run generalizing second with
  | ret value =>
      cases again
      exact ⟨rfl, rfl⟩
  | call answer _ ih =>
      cases again with
      | call answer' later =>
          simp only [List.cons_append, List.cons.injEq, Exchange.mk.injEq, heq_eq_eq,
            true_and] at same
          obtain ⟨rfl, same⟩ := same
          obtain ⟨rfl, rfl⟩ := ih later same
          exact ⟨rfl, rfl⟩

theorem Traces.deterministic {program : Prog Answer α} {trace : List (Exchange Answer)}
    {value other : α} (run : Traces program trace value) (again : Traces program trace other) :
    value = other := by
  have same : trace ++ [] = trace ++ [] := rfl
  exact (run.unique again same).2

theorem traces_seq_iff {program : Prog Answer α} {next : α → Prog Answer β}
    {trace : List (Exchange Answer)} {result : β} :
    Traces (program >>= next) trace result ↔
      ∃ front middle rest, trace = front ++ rest ∧ Traces program front middle ∧
        Traces (next middle) rest result := by
  induction program generalizing trace with
  | ret middle =>
      constructor
      · exact fun run => ⟨[], middle, trace, rfl, .ret _, run⟩
      · rintro ⟨front, _, rest, rfl, ⟨⟩, run⟩
        exact run
  | call request following ih =>
      constructor
      · intro run
        cases run with
        | call answer run =>
            obtain ⟨front, middle, rest, rfl, first, later⟩ := (ih answer).mp run
            exact ⟨_ :: front, middle, rest, rfl, .call answer first, later⟩
      · rintro ⟨front, middle, rest, rfl, first, later⟩
        cases first with
        | call answer first => exact .call answer ((ih answer).mpr ⟨_, _, _, rfl, first, later⟩)

/-- The runs of a sequence, by what the first program returns. -/
theorem traces_bind_iff {program : Early Answer ε α} {next : α → Early Answer ε β}
    {trace : List (Exchange Answer)} {result : Except ε β} :
    Traces (program >>= next).run trace result ↔
      (∃ error, Traces program.run trace (.error error) ∧ result = .error error) ∨
      ∃ front value rest, trace = front ++ rest ∧ Traces program.run front (.ok value) ∧
        Traces (next value).run rest result := by
  rw [ExceptT.run_bind, traces_seq_iff]
  constructor
  · rintro ⟨front, _ | value, rest, rfl, first, later⟩
    · cases later
      exact .inl ⟨_, by simpa using first, rfl⟩
    · exact .inr ⟨front, value, rest, rfl, first, later⟩
  · rintro (⟨error, first, rfl⟩ | ⟨front, value, rest, rfl, first, later⟩)
    · exact ⟨trace, .error error, [], by simp, first, .ret _⟩
    · exact ⟨front, .ok value, rest, rfl, first, later⟩

/-- A sequence that returns a value has run both of its programs. -/
theorem Traces.of_bind_ok {program : Early Answer ε α} {next : α → Early Answer ε β}
    {trace : List (Exchange Answer)} {result : β}
    (run : Traces (program >>= next).run trace (.ok result)) :
    ∃ front value rest, trace = front ++ rest ∧ Traces program.run front (.ok value) ∧
      Traces (next value).run rest (.ok result) := by
  rcases traces_bind_iff.mp run with ⟨_, -, failed⟩ | both
  · cases failed
  · exact both

theorem traces_check_iff {result value : Except ε α} {trace : List (Exchange Answer)} :
    Traces (Early.check result : Early Answer ε α).run trace value ↔
      trace = [] ∧ value = result := by
  constructor
  · intro run
    cases run
    exact ⟨rfl, rfl⟩
  · rintro ⟨rfl, rfl⟩
    exact .ret _

/-! ## Programs -/

/-- A run that does not fail makes one marked call, after so many others; a run
that fails may stop before it. -/
def Once (marked : Call → Bool) (position : Nat) (program : Early Answer ε α) : Prop :=
  Every (fun trace result => (Unmarked marked trace ∧ ∃ error, result = .error error) ∨
    MarkedAt marked position trace) program.run

/-- A program that makes no marked call, and so many calls unless it fails. -/
def Unmarking (marked : Call → Bool) (calls : Nat) (program : Early Answer ε α) : Prop :=
  Every (fun trace result => Unmarked marked trace ∧
    ∀ value, result = .ok value → trace.length = calls) program.run

section Programs

variable {marked : Call → Bool} {position calls : Nat} {program : Early Answer ε α}
  {next : α → Early Answer ε β}

theorem Unmarking.bind {more : Nat} (first : Unmarking marked calls program)
    (later : ∀ value, Unmarking marked more (next value)) :
    Unmarking marked (calls + more) (program >>= next) := by
  refine Every.run_seq first (fun trace error known => ⟨known.1, nofun⟩) ?_
  intro trace value known
  refine (later value).mono fun rest result also => ?_
  refine ⟨unmarked_append.mpr ⟨known.1, also.1⟩, fun value' same => ?_⟩
  rw [List.length_append, known.2 value rfl, also.2 value' same]

theorem unmarking_check (result : Except ε α) :
    Unmarking marked 0 (Early.check result : Early Answer ε α) :=
  Every.ret_iff.mpr ⟨unmarked_nil, fun _ _ => rfl⟩

/-- A call that is not marked. -/
theorem unmarking_attempt {δ : Type w} {change : δ → ε} {request : Call}
    {next : Answer request → Prog Answer (Except δ α)} (other : marked request = false)
    (returns : ∀ answer, ∃ result, next answer = .ret result) :
    Unmarking marked 1 (Early.attempt change (.call request next)) := by
  refine Every.call_iff.mpr fun answer => ?_
  obtain ⟨result, same⟩ := returns answer
  rw [same]
  refine Every.ret_iff.mpr ⟨?_, fun _ _ => rfl⟩
  simpa using other

/-- A program that fails at once. -/
theorem once_throw (error : ε) : Once marked position (throw error : Early Answer ε α) :=
  Every.ret_iff.mpr (.inl ⟨unmarked_nil, error, rfl⟩)

theorem Once.after_front (first : Unmarking marked calls program)
    (later : ∀ value, Once marked position (next value)) :
    Once marked (calls + position) (program >>= next) := by
  refine Every.run_seq first (fun trace error known => .inl ⟨known.1, error, rfl⟩) ?_
  intro trace value known
  refine (later value).mono fun rest result also => ?_
  rcases also with ⟨none, failed⟩ | ⟨before, exchange, after, rfl, length, holds, front, back⟩
  · exact .inl ⟨unmarked_append.mpr ⟨known.1, none⟩, failed⟩
  · refine .inr ⟨trace ++ before, exchange, after, by simp, ?_, holds, ?_, back⟩
    · rw [List.length_append, known.2 value rfl, length]
    · exact unmarked_append.mpr ⟨known.1, front⟩

theorem Once.before_rest (first : Once marked position program)
    (later : ∀ value, Within (fun call => marked call = false) (fun _ => True) (next value).run) :
    Once marked position (program >>= next) := by
  refine Every.run_seq first (fun trace error known => ?_) ?_
  · exact known.imp (fun both => ⟨both.1, error, rfl⟩) id
  · rintro trace value (⟨-, error, impossible⟩ | ⟨before, exchange, after, rfl, length, holds,
      front, back⟩)
    · cases impossible
    · refine (Within.every (later value)).mono fun rest result also => .inr ?_
      exact ⟨before, exchange, after ++ rest, by simp, length, holds, front,
        unmarked_append.mpr ⟨back, also.1⟩⟩

/-- The marked call itself. -/
theorem once_attempt {δ : Type w} {change : δ → ε} {request : Call}
    {next : Answer request → Prog Answer (Except δ α)} (holds : marked request = true)
    (returns : ∀ answer, ∃ result, next answer = .ret result) :
    Once marked 0 (Early.attempt change (.call request next)) := by
  refine Every.call_iff.mpr fun answer => ?_
  obtain ⟨result, same⟩ := returns answer
  rw [same]
  exact Every.ret_iff.mpr (.inr ⟨[], ⟨request, answer⟩, [], rfl, rfl, holds, unmarked_nil,
    unmarked_nil⟩)

end Programs

end Interaction
