import Sysboost.Linux.CpuBackend
import Sysboost.Planner.Fixtures
import Sysboost.Results.Loops

/-!
# What planner and CPU backend take for no change

The planner compares a frequency request with the whole current range; the
backend completes the request from the current range before it compares.  They
disagree about a request that names one end and leaves it as it is.
-/

namespace Sysboost.Linux.Cpu

open Sysboost.Core Sysboost.Planner Results

/-- Every gate but the comparison with the current value lets a wish through. -/
structure Admissible (policy : PlannerPolicy) (catalog : OperationCatalog) (subject : Subject)
    (desired : TypedValue) : Prop where
  unpreserved : policy.isPreserved subject.spec.feature subject.target = none
  gates : ∃ descriptor candidate, subject.descriptor = some descriptor ∧
    descriptor.state = .available ∧
    subject.resolveMutation policy catalog descriptor (.typed desired) = .ok candidate ∧
    candidate.item.action = .mutation

/-- An admissible proposal is planned as a mutation exactly when the current
value is not the one proposed. -/
theorem mutation_iff_ne {policy : PlannerPolicy} {catalog : OperationCatalog} {subject : Subject}
    {proposal : PolicyProposal} (proposed : subject.proposal = some proposal)
    (admissible : Admissible policy catalog subject proposal.request.operation.typedValue) :
    (∃ candidate, subject.resolveSpec policy catalog = .ok candidate ∧
        candidate.item.action = .mutation) ↔
      subject.current ≠ some (.typed proposal.request.operation.typedValue) := by
  obtain ⟨descriptor, candidate, described, available, resolves, action⟩ := admissible.gates
  have wanted : subject.desired policy =
      (some (.typed proposal.request.operation.typedValue), none) := by
    rw [Subject.desired, proposed]
  by_cases same : subject.current = some (.typed proposal.request.operation.typedValue)
  · apply iff_of_false
    · rintro ⟨candidate', resolves', action'⟩
      obtain ⟨inner, resolved, checked⟩ := bind_eq_ok_iff.mp resolves'
      rw [Subject.resolveSpecInner] at resolved
      simp only [admissible.unpreserved, wanted, described, available, Subject.descriptorAction,
        same, if_true] at resolved
      cases resolved
      split at checked
      · cases checked
      · cases checked
        cases action'
    · exact not_not.mpr same
  · apply iff_of_true _ same
    refine ⟨candidate, bind_eq_ok_iff.mpr ⟨candidate, ?_, ?_⟩, action⟩
    · rw [Subject.resolveSpecInner]
      simp only [admissible.unpreserved, wanted, described, available, Subject.descriptorAction,
        if_neg same]
      exact resolves
    · simp [action, Subject.admits, pure, Except.pure]

/-- The request names both ends, or an end that differs from the current one. -/
def Moves (currentMin currentMax : FrequencyKHz) : Option FrequencyKHz → Option FrequencyKHz → Prop
  | some _, some _ => True
  | some min, none => min ≠ currentMin
  | none, some max => max ≠ currentMax
  | none, none => False

/-- Planner and backend agree on whether an admissible frequency request changes
anything exactly when it names both ends or moves the end it names. -/
theorem planner_agrees_iff {policy : PlannerPolicy} {catalog : OperationCatalog}
    {subject : Subject} {proposal : PolicyProposal} {cpuPolicy : CpuPolicyId}
    {minKhz maxKhz : Option FrequencyKHz} {currentMin currentMax : FrequencyKHz}
    {mutation : PlannedMutation} (proposed : subject.proposal = some proposal)
    (request : proposal.request.operation = .cpuFrequency cpuPolicy minKhz maxKhz)
    (named : minKhz.isSome = true ∨ maxKhz.isSome = true)
    (range : subject.current =
      some (.typed (.cpuFrequency (some currentMin) (some currentMax))))
    (admissible : Admissible policy catalog subject (.cpuFrequency minKhz maxKhz))
    (kind : mutation.kind = .cpuFrequency cpuPolicy minKhz maxKhz)
    (desired : mutation.desired = .cpuFrequency minKhz maxKhz) :
    ((∃ candidate, subject.resolveSpec policy catalog = .ok candidate ∧
        candidate.item.action = .mutation) ↔
      CpuBackend.effectiveDesired mutation (.cpuFrequency (some currentMin) (some currentMax)) ≠
        .ok (.cpuFrequency (some currentMin) (some currentMax))) ↔
    Moves currentMin currentMax minKhz maxKhz := by
  have value : proposal.request.operation.typedValue = .cpuFrequency minKhz maxKhz := by
    rw [request]
    rfl
  rw [mutation_iff_ne proposed (value ▸ admissible), value, range,
    CpuBackend.effectiveDesired_frequency kind desired]
  cases minKhz with
  | none =>
      cases maxKhz with
      | none => simp at named
      | some max => simp [Moves]
  | some min =>
      cases maxKhz with
      | none => simp [Moves]
      | some max => simp [Moves, eq_comm]

namespace Fixture

/-- The range of the fixture. -/
def range : TypedValue :=
  .cpuFrequency (some Fixtures.lowest) (some Fixtures.highest)

/-- The input for a request over the range. -/
def input (minKhz maxKhz : Option FrequencyKHz) : PlannerInput :=
  Fixtures.frequencyInput Fixtures.lowest Fixtures.highest minKhz maxKhz

/-- The request of the input. -/
def proposal (minKhz maxKhz : Option FrequencyKHz) : PolicyProposal :=
  ⟨.user, CapabilityIds.cpuPolicyFrequencyMax, Fixtures.cpuTarget,
    .cpuFrequency ⟨0⟩ minKhz maxKhz, false⟩

/-- A mutation that carries the request out. -/
def mutation (minKhz maxKhz : Option FrequencyKHz) : PlannedMutation where
  mutationId := ⟨1⟩
  capability := CapabilityIds.cpuPolicyFrequencyMax
  target := Fixtures.cpuTarget
  kind := .cpuFrequency ⟨0⟩ minKhz maxKhz
  desired := .cpuFrequency minKhz maxKhz
  precondition := ⟨.fill 32 1⟩
  equality := .scalarExact
  dependencies := []
  rollback := ⟨.scalarExact, .compareAndRestore⟩

end Fixture

theorem planner_agrees_iff_lowered :
    let maxKhz : Option FrequencyKHz := some ⟨3000000, rfl⟩
    let subject := customSubject (Fixture.input none maxKhz) (Fixture.proposal none maxKhz)
    ((∃ candidate, subject.resolveSpec (Fixture.input none maxKhz).policy
          Fixtures.frequencyCatalog = .ok candidate ∧ candidate.item.action = .mutation) ↔
      CpuBackend.effectiveDesired (Fixture.mutation none maxKhz) Fixture.range ≠
        .ok Fixture.range) ↔
    Moves ⟨400000, rfl⟩ ⟨4000000, rfl⟩ none maxKhz := by
  intro maxKhz subject
  have admits : ((subject.descriptor.any fun descriptor => descriptor.state = .available &&
      (subject.resolveMutation (Fixture.input none maxKhz).policy Fixtures.frequencyCatalog
        descriptor (.typed (.cpuFrequency none maxKhz))).toOption.any fun candidate =>
          candidate.item.action = .mutation)) = true := by
    decide +kernel
  obtain ⟨descriptor, described, passes⟩ := Option.any_eq_true _ _ |>.mp admits
  rw [Bool.and_eq_true, decide_eq_true_eq] at passes
  obtain ⟨candidate, resolves, action⟩ := exists_ok_of_any passes.2
  exact planner_agrees_iff rfl rfl (.inr rfl) rfl
    ⟨by decide +kernel, descriptor, candidate, described, passes.1, resolves,
      of_decide_eq_true action⟩ rfl rfl

/-- The planner plans a mutation that changes nothing of what the backend has. -/
theorem planner_agrees_keptMinimum :
    ∃ plan, Fixtures.frequencyCatalog.build (Fixture.input (some ⟨400000, rfl⟩) none) = .ok plan ∧
      ∃ mutation ∈ plan.mutations, mutation.desired = .cpuFrequency (some ⟨400000, rfl⟩) none ∧
        CpuBackend.effectiveDesired mutation Fixture.range = .ok Fixture.range := by
  have planned : ((Fixtures.frequencyCatalog.build
      (Fixture.input (some ⟨400000, rfl⟩) none)).toOption.any fun plan =>
        plan.mutations.any fun mutation =>
          mutation.desired = .cpuFrequency (some ⟨400000, rfl⟩) none &&
            (CpuBackend.effectiveDesired mutation Fixture.range).toOption.any
              (· = Fixture.range)) = true := by
    decide +kernel
  obtain ⟨plan, built, planned⟩ := exists_ok_of_any planned
  obtain ⟨mutation, member, keeps⟩ := List.any_eq_true.mp planned
  rw [Bool.and_eq_true, decide_eq_true_eq] at keeps
  obtain ⟨value, effective, same⟩ := exists_ok_of_any keeps.2
  rw [of_decide_eq_true same] at effective
  exact ⟨plan, built, mutation, member, keeps.1, effective⟩

end Sysboost.Linux.Cpu
