import Sysboost.Planner.Order

/-!
# The most trusted proposal

A selection fails exactly when a request is invalid or the most trusted
proposals for one key disagree, and otherwise has for every key the operation
that is proposed with the most trust.
-/

namespace Sysboost.Planner

open Sysboost.Core Ordered Results

/-- What is selected among the proposals seen so far. -/
structure Selects (selected : Proposals) (seen : List PolicyProposal) : Prop where
  valid : ∀ proposal ∈ seen, proposal.request.validate = .ok ()
  entry : ∀ key existing, selected.get key = some existing →
    existing ∈ seen ∧ existing.request.key = key
  chosen : ∀ proposal ∈ seen, ∃ existing, selected.get proposal.request.key = some existing ∧
    proposal.source.precedence ≤ existing.source.precedence ∧
      (proposal.source.precedence = existing.source.precedence →
        proposal.request.operation = existing.request.operation)

namespace Selects

variable {selected after : Proposals} {seen rest : List PolicyProposal}
  {proposal : PolicyProposal}

theorem empty : Selects .empty [] := by
  constructor
  · intro proposal member
    cases member
  · intro key existing found
    cases found
  · intro proposal member
    cases member

/-- What is selected for the key of a proposal that is sorted later is at least
as trusted. -/
theorem trusted (selects : Selects selected seen)
    (sorted : (seen ++ proposal :: rest).Pairwise fun first second =>
      first.selectionKey ≤ second.selectionKey) {existing : PolicyProposal}
    (found : selected.get proposal.request.key = some existing) :
    proposal.source.precedence ≤ existing.source.precedence := by
  obtain ⟨member, same⟩ := selects.entry _ _ found
  exact precedence_of_selectionKey
    ((List.pairwise_append.mp sorted).2.2 existing member proposal List.mem_cons_self) same

theorem next (selects : Selects selected seen)
    (sorted : (seen ++ proposal :: rest).Pairwise fun first second =>
      first.selectionKey ≤ second.selectionKey)
    (ok : selectProposal selected proposal = .ok after) : Selects after (seen ++ [proposal]) := by
  obtain ⟨⟨⟩, valid, ok⟩ := bind_eq_ok_iff.mp ok
  have valid' : ∀ other ∈ seen ++ [proposal], other.request.validate = .ok () := by
    intro other member
    rcases List.mem_append.mp member with old | new
    · exact selects.valid other old
    · rwa [List.mem_singleton.mp new]
  cases found : selected.get proposal.request.key with
  | none =>
      simp only [found] at ok
      cases ok
      constructor
      · exact valid'
      · intro key existing shown
        by_cases own : key = proposal.request.key
        · subst own
          rw [OrderedMap.get_insert_self] at shown
          cases shown
          exact ⟨List.mem_append_right _ List.mem_cons_self, rfl⟩
        · rw [OrderedMap.get_insert_of_ne own] at shown
          exact (selects.entry key existing shown).imp_left (List.mem_append_left _)
      · intro other member
        by_cases own : other.request.key = proposal.request.key
        · rcases List.mem_append.mp member with old | new
          · obtain ⟨existing, shown, -⟩ := selects.chosen other old
            rw [own, found] at shown
            cases shown
          · obtain rfl := List.mem_singleton.mp new
            exact ⟨other, OrderedMap.get_insert_self _ _ _, le_refl _, fun _ => rfl⟩
        · rcases List.mem_append.mp member with old | new
          · rw [OrderedMap.get_insert_of_ne own]
            exact selects.chosen other old
          · obtain rfl := List.mem_singleton.mp new
            exact absurd rfl own
  | some existing =>
      have le := selects.trusted sorted found
      have kept : after = selected ∧ (proposal.source.precedence = existing.source.precedence →
          proposal.request.operation = existing.request.operation) := by
        simp only [found] at ok
        split at ok
        next same =>
          cases ok
          exact ⟨rfl, fun _ => same.symm⟩
        · split at ok
          next higher =>
            cases ok
            exact ⟨rfl, fun equal => absurd equal higher.ne⟩
          · split at ok
            next lower => exact absurd le (not_le.mpr lower)
            · cases ok
      obtain ⟨rfl, agrees⟩ := kept
      constructor
      · exact valid'
      · intro key other shown
        exact (selects.entry key other shown).imp_left (List.mem_append_left _)
      · intro other member
        rcases List.mem_append.mp member with old | new
        · exact selects.chosen other old
        · obtain rfl := List.mem_singleton.mp new
          exact ⟨existing, found, le, agrees⟩

/-- A step fails on an invalid request, or because the most trusted proposals
for its key disagree. -/
theorem fails (selects : Selects selected seen)
    (sorted : (seen ++ proposal :: rest).Pairwise fun first second =>
      first.selectionKey ≤ second.selectionKey)
    {error : SysboostError} (failed : selectProposal selected proposal = .error error) :
    proposal.request.validate ≠ .ok () ∨
      ∃ existing, MostTrusted (seen ++ proposal :: rest) proposal.request.key existing ∧
        MostTrusted (seen ++ proposal :: rest) proposal.request.key proposal ∧
          existing.request.operation ≠ proposal.request.operation := by
  by_cases valid : proposal.request.validate = .ok ()
  · right
    unfold selectProposal at failed
    rw [valid] at failed
    cases found : selected.get proposal.request.key with
    | none =>
        simp only [found, bind, Except.bind] at failed
        cases failed
    | some existing =>
        have le := selects.trusted sorted found
        simp only [found, bind, Except.bind] at failed
        split at failed
        · cases failed
        next differs =>
          split at failed
          · cases failed
          next notHigher =>
            have equal := le_antisymm le (not_lt.mp notHigher)
            obtain ⟨member, same⟩ := selects.entry _ _ found
            have highest : ∀ other ∈ seen ++ proposal :: rest,
                other.request.key = proposal.request.key →
                  other.source.precedence ≤ proposal.source.precedence := by
              intro other present own
              rcases List.mem_append.mp present with old | new
              · obtain ⟨shown, known, bound, -⟩ := selects.chosen other old
                rw [own, found] at known
                cases known
                rwa [equal]
              · rcases List.mem_cons.mp new with rfl | later
                · exact le_refl _
                · have order := (List.pairwise_append.mp sorted).2.1
                  exact precedence_of_selectionKey ((List.pairwise_cons.mp order).1 other later)
                    own.symm
            refine ⟨existing, ⟨List.mem_append_left _ member, same, ?_⟩,
              ⟨List.mem_append_right _ List.mem_cons_self, rfl, highest⟩, differs⟩
            rwa [← equal]
  · exact .inl valid

end Selects

theorem validate_eq_ok_iff {request : PolicyRequest} :
    request.validate = .ok () ↔ request.capability = expectedCapability request.operation := by
  constructor
  · exact capability_of_validate
  · intro same
    simp [PolicyRequest.validate, same]

theorem mostTrusted_congr {proposals other : List PolicyProposal}
    (same : ∀ proposal, proposal ∈ proposals ↔ proposal ∈ other) {key : CandidateKey}
    {proposal : PolicyProposal} :
    MostTrusted proposals key proposal ↔ MostTrusted other key proposal := by
  simp only [MostTrusted, same]

/-- A selection that succeeds agrees with every most trusted proposal. -/
theorem Selects.of_mostTrusted {selected : Proposals} {seen : List PolicyProposal}
    (selects : Selects selected seen) {key : CandidateKey} {proposal : PolicyProposal}
    (trusted : MostTrusted seen key proposal) :
    ∃ existing, selected.get key = some existing ∧
      existing.request.operation = proposal.request.operation := by
  obtain ⟨member, rfl, highest⟩ := trusted
  obtain ⟨existing, found, le, agrees⟩ := selects.chosen proposal member
  obtain ⟨present, same⟩ := selects.entry _ _ found
  exact ⟨existing, found, (agrees (le_antisymm le (highest existing present same))).symm⟩

/-- The selection of a list either succeeds, or meets an invalid request or a
conflict of the most trusted proposals. -/
theorem selects_or_fails (proposals : List PolicyProposal) :
    (∃ selected, selectProposals proposals = .ok selected ∧ Selects selected proposals) ∨
      (∃ error, selectProposals proposals = .error error) ∧
        ((∃ proposal ∈ proposals, proposal.request.validate ≠ .ok ()) ∨
          ∃ key first second, MostTrusted proposals key first ∧
            MostTrusted proposals key second ∧
              first.request.operation ≠ second.request.operation) := by
  have sorted := sortBy_pairwise PolicyProposal.selectionKey proposals
  have same : ∀ proposal, proposal ∈ sortBy PolicyProposal.selectionKey proposals ↔
      proposal ∈ proposals := fun proposal => mem_sortBy _
  have step : ∀ state front proposal rest after,
      front ++ proposal :: rest = sortBy PolicyProposal.selectionKey proposals →
        Selects state front → selectProposal state proposal = .ok after →
          Selects after (front ++ [proposal]) := by
    intro state front proposal rest after whole selects stepped
    rw [← whole] at sorted
    exact selects.next sorted stepped
  rcases foldlM_ok_or_fails Selects.empty step with
    ⟨selected, ok, selects⟩ | ⟨state, front, proposal, rest, error, whole, selects, failed, ended⟩
  · refine .inl ⟨selected, ok, ?_, ?_, ?_⟩
    · exact fun proposal member => selects.valid proposal ((same proposal).mpr member)
    · intro key existing found
      exact (selects.entry key existing found).imp_left (same existing).mp
    · exact fun proposal member => selects.chosen proposal ((same proposal).mpr member)
  · refine .inr ⟨⟨error, ended⟩, ?_⟩
    rw [← whole] at sorted
    rcases selects.fails sorted failed with invalid | ⟨existing, first, second, differs⟩
    · left
      refine ⟨proposal, (same proposal).mp ?_, invalid⟩
      rw [← whole]
      exact List.mem_append_right _ List.mem_cons_self
    · rw [whole, mostTrusted_congr same] at first second
      exact .inr ⟨_, existing, proposal, first, second, differs⟩

/-- A selection fails exactly when a request does not match its operation or two
of the most trusted proposals for a key disagree; otherwise it has one entry for
every key, with the operation that is proposed with the most trust. -/
theorem selectProposals_mostTrusted (proposals : List PolicyProposal) :
    ((∃ error, selectProposals proposals = .error error) ↔
      (∃ proposal ∈ proposals,
        proposal.request.capability ≠ expectedCapability proposal.request.operation) ∨
      ∃ key first second, MostTrusted proposals key first ∧ MostTrusted proposals key second ∧
        first.request.operation ≠ second.request.operation) ∧
    ∀ selected, selectProposals proposals = .ok selected →
      (selected.entries.map Prod.fst).Nodup ∧
      (∀ key, (∃ entry, (key, entry) ∈ selected.entries) ↔
        ∃ proposal ∈ proposals, proposal.request.key = key) ∧
      ∀ key entry proposal, (key, entry) ∈ selected.entries →
        MostTrusted proposals key proposal →
          entry.request.operation = proposal.request.operation := by
  rcases selects_or_fails proposals with ⟨selected, ok, selects⟩ | ⟨⟨error, failed⟩, reason⟩
  · constructor
    · constructor
      · rintro ⟨error, failed⟩
        rw [ok] at failed
        cases failed
      · rintro (⟨proposal, member, mismatched⟩ | ⟨key, first, second, one, other, differs⟩)
        · exact absurd (validate_eq_ok_iff.mp (selects.valid proposal member)) mismatched
        · obtain ⟨existing, found, same⟩ := selects.of_mostTrusted one
          obtain ⟨existing', found', same'⟩ := selects.of_mostTrusted other
          rw [found] at found'
          cases found'
          exact absurd (same.symm.trans same') differs
    · intro selected' ok'
      rw [ok] at ok'
      cases ok'
      refine ⟨?_, ?_, ?_⟩
      · exact List.pairwise_map.mpr (selected.sorted.imp fun less => less.ne)
      · intro key
        constructor
        · rintro ⟨entry, member⟩
          exact ⟨entry, selects.entry key entry (OrderedMap.get_eq_some_iff.mpr member)⟩
        · rintro ⟨proposal, member, rfl⟩
          obtain ⟨entry, found, -⟩ := selects.chosen proposal member
          exact ⟨entry, OrderedMap.get_eq_some_iff.mp found⟩
      · intro key entry proposal member trusted
        obtain ⟨existing, found, same⟩ := selects.of_mostTrusted trusted
        rw [OrderedMap.get_eq_some_iff.mpr member] at found
        cases found
        exact same
  · constructor
    · simp only [validate_eq_ok_iff, ne_eq] at reason ⊢
      exact iff_of_true ⟨error, failed⟩ reason
    · intro selected ok
      rw [failed] at ok
      cases ok

end Sysboost.Planner
