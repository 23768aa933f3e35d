import Sysboost.Planner.Completeness
import Sysboost.Planner.Dependencies

/-!
# The dependencies among candidates

A candidate requires another when it depends on the operation of the other at
its own target.  Linking finds exactly these pairs among the admitted mutations.
-/

namespace Sysboost.Planner

open Sysboost.Core Ordered Results

/-- The candidate depends on the operation that the other decides at the same
target. -/
def Candidate.Requires (candidate other : Candidate) : Prop :=
  other.item.target = candidate.item.target ∧ other.item.operation ∈ candidate.dependencies

/-- The admitted mutations. -/
def admitted (candidates : List Candidate) : List Candidate :=
  candidates.filter fun candidate => candidate.item.action.isExecutable

/-- Every dependency of an admitted mutation is decided at its target, and
admitted, in place or preserved there. -/
def Resolves (candidates : List Candidate) : Prop :=
  ∀ candidate ∈ admitted candidates, ∀ dependency ∈ candidate.dependencies,
    ∃ other ∈ candidates, other.item.target = candidate.item.target ∧
      other.item.operation = dependency ∧
      (other.item.action = .mutation ∨ other.item.action = .noOp ∨
        other.item.action = .preserved)

/-- The dependencies between admitted mutations. -/
def Needs (candidates : List Candidate) (candidate other : Candidate) : Prop :=
  candidate ∈ admitted candidates ∧ other ∈ admitted candidates ∧ candidate.Requires other

theorem isExecutable_iff {action : PlanAction} :
    action.isExecutable = true ↔ action = .mutation := by
  cases action <;> simp [PlanAction.isExecutable]

theorem mem_admitted {candidates : List Candidate} {candidate : Candidate} :
    candidate ∈ admitted candidates ↔ candidate ∈ candidates ∧ candidate.item.action = .mutation := by
  rw [admitted, List.mem_filter, isExecutable_iff]

/-- The dependencies of a valid contract are different. -/
theorem Admission.dependencies_nodup {policy : PlannerPolicy} {catalog : OperationCatalog}
    {subject : Subject} (admission : Admission policy catalog subject) :
    admission.contract.dependencies.Nodup := by
  have valid := admission.valid
  unfold OperationContract.validate at valid
  split at valid
  · cases valid
  · split at valid
    · cases valid
    · split at valid
      · cases valid
      next kept => exact nodup_of_length_dropRepeats (not_ne_iff.mp kept)

section Collecting

variable {catalog : OperationCatalog} {input : PlannerInput} {proposals : Proposals}
  {candidates : Candidates} (selected : selectProposals input.policy.proposals = .ok proposals)
  (collected : catalog.collect input proposals = .ok candidates)

/-- The candidates are in the order of their keys. -/
theorem values_sorted (collected : catalog.collect input proposals = .ok candidates) :
    candidates.values.Pairwise fun first second => first.key < second.key := by
  rw [OrderedMap.values, List.pairwise_map]
  refine candidates.sorted.imp_of_mem fun {first second} member member' less => ?_
  have resolved := (collect_collected collected).resolved
  rw [(resolved _ _ (OrderedMap.get_eq_some_iff.mpr member)).1,
    (resolved _ _ (OrderedMap.get_eq_some_iff.mpr member')).1]
  exact less

theorem values_nodup (collected : catalog.collect input proposals = .ok candidates) :
    candidates.values.Nodup :=
  (values_sorted collected).imp fun less same => less.ne (congrArg Candidate.key same)

/-- A place holds one candidate, and a candidate has one place. -/
theorem place_inj (collected : catalog.collect input proposals = .ok candidates)
    {candidate : Candidate} {place place' : Nat} (at' : candidates.values[place]? = some candidate)
    (at'' : candidates.values[place']? = some candidate) : place = place' := by
  have bound := (List.getElem?_eq_some_iff.mp at').1
  exact (List.getElem?_inj bound (values_nodup collected)).mp (at'.trans at''.symm)

include selected collected

/-- An admitted mutation is that of a subject that passed every gate. -/
theorem admission_of_admitted {candidate : Candidate}
    (member : candidate ∈ admitted candidates.values) :
    ∃ subject ∈ considered input proposals, ∃ admission : Admission input.policy catalog subject,
      candidate = admission.candidate := by
  obtain ⟨present, action⟩ := mem_admitted.mp member
  obtain ⟨subject, listed, resolves⟩ := (collect_members selected collected).1 candidate present
  obtain ⟨admission, same⟩ := Subject.resolveSpec_mutation_iff.mp ⟨resolves, action⟩
  exact ⟨subject, listed, admission, same⟩

/-- Admitted mutations are exactly the candidates with a draft. -/
theorem isSome_mutation_iff {candidate : Candidate} (member : candidate ∈ candidates.values) :
    candidate.mutation.isSome = true ↔ candidate.item.action = .mutation := by
  constructor
  · intro drafted
    obtain ⟨draft, drafted⟩ := Option.isSome_iff_exists.mp drafted
    obtain ⟨subject, -, resolves⟩ := (collect_members selected collected).1 candidate member
    obtain ⟨admission, rfl⟩ := admission_of_drafted resolves drafted
    rfl
  · intro action
    obtain ⟨subject, -, admission, rfl⟩ :=
      admission_of_admitted selected collected (mem_admitted.mpr ⟨member, action⟩)
    rfl

/-- Linking succeeds exactly when every dependency resolves. -/
theorem exists_linkAll_iff :
    (∃ linked, linkAll candidates.values = .ok linked) ↔ Resolves candidates.values := by
  obtain ⟨resolved, kept⟩ := collect_members selected collected
  constructor
  · rintro ⟨linked, links⟩ candidate member dependency depends
    obtain ⟨subject, listed, admission, rfl⟩ := admission_of_admitted selected collected member
    obtain ⟨other, listed', target, operation, decided, resolves, action⟩ :=
      dependenciesMet_of_linkAll selected collected links subject listed admission dependency depends
    obtain ⟨decided', present, resolves'⟩ := kept other listed'
    cases resolves.symm.trans resolves'
    obtain ⟨-, -, target', operation'⟩ := Subject.identity_of_resolveSpec resolves
    refine ⟨decided, present, ?_, operation'.trans operation, action⟩
    rw [target', target, admission.targeted]
    rfl
  · intro met
    apply exists_linkAll selected collected
    intro subject listed admission dependency depends
    obtain ⟨candidate, present, resolves⟩ := kept subject listed
    obtain ⟨resolves', action⟩ := Subject.resolveSpec_mutation_iff.mpr ⟨admission, rfl⟩
    cases resolves.symm.trans resolves'
    obtain ⟨other, present', target, operation, action'⟩ :=
      met _ (mem_admitted.mpr ⟨present, action⟩) dependency depends
    obtain ⟨subject', listed', resolves''⟩ := resolved other present'
    obtain ⟨-, -, target', operation'⟩ := Subject.identity_of_resolveSpec resolves''
    refine ⟨subject', listed', ?_, operation'.symm.trans operation, other, resolves'', action'⟩
    rw [← target', target, admission.targeted]
    rfl

/-- A dependency that is admitted is linked to its place. -/
theorem linkDependency_some_iff {candidate : Candidate} {index : Nat} {target : TargetId}
    {dependency : OperationId} {link : Option Nat}
    (ok : linkDependency candidates.values index candidate target dependency = .ok link)
    {position : Nat} :
    link = some position ↔ ∃ other, candidates.values[position]? = some other ∧
      other.item.action = .mutation ∧ other.item.target = some target ∧
      other.item.operation = dependency := by
  unfold linkDependency at ok
  split at ok
  · cases ok
  next found place search =>
    have about := List.find?_some search
    simp only [Bool.and_eq_true, decide_eq_true_eq] at about
    have at' : candidates.values[place]? = some found :=
      List.mem_zipIdx_iff_getElem?.mp (List.mem_of_find?_eq_some search)
    -- No other candidate decides the operation at the target.
    have alone {other : Candidate} (at'' : candidates.values[position]? = some other)
        (target' : other.item.target = some target) (operation : other.item.operation = dependency) :
        other = found ∧ position = place := by
      obtain rfl := candidate_eq selected collected (List.mem_of_getElem? at'')
        (List.mem_of_getElem? at') (target'.trans about.1.symm) (operation.trans about.2.symm)
      exact ⟨rfl, place_inj collected at'' at'⟩
    split at ok
    next idle =>
      have withheld : ¬∃ other, candidates.values[position]? = some other ∧
          other.item.action = .mutation ∧ other.item.target = some target ∧
          other.item.operation = dependency := by
        rintro ⟨other, at'', action, target', operation⟩
        obtain ⟨rfl, -⟩ := alone at'' target' operation
        simp [action, PlanAction.isExecutable] at idle
      split at ok
      · cases ok
        exact iff_of_false (by simp) withheld
      · cases ok
    next executable =>
      have action : found.item.action = .mutation := by
        simpa [isExecutable_iff] using executable
      split at ok
      · cases ok
      · cases ok
        rw [Option.some.injEq]
        constructor
        · rintro rfl
          exact ⟨found, at', action, about.1, about.2⟩
        · rintro ⟨other, at'', -, target', operation⟩
          exact (alone at'' target' operation).2.symm

/-- Different operations are at different places. -/
theorem found_nodup {candidate : Candidate} {index : Nat} {target : TargetId}
    {dependencies : List OperationId} {found : List (Option Nat)}
    (each : List.Forall₂ (fun dependency link =>
      linkDependency candidates.values index candidate target dependency = .ok link)
        dependencies found) (once : dependencies.Nodup) : (found.filterMap id).Nodup := by
  induction each with
  | nil => exact .nil
  | @cons dependency link dependencies found linked each ih =>
      obtain ⟨apart, once⟩ := List.nodup_cons.mp once
      cases link with
      | none => exact ih once
      | some position =>
          refine List.nodup_cons.mpr ⟨fun again => ?_, ih once⟩
          -- A second link to the place would be for the same operation.
          obtain ⟨link, inside, rfl⟩ := List.mem_filterMap.mp again
          obtain ⟨dependency', depends, linked'⟩ :=
            exists_of_mapM_mem (mapM_eq_ok_iff.mpr each) inside
          obtain ⟨other, at', -, -, rfl⟩ :=
            (linkDependency_some_iff selected collected linked).mp rfl
          obtain ⟨other', at'', -, -, rfl⟩ :=
            (linkDependency_some_iff selected collected linked').mp rfl
          cases at'.symm.trans at''
          exact apart depends

/-- The mutations are in the order of their keys already. -/
theorem map_candidate_mutationCandidates :
    (mutationCandidates candidates.values).map Indexed.candidate = admitted candidates.values := by
  have pairs : candidates.values.zipIdx.Pairwise fun first second =>
      first.1.key < second.1.key := by
    have sorted := values_sorted collected
    rwa [← List.zipIdx_map_fst 0 candidates.values, List.pairwise_map] at sorted
  rw [mutationCandidates, sortBy_of_pairwise]
  · have drafted : ∀ candidate ∈ candidates.values,
        candidate.mutation.map (fun _ => candidate) =
          Option.guard (fun candidate => candidate.item.action.isExecutable) candidate := by
      intro candidate member
      have same := isSome_mutation_iff selected collected member
      rw [← isExecutable_iff] at same
      cases draft : candidate.mutation with
      | none =>
          rw [draft] at same
          simpa [Option.guard] using same
      | some draft' =>
          rw [draft] at same
          simpa [Option.guard] using same
    have firsts : (candidates.values.zipIdx.map Prod.fst).filterMap (fun candidate : Candidate =>
        candidate.mutation.map fun _ => candidate) = admitted candidates.values := by
      rw [List.zipIdx_map_fst, List.filterMap_congr drafted, admitted]
      exact congrFun List.filterMap_eq_filter _
    rw [← firsts, List.filterMap_map, List.map_filterMap]
    congr 1
    funext entry
    obtain ⟨candidate, index⟩ := entry
    simp only [Option.map_map, Function.comp_apply]
    rfl
  · rw [List.pairwise_filterMap]
    refine pairs.imp fun less entry made entry' made' => ?_
    obtain ⟨draft, -, rfl⟩ := Option.map_eq_some_iff.mp made
    obtain ⟨draft', -, rfl⟩ := Option.map_eq_some_iff.mp made'
    exact less.le

variable {linked : List Linked} (links : linkAll candidates.values = .ok linked)

include links

/-- How the dependencies of a linked mutation were found. -/
theorem linksOf {entry : Linked} (member : entry ∈ linked) :
    candidates.values[entry.index]? = some entry.candidate ∧
      entry.candidate ∈ admitted candidates.values ∧ entry.candidate.dependencies.Nodup ∧
      ∃ target found, entry.candidate.item.target = some target ∧
        List.Forall₂ (fun dependency link =>
          linkDependency candidates.values entry.index entry.candidate target dependency =
            .ok link) entry.candidate.dependencies found ∧
        entry.dependencies = found.filterMap id := by
  obtain ⟨⟨stands, drafted⟩, made⟩ := linkAll_eq_ok links member
  have present := List.mem_of_getElem? stands
  have action := (isSome_mutation_iff selected collected present).mp (by rw [drafted]; rfl)
  have admitted := mem_admitted.mpr ⟨present, action⟩
  obtain ⟨subject, -, admission, same⟩ := admission_of_admitted selected collected admitted
  refine ⟨stands, admitted, ?_, admission.target, ?_⟩
  · rw [same]
    exact admission.dependencies_nodup
  · have targeted : entry.candidate.item.target = some admission.target := by
      rw [same]
      rfl
    simp only [linkCandidate, targeted] at made
    obtain ⟨found, each, made⟩ := bind_eq_ok_iff.mp made
    exact ⟨found, targeted, mapM_eq_ok_iff.mp each, (Except.ok.inj made).symm⟩

/-- A linked mutation depends on the places of the admitted mutations that its
candidate requires. -/
theorem mem_dependencies_iff {entry : Linked} (member : entry ∈ linked) {position : Nat} :
    position ∈ entry.dependencies ↔ ∃ other, candidates.values[position]? = some other ∧
      other ∈ admitted candidates.values ∧ entry.candidate.Requires other := by
  obtain ⟨-, -, -, target, found, targeted, each, same⟩ :=
    linksOf selected collected links member
  rw [same, List.mem_filterMap]
  constructor
  · rintro ⟨link, inside, rfl⟩
    obtain ⟨dependency, depends, linked⟩ := exists_of_mapM_mem (mapM_eq_ok_iff.mpr each) inside
    obtain ⟨other, at', action, target', rfl⟩ :=
      (linkDependency_some_iff selected collected linked).mp rfl
    exact ⟨other, at', mem_admitted.mpr ⟨List.mem_of_getElem? at', action⟩,
      target'.trans targeted.symm, depends⟩
  · rintro ⟨other, at', admits, target', depends⟩
    obtain ⟨link, inside, linked⟩ := exists_mapM_of_mem (mapM_eq_ok_iff.mpr each) depends
    refine ⟨link, inside, (linkDependency_some_iff selected collected linked).mpr ?_⟩
    exact ⟨other, at', (mem_admitted.mp admits).2, target'.trans targeted, rfl⟩

theorem dependencies_nodup {entry : Linked} (member : entry ∈ linked) :
    entry.dependencies.Nodup := by
  obtain ⟨-, -, once, target, found, -, each, same⟩ := linksOf selected collected links member
  rw [same]
  exact found_nodup selected collected each once

/-- Linking keeps the admitted mutations in the order of their keys. -/
theorem map_candidate_linked :
    (linked.map fun entry => entry.candidate) = admitted candidates.values := by
  rw [← map_candidate_mutationCandidates selected collected]
  have each := mapM_eq_ok_iff.mp links
  clear links
  generalize mutationCandidates candidates.values = indexed at each ⊢
  induction each with
  | nil => rfl
  | cons made _ ih =>
      obtain ⟨_, -, made⟩ := bind_eq_ok_iff.mp made
      cases made
      simp only [List.map_cons, ih]

/-- Linked mutations form a network. -/
theorem networked_of_linkAll : Networked linked := by
  have candidates_ := map_candidate_linked selected collected links
  constructor
  · exact fun entry member => dependencies_nodup selected collected links member
  · intro entry member dependency depends
    obtain ⟨other, at', admits, -⟩ :=
      (mem_dependencies_iff selected collected links member).mp depends
    rw [← candidates_] at admits
    obtain ⟨entry', member', rfl⟩ := List.mem_map.mp admits
    obtain ⟨at'', -⟩ := linksOf selected collected links member'
    exact List.mem_map.mpr ⟨entry', member', place_inj collected at'' at'⟩
  · have nodup : (linked.map fun entry => entry.candidate).Nodup := by
      rw [candidates_]
      exact (values_nodup collected).filter _
    rw [List.Nodup, List.pairwise_map] at nodup ⊢
    refine nodup.imp_of_mem fun {first second} member member' differ same => differ ?_
    obtain ⟨at', -⟩ := linksOf selected collected links member
    obtain ⟨at'', -⟩ := linksOf selected collected links member'
    rw [same, at''] at at'
    exact (Option.some.inj at').symm

/-- A cycle of places is one of candidates. -/
theorem acyclic_edge_iff : Acyclic (Edge linked) ↔ Acyclic (Needs candidates.values) := by
  have candidates_ := map_candidate_linked selected collected links
  constructor
  · intro acyclic
    refine acyclic.of_follows
      (fun candidate place => candidates.values[place]? = some candidate) ?_ ?_
    · exact fun candidate place place' => place_inj collected
    · rintro candidate other ⟨admits, admits', requires⟩
      rw [← candidates_] at admits
      obtain ⟨entry, member, rfl⟩ := List.mem_map.mp admits
      obtain ⟨at', -⟩ := linksOf selected collected links member
      obtain ⟨place, at''⟩ := List.mem_iff_getElem?.mp (mem_admitted.mp admits').1
      refine ⟨entry.index, place, at', at'', entry, member, rfl, ?_⟩
      exact (mem_dependencies_iff selected collected links member).mpr
        ⟨other, at'', admits', requires⟩
  · intro acyclic
    refine acyclic.of_follows
      (fun place candidate => candidates.values[place]? = some candidate) ?_ ?_
    · intro place candidate candidate' at' at''
      exact Option.some.inj (at'.symm.trans at'')
    · rintro place place' ⟨entry, member, rfl, depends⟩
      obtain ⟨at', admits, -⟩ := linksOf selected collected links member
      obtain ⟨other, at'', admits', requires⟩ :=
        (mem_dependencies_iff selected collected links member).mp depends
      exact ⟨entry.candidate, other, at', at'', admits, admits', requires⟩

end Collecting

end Sysboost.Planner
