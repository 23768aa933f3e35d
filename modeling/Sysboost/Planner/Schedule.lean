import Sysboost.Planner.Outcome

/-!
# The schedule of the mutations

A mutation is scheduled once, and after everything on which it depends, so the
ID of a dependency is never the one that overflows to zero.
-/

namespace Sysboost.Planner

open Sysboost.Core Ordered Results

/-- The dependencies that are not scheduled do not exceed the degree. -/
def Waiting.Counts (done : List Nat) (entry : Waiting) : Prop :=
  (entry.dependencies.filter (· ∉ done)).length ≤ entry.degree

/-- What is known of the mutations that wait while others are done. -/
def Awaits (done : List Nat) (waiting : List Waiting) : Prop :=
  ∀ entry ∈ waiting, entry.Counts done ∧ entry.index ∉ done

theorem awaits_release {done : List Nat} {waiting : List Waiting} {scheduled : Waiting}
    (awaits : Awaits done waiting) (member : scheduled ∈ waiting) :
    Awaits (scheduled.index :: done) (release scheduled waiting) := by
  intro entry released
  obtain ⟨earlier, kept, rfl⟩ := List.mem_map.mp released
  obtain ⟨present, differs⟩ := List.mem_filter.mp kept
  have differs : earlier.index ≠ scheduled.index := by simpa using differs
  obtain ⟨counts, waits⟩ := awaits earlier present
  have again : earlier.dependencies.filter (· ∉ scheduled.index :: done) =
      (earlier.dependencies.filter (· ∉ done)).filter (· ≠ scheduled.index) := by
    simp [List.filter_filter]
  constructor
  · split
    · rename_i depends
      have fewer : ((earlier.dependencies.filter (· ∉ done)).filter (· ≠ scheduled.index)).length <
          (earlier.dependencies.filter (· ∉ done)).length := by
        refine List.length_filter_lt_length_iff_exists.mpr ⟨scheduled.index, ?_, by simp⟩
        exact List.mem_filter.mpr ⟨depends, by simpa using (awaits scheduled member).2⟩
      simp only [Waiting.Counts, again] at counts ⊢
      omega
    · simp only [Waiting.Counts, again] at counts ⊢
      exact (List.length_filter_le _ _).trans counts
  · split
    all_goals exact List.not_mem_cons_of_ne_of_not_mem differs waits

/-- A ready mutation waits for nothing. -/
theorem popReady_mem {waiting : List Waiting} {ready : Waiting}
    (popped : popReady waiting = some ready) : ready ∈ waiting ∧ ready.degree = 0 := by
  have member := List.mem_filter.mp (List.argmin_mem popped)
  exact ⟨member.1, by simpa using member.2⟩

/-- Dependencies are scheduled first. -/
theorem mem_front_of_schedule {rounds : Nat} {waiting : List Waiting} {done : List Nat}
    (awaits : Awaits done waiting) {front back : List Linked} {entry : Linked}
    (split : schedule rounds waiting = front ++ entry :: back) :
    ∀ dependency ∈ entry.dependencies,
      dependency ∈ done ∨ ∃ other ∈ front, other.index = dependency := by
  induction rounds generalizing waiting done front with
  | zero => simp [schedule] at split
  | succ rounds ih =>
      unfold schedule at split
      cases popped : popReady waiting with
      | none => simp [popped] at split
      | some ready =>
          obtain ⟨member, free⟩ := popReady_mem popped
          simp only [popped] at split
          cases front with
          | nil =>
              obtain ⟨rfl, -⟩ := List.cons.inj split
              intro dependency depends
              have counts := (awaits ready member).1
              rw [Waiting.Counts, free, Nat.le_zero, List.length_eq_zero_iff,
                List.filter_eq_nil_iff] at counts
              exact .inl (by simpa using counts dependency depends)
          | cons first front =>
              obtain ⟨rfl, later⟩ := List.cons.inj split
              intro dependency depends
              rcases ih (awaits_release awaits member) later dependency depends with
                known | ⟨other, present, same⟩
              · rcases List.mem_cons.mp known with rfl | known
                · exact .inr ⟨ready.toLinked, List.mem_cons_self, rfl⟩
                · exact .inl known
              · exact .inr ⟨other, List.mem_cons_of_mem _ present, same⟩

/-- Nothing is scheduled twice. -/
theorem schedule_nodup {rounds : Nat} {waiting : List Waiting} {done : List Nat}
    (awaits : Awaits done waiting) :
    ((schedule rounds waiting).map fun entry => entry.index).Nodup ∧
      ∀ entry ∈ schedule rounds waiting, entry.index ∉ done := by
  induction rounds generalizing waiting done with
  | zero => simp [schedule]
  | succ rounds ih =>
      unfold schedule
      cases popped : popReady waiting with
      | none => simp
      | some ready =>
          obtain ⟨member, -⟩ := popReady_mem popped
          obtain ⟨nodup, fresh⟩ := ih (awaits_release awaits member)
          refine ⟨List.nodup_cons.mpr ⟨fun again => ?_, nodup⟩, fun entry scheduled => ?_⟩
          · obtain ⟨other, present, same⟩ := List.mem_map.mp again
            exact fresh other present (by simp [same])
          · rcases List.mem_cons.mp scheduled with rfl | later
            · exact (awaits ready member).2
            · exact fun known => fresh entry later (List.mem_cons_of_mem _ known)

theorem awaits_initial (linked : List Linked) :
    Awaits [] (linked.map fun entry => { entry with degree := entry.dependencies.length }) := by
  intro entry member
  obtain ⟨first, -, rfl⟩ := List.mem_map.mp member
  exact ⟨List.length_filter_le _ _, List.not_mem_nil⟩

/-! ## Numbers -/

/-- Unequal entries are numbered at different places. -/
theorem topological_nodup (linked : List Linked) :
    ((topological linked).map fun entry => entry.index).Nodup :=
  (schedule_nodup (awaits_initial linked)).1

/-- The place of an entry is its number. -/
theorem findIdx_of_getElem? {ordered : List Linked} {entry : Linked} {place : Nat}
    (nodup : (ordered.map fun entry => entry.index).Nodup)
    (at' : ordered[place]? = some entry) :
    ordered.findIdx (fun other => other.index = entry.index) = place := by
  obtain ⟨bound, rfl⟩ := List.getElem?_eq_some_iff.mp at'
  rw [List.findIdx_eq bound]
  constructor
  · simp
  · intro earlier less
    have differ := List.pairwise_iff_getElem.mp nodup earlier place
      (by rw [List.length_map]; omega) (by rwa [List.length_map]) less
    simpa using differ

/-- A dependency has a smaller number than what depends on it. -/
theorem findIdx_dependency_lt {linked : List Linked} {entry : Linked}
    (ordered : entry ∈ topological linked) {dependency : Nat}
    (depends : dependency ∈ entry.dependencies) :
    (topological linked).findIdx (fun other => other.index = dependency) <
      (topological linked).findIdx fun other => other.index = entry.index := by
  obtain ⟨front, back, split⟩ := List.append_of_mem ordered
  have at' : (topological linked)[front.length]? = some entry := by simp [split]
  rw [findIdx_of_getElem? (topological_nodup linked) at']
  rcases mem_front_of_schedule (awaits_initial linked) split dependency depends with
    known | ⟨other, present, same⟩
  · cases known
  · rw [split, List.findIdx_append]
    have found : front.findIdx (fun other => other.index = dependency) < front.length :=
      List.findIdx_lt_length_of_exists ⟨other, present, by simpa using same⟩
    rwa [if_pos found]

/-- A candidate that is scheduled gets the mutation of its number. -/
theorem completeItem_mutation {ordered : List Linked}
    {planned : List (Linked × PlannedMutation)}
    (nodup : (ordered.map fun entry => entry.index).Nodup)
    (plans : ordered.mapM (fun entry => do return (entry, ← planMutation ordered entry)) =
      .ok planned) {entry : Linked} (member : entry ∈ ordered) (candidate : Candidate) :
    ∃ mutation, mutation.mutationId = assignedId ordered entry.index ∧
      (completeItem planned candidate entry.index).item.mutation = some mutation := by
  obtain ⟨pair, present, made⟩ := exists_mapM_of_mem plans member
  obtain ⟨mutation, gives, made⟩ := bind_eq_ok_iff.mp made
  cases made
  have found : planned.find? (fun other => other.1.index = entry.index) =
      some (entry, mutation) := by
    cases search : planned.find? (fun other => other.1.index = entry.index) with
    | none => exact absurd (List.find?_eq_none.mp search _ present) (by simp)
    | some other =>
        obtain ⟨entry', member', made'⟩ :=
          exists_of_mapM_mem plans (List.mem_of_find?_eq_some search)
        obtain ⟨mutation', gives', made'⟩ := bind_eq_ok_iff.mp made'
        cases made'
        have same : entry'.index = entry.index := by simpa using List.find?_some search
        obtain rfl := List.inj_on_of_nodup_map nodup member' member same
        rw [gives] at gives'
        cases gives'
        rfl
  exact ⟨mutation, by rw [(PlannedMutation.eq_of_new gives).1], by simp [completeItem, found]⟩

/-- Where no two mutations share an ID, the numbers fit the IDs. -/
theorem findIdx_lt {candidates : List Candidate} {linked : List Linked}
    {planned : List (Linked × PlannedMutation)}
    (links : linkAll candidates = .ok linked)
    (plans : (topological linked).mapM (fun entry => do
      return (entry, ← planMutation (topological linked) entry)) = .ok planned)
    (unique : ((candidates.zipIdx.map fun (candidate, index) =>
      completeItem planned candidate index).filterMap fun completed =>
        completed.item.mutation).Pairwise fun first second =>
          first.mutationId ≠ second.mutationId) {entry : Linked}
    (ordered : entry ∈ topological linked) :
    (topological linked).findIdx (fun other => other.index = entry.index) < 2 ^ 32 := by
  have nodup := topological_nodup linked
  by_contra! large
  obtain ⟨place, at'⟩ := List.getElem?_of_mem ordered
  have own := findIdx_of_getElem? nodup at'
  rw [own] at large
  obtain ⟨other, at''⟩ : ∃ other, (topological linked)[place - 2 ^ 32]? = some other := by
    refine ⟨_, List.getElem?_eq_getElem ?_⟩
    have bound := (List.getElem?_eq_some_iff.mp at').1
    omega
  have earlier := findIdx_of_getElem? nodup at''
  have differ : entry.index ≠ other.index := by
    intro same
    rw [same, earlier] at own
    omega
  have ids : assignedId (topological linked) entry.index =
      assignedId (topological linked) other.index := by
    simp only [assignedId, own, earlier, MutationId.mk.injEq, ← UInt32.toNat_inj,
      UInt32.toNat_ofNat']
    omega
  have completed {entry : Linked} (ordered : entry ∈ topological linked) :
      ∃ mutation, mutation.mutationId = assignedId (topological linked) entry.index ∧
        ∃ candidate, (candidates.zipIdx.map fun (candidate, index) =>
          completeItem planned candidate index)[entry.index]? = some candidate ∧
            candidate.item.mutation = some mutation := by
    obtain ⟨mutation, id, made⟩ := completeItem_mutation nodup plans ordered entry.candidate
    have stands := (linkAll_eq_ok links (mem_of_topological ordered)).1.1
    exact ⟨mutation, id, _, by simp [stands], made⟩
  obtain ⟨mutation, id, candidate, stands, made⟩ := completed ordered
  obtain ⟨mutation', id', candidate', stands', made'⟩ := completed (List.mem_of_getElem? at'')
  rw [List.pairwise_filterMap] at unique
  have apart : mutation.mutationId ≠ mutation'.mutationId := by
    obtain ⟨bound, here⟩ := List.getElem?_eq_some_iff.mp stands
    obtain ⟨bound', there⟩ := List.getElem?_eq_some_iff.mp stands'
    rcases Nat.lt_or_gt_of_ne differ with less | less
    · refine List.pairwise_iff_getElem.mp unique _ _ bound bound' less _ ?_ _ ?_
      · rw [here, made]
      · rw [there, made']
    · refine (List.pairwise_iff_getElem.mp unique _ _ bound' bound less _ ?_ _ ?_).symm
      · rw [there, made']
      · rw [here, made]
  exact apart (by rw [id, id', ids])

/-- Unless two mutations share an ID, none depends on the ID zero. -/
theorem dependency_ne_zero {policy : PlannerPolicy} {candidates : Candidates}
    {resolution : PolicyResolution} (ok : finalizeCandidates policy candidates = .ok resolution)
    (fresh : ∀ candidate ∈ candidates.values, candidate.item.mutation = none)
    (unique : (resolution.items.filterMap PlanItem.mutation).Pairwise fun first second =>
      first.mutationId ≠ second.mutationId)
    {item : PlanItem} (member : item ∈ resolution.items) {mutation : PlannedMutation}
    (carries : item.mutation = some mutation) {dependency : MutationId}
    (depends : dependency ∈ mutation.dependencies) : dependency.get ≠ 0 := by
  obtain ⟨linked, links, ok⟩ := bind_eq_ok_iff.mp ok
  dsimp only at ok
  split at ok
  · cases ok
  obtain ⟨planned, plans, ok⟩ := bind_eq_ok_iff.mp ok
  cases ok
  have symmetric : Std.Symm fun first second : PlannedMutation =>
      first.mutationId ≠ second.mutationId := ⟨fun _ _ => Ne.symm⟩
  have unique : ((candidates.values.zipIdx.map fun (candidate, index) =>
      completeItem planned candidate index).filterMap fun completed =>
        completed.item.mutation).Pairwise fun first second =>
          first.mutationId ≠ second.mutationId := by
    rw [List.filterMap_map] at unique
    exact (((sortBy_perm _ _).filterMap _).pairwise_iff (symmetric.symm _ _)).mp unique
  simp only [List.mem_map, mem_sortBy] at member
  obtain ⟨completed, ⟨⟨candidate, index⟩, present, rfl⟩, rfl⟩ := member
  have at' := List.mem_of_getElem? (List.mem_zipIdx_iff_getElem?.mp present)
  unfold completeItem at carries
  split at carries
  · rw [fresh candidate at'] at carries
    cases carries
  next entry made found =>
    cases carries
    obtain ⟨entry', ordered, gives⟩ := exists_of_mapM_mem plans (List.mem_of_find?_eq_some found)
    obtain ⟨mutation', gives, same⟩ := bind_eq_ok_iff.mp gives
    cases same
    rw [(PlannedMutation.eq_of_new gives).1] at depends
    obtain ⟨place, needs, rfl⟩ := List.mem_map.mp depends
    have less := findIdx_dependency_lt ordered needs
    have bound := findIdx_lt links plans unique ordered
    intro zero
    have zero := congrArg UInt32.toNat zero
    simp only [assignedId, UInt32.toNat_ofNat', UInt32.toNat_zero] at zero
    omega

end Sysboost.Planner
