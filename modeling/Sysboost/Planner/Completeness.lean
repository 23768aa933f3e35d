import Sysboost.Ordered.SmallestFirst
import Sysboost.Planner.Schedule

/-!
# The schedule leaves nothing out

While some mutation waits and no dependencies form a cycle, one that waits for
nothing is found, so the schedule ends with every mutation in it.  It takes the
smallest of those that wait for nothing at every turn.
-/

namespace Sysboost.Planner

open Sysboost.Core Ordered Results

/-- What is known of the mutations that wait when exactly the others are done. -/
structure Poised (done : List Nat) (waiting : List Waiting) : Prop where
  degrees : ∀ entry ∈ waiting,
    entry.degree = (entry.dependencies.filter (· ∉ done)).length
  once : ∀ entry ∈ waiting, entry.dependencies.Nodup
  known : ∀ entry ∈ waiting, ∀ dependency ∈ entry.dependencies,
    dependency ∈ done ∨ dependency ∈ waiting.map fun other => other.index
  fresh : ∀ entry ∈ waiting, entry.index ∉ done
  distinct : (waiting.map fun entry => entry.index).Nodup

theorem filter_ne_eq_erase {items : List Nat} (nodup : items.Nodup) (item : Nat) :
    items.filter (· ≠ item) = items.erase item := by
  rw [nodup.erase_eq_filter]
  apply List.filter_congr
  intro other _
  by_cases same : other = item
  · simp [same]
  · simp [same]

namespace Poised

variable {done : List Nat} {waiting : List Waiting}

/-- The mutations that stay when one is scheduled. -/
theorem exists_of_mem_release {scheduled entry : Waiting}
    (member : entry ∈ release scheduled waiting) :
    ∃ earlier ∈ waiting, earlier.index ≠ scheduled.index ∧
      earlier.toLinked = entry.toLinked ∧
      entry.degree = earlier.degree - if scheduled.index ∈ earlier.dependencies then 1 else 0 := by
  obtain ⟨earlier, kept, rfl⟩ := List.mem_map.mp member
  obtain ⟨present, differs⟩ := List.mem_filter.mp kept
  refine ⟨earlier, present, by simpa using differs, ?_⟩
  split
  · exact ⟨rfl, rfl⟩
  · exact ⟨rfl, rfl⟩

theorem map_index_release (scheduled : Waiting) (waiting : List Waiting) :
    ((release scheduled waiting).map fun entry => entry.index) =
      (waiting.map fun entry => entry.index).filter (· ≠ scheduled.index) := by
  rw [release, List.map_map, List.filter_map]
  apply List.map_congr_left
  intro entry _
  simp only [Function.comp_apply]
  split <;> rfl

theorem release {scheduled : Waiting} (poised : Poised done waiting)
    (member : scheduled ∈ waiting) :
    Poised (scheduled.index :: done) (Planner.release scheduled waiting) := by
  constructor
  · intro entry released
    obtain ⟨earlier, present, -, same, degree⟩ := exists_of_mem_release released
    have again : entry.dependencies.filter (· ∉ scheduled.index :: done) =
        (entry.dependencies.filter (· ∉ done)).filter (· ≠ scheduled.index) := by
      simp [List.filter_filter]
    have dependencies : earlier.dependencies = entry.dependencies :=
      congrArg Linked.dependencies same
    have once : (entry.dependencies.filter (· ∉ done)).Nodup :=
      (dependencies ▸ poised.once earlier present).filter _
    rw [degree, poised.degrees earlier present, dependencies, again]
    split
    next depends =>
      have waits : scheduled.index ∈ entry.dependencies.filter (· ∉ done) :=
        List.mem_filter.mpr ⟨depends, by simpa using poised.fresh scheduled member⟩
      rw [filter_ne_eq_erase once, List.length_erase_of_mem waits]
    next independent =>
      rw [Nat.sub_zero]
      congr 1
      refine (List.filter_eq_self.mpr fun dependency inside => ?_).symm
      have differs : dependency ≠ scheduled.index := by
        rintro rfl
        exact independent (List.mem_filter.mp inside).1
      simpa using differs
  · intro entry released
    obtain ⟨earlier, present, -, same, -⟩ := exists_of_mem_release released
    have once := poised.once earlier present
    rwa [congrArg Linked.dependencies same] at once
  · intro entry released dependency depends
    obtain ⟨earlier, present, -, same, -⟩ := exists_of_mem_release released
    rw [← congrArg Linked.dependencies same] at depends
    rw [map_index_release, List.mem_filter, List.mem_cons]
    rcases poised.known earlier present dependency depends with before | later
    · exact .inl (.inr before)
    · by_cases own : dependency = scheduled.index
      · exact .inl (.inl own)
      · exact .inr ⟨later, by simpa using own⟩
  · intro entry released
    obtain ⟨earlier, present, differs, same, -⟩ := exists_of_mem_release released
    rw [← congrArg (fun entry : Linked => entry.index) same]
    exact List.not_mem_cons_of_ne_of_not_mem differs (poised.fresh earlier present)
  · rw [map_index_release]
    exact poised.distinct.filter _

theorem length_release {scheduled : Waiting} (poised : Poised done waiting)
    (member : scheduled ∈ waiting) :
    (Planner.release scheduled waiting).length + 1 = waiting.length := by
  have present : scheduled.index ∈ waiting.map fun entry => entry.index :=
    List.mem_map_of_mem member
  have lengths := congrArg List.length (map_index_release scheduled waiting)
  rw [filter_ne_eq_erase poised.distinct, List.length_erase_of_mem present, List.length_map,
    List.length_map] at lengths
  have positive := List.length_pos_of_mem member
  omega

/-- A mutation all of whose dependencies are done is ready. -/
theorem degree_eq_zero_iff (poised : Poised done waiting) {entry : Waiting}
    (member : entry ∈ waiting) :
    entry.degree = 0 ↔ ∀ dependency ∈ entry.dependencies, dependency ∈ done := by
  rw [poised.degrees entry member, List.length_eq_zero_iff, List.filter_eq_nil_iff]
  simp

end Poised

/-! ## Turns -/

section Turns

variable {R : Nat → Nat → Prop} {done : List Nat} {waiting : List Waiting}

/-- While some mutation waits and there is no cycle, one is ready. -/
theorem exists_popReady (acyclic : Acyclic R) (poised : Poised done waiting)
    (edges : ∀ entry ∈ waiting, ∀ dependency ∈ entry.dependencies, R entry.index dependency)
    (nonempty : waiting ≠ []) : ∃ ready, popReady waiting = some ready := by
  have indices : (waiting.map fun entry => entry.index) ≠ [] := by simpa using nonempty
  obtain ⟨index, member, last⟩ := acyclic.exists_last indices
  obtain ⟨entry, present, rfl⟩ := List.mem_map.mp member
  have free : entry.degree = 0 := by
    refine (poised.degree_eq_zero_iff present).mpr fun dependency depends => ?_
    rcases poised.known entry present dependency depends with before | later
    · exact before
    · exact absurd (edges entry present dependency depends) (last dependency later)
  have ready : entry ∈ waiting.filter fun entry => entry.degree = 0 :=
    List.mem_filter.mpr ⟨present, by simpa using free⟩
  refine Option.ne_none_iff_exists'.mp fun none => ?_
  rw [List.argmin_eq_none.mp none] at ready
  cases ready

/-- Without a cycle every mutation gets its turn. -/
theorem length_schedule (acyclic : Acyclic R) {rounds : Nat} (poised : Poised done waiting)
    (edges : ∀ entry ∈ waiting, ∀ dependency ∈ entry.dependencies, R entry.index dependency)
    (enough : waiting.length = rounds) : (schedule rounds waiting).length = rounds := by
  induction rounds generalizing done waiting with
  | zero => rfl
  | succ rounds ih =>
      have nonempty : waiting ≠ [] := by
        rintro rfl
        cases enough
      obtain ⟨ready, popped⟩ := exists_popReady acyclic poised edges nonempty
      obtain ⟨member, -⟩ := popReady_mem popped
      have fewer := poised.length_release member
      simp only [schedule, popped, List.length_cons, Nat.add_right_cancel_iff]
      refine ih (poised.release member) ?_ (by omega)
      intro entry released dependency depends
      obtain ⟨earlier, present, -, same, -⟩ := Poised.exists_of_mem_release released
      rw [← congrArg Linked.dependencies same] at depends
      rw [← congrArg (fun entry : Linked => entry.index) same]
      exact edges earlier present dependency depends

/-- The order in which ready mutations are taken. -/
def Indexed.turn (entry : Indexed) : CandidateKey ×ₗ ℕ :=
  toLex (entry.candidate.key, entry.index)

/-- Whatever could have been taken instead is not smaller. -/
theorem turn_le_of_schedule {rounds : Nat} (poised : Poised done waiting)
    {front back : List Linked} {entry other : Linked}
    (split : schedule rounds waiting = front ++ entry :: back) (later : other ∈ back)
    (free : ∀ dependency ∈ other.dependencies,
      dependency ∈ done ∨ dependency ∈ front.map fun earlier => earlier.index) :
    entry.turn ≤ other.turn := by
  induction rounds generalizing waiting done front with
  | zero => simp [schedule] at split
  | succ rounds ih =>
      unfold schedule at split
      cases popped : popReady waiting with
      | none => simp [popped] at split
      | some ready =>
          obtain ⟨member, -⟩ := popReady_mem popped
          simp only [popped] at split
          cases front with
          | nil =>
              obtain ⟨rfl, rfl⟩ := List.cons.inj split
              obtain ⟨released, kept, rfl⟩ := mem_of_schedule later
              obtain ⟨earlier, present, -, same, -⟩ := Poised.exists_of_mem_release kept
              rw [← same] at free ⊢
              have degree : earlier.degree = 0 :=
                (poised.degree_eq_zero_iff present).mpr (by simpa using free)
              have free : earlier ∈ waiting.filter fun entry => entry.degree = 0 :=
                List.mem_filter.mpr ⟨present, by simpa using degree⟩
              have least := List.le_of_mem_argmin free popped
              exact least
          | cons first front =>
              obtain ⟨rfl, rest⟩ := List.cons.inj split
              refine ih (poised.release member) rest fun dependency depends => ?_
              rcases free dependency depends with before | inside
              · exact .inl (List.mem_cons_of_mem _ before)
              · rcases List.mem_cons.mp inside with rfl | inside
                · exact .inl List.mem_cons_self
                · exact .inr inside

end Turns

/-! ## Whole schedules -/

theorem topological_subperm (linked : List Linked) : (topological linked).Subperm linked := by
  have nodup : (topological linked).Nodup := .of_map _ (topological_nodup linked)
  exact List.subperm_of_subset nodup fun _ member => mem_of_topological member

/-- What linking makes of the mutations. -/
structure Networked (linked : List Linked) : Prop where
  once : ∀ entry ∈ linked, entry.dependencies.Nodup
  known : ∀ entry ∈ linked, ∀ dependency ∈ entry.dependencies,
    dependency ∈ linked.map fun other => other.index
  distinct : (linked.map fun entry => entry.index).Nodup

/-- An index of a mutation and that of one on which it depends. -/
def Edge (linked : List Linked) (index dependency : Nat) : Prop :=
  ∃ entry ∈ linked, entry.index = index ∧ dependency ∈ entry.dependencies

namespace Networked

variable {linked : List Linked}

theorem poised (networked : Networked linked) :
    Poised [] (linked.map fun entry =>
      { entry with degree := entry.dependencies.length }) := by
  constructor
  · intro entry member
    obtain ⟨first, -, rfl⟩ := List.mem_map.mp member
    simp
  · intro entry member
    obtain ⟨first, present, rfl⟩ := List.mem_map.mp member
    exact networked.once first present
  · intro entry member dependency depends
    obtain ⟨first, present, rfl⟩ := List.mem_map.mp member
    rw [List.map_map]
    exact .inr (networked.known first present dependency depends)
  · simp
  · rw [List.map_map]
    exact networked.distinct

/-- The schedule is complete exactly when no dependencies form a cycle. -/
theorem length_topological_iff (networked : Networked linked) :
    (topological linked).length = linked.length ↔ Acyclic (Edge linked) := by
  constructor
  · intro whole
    have perm := (topological_subperm linked).perm_of_length_le whole.ge
    apply Acyclic.of_rank fun index =>
      (topological linked).findIdx fun entry => entry.index = index
    rintro _ dependency ⟨entry, member, rfl, depends⟩
    exact findIdx_dependency_lt (perm.mem_iff.mpr member) depends
  · intro acyclic
    have poised := networked.poised
    refine length_schedule acyclic poised ?_ (by rw [List.length_map])
    intro entry member dependency depends
    obtain ⟨first, present, rfl⟩ := List.mem_map.mp member
    exact ⟨first, present, rfl, depends⟩

end Networked

end Sysboost.Planner
