import Sysboost.Ordered.Acyclic

/-!
# Searching for a cycle

A depth-first search remembers only the path on which it stands.  Its calls are
given as a big-step relation, so that a search that ends has a derivation.  The
answer is exact: it is `true` just when a cycle can be reached from the start.
-/

namespace Ordered

universe u

variable {α : Type u} (next : α → Option (List α))

mutual

/-- The search at `current` below the path `stack` ends with the result. -/
inductive Search : α → List α → Bool → Prop
  | again {current : α} {stack : List α} (member : current ∈ stack) : Search current stack true
  | unknown {current : α} {stack : List α} (fresh : current ∉ stack)
      (missing : next current = none) : Search current stack false
  | visit {current : α} {stack items : List α} {result : Bool} (fresh : current ∉ stack)
      (known : next current = some items) (searched : SearchAny items (current :: stack) result) :
      Search current stack result

/-- The search at one item after the other ends with the result, at the first
item that leads to a cycle. -/
inductive SearchAny : List α → List α → Bool → Prop
  | done {stack : List α} : SearchAny [] stack false
  | found {item : α} {items stack : List α} (here : Search item stack true) :
      SearchAny (item :: items) stack true
  | later {item : α} {items stack : List α} {result : Bool} (here : Search item stack false)
      (searched : SearchAny items stack result) : SearchAny (item :: items) stack result

end

/-- The search goes on from one item to the other. -/
def Leads (item other : α) : Prop :=
  ∃ items, next item = some items ∧ other ∈ items

/-- A cycle can be reached from the start. -/
def Cyclic (start : α) : Prop :=
  ∃ item, Relation.ReflTransGen (Leads next) start item ∧ Relation.TransGen (Leads next) item item

variable {next}

/-- Searches at all items give a search at one after the other. -/
theorem SearchAny.of_any {items stack : List α} {result : α → Bool}
    (each : ∀ item ∈ items, Search next item stack (result item)) :
    SearchAny next items stack (items.any result) := by
  induction items with
  | nil => exact .done
  | cons item items ih =>
      have here := each item List.mem_cons_self
      rw [List.any_cons]
      cases answer : result item with
      | true => exact .found (answer ▸ here)
      | false =>
          exact .later (answer ▸ here) (ih fun other member =>
            each other (List.mem_cons_of_mem item member))

namespace Search

/-- Induction on a search: an answer `true` comes from one of the items, an
answer `false` from all of them. -/
theorem induction
    {motive : ∀ current stack result, Search next current stack result → Prop}
    (again : ∀ current stack (member : current ∈ stack), motive current stack true (.again member))
    (unknown : ∀ current stack (fresh : current ∉ stack) (missing : next current = none),
      motive current stack false (.unknown fresh missing))
    (found : ∀ current stack item (searched : Search next current stack true)
      (below : Search next item (current :: stack) true), Leads next current item →
      motive item (current :: stack) true below → motive current stack true searched)
    (clear : ∀ current stack (searched : Search next current stack false), current ∉ stack →
      (∀ item, Leads next current item → ∃ below : Search next item (current :: stack) false,
        motive item (current :: stack) false below) → motive current stack false searched)
    {current : α} {stack : List α} {result : Bool} (searched : Search next current stack result) :
    motive current stack result searched := by
  induction searched using Search.rec
    (motive_2 := fun items stack result _ =>
      (result = true → ∃ item ∈ items, ∃ below, motive item stack true below) ∧
      (result = false → ∀ item ∈ items, ∃ below, motive item stack false below))
    with
  | again member => exact again _ _ member
  | unknown fresh missing => exact unknown _ _ fresh missing
  | @visit current stack items result fresh known searched ih =>
      cases result with
      | true =>
          obtain ⟨item, member, below, holds⟩ := ih.1 rfl
          exact found _ _ item (.visit fresh known searched) below ⟨items, known, member⟩ holds
      | false =>
          refine clear _ _ (.visit fresh known searched) fresh ?_
          rintro item ⟨items', known', member⟩
          cases Option.some.inj (known.symm.trans known')
          exact ih.2 rfl item member
  | done => exact ⟨nofun, fun _ _ member => absurd member List.not_mem_nil⟩
  | found here ih => exact ⟨fun _ => ⟨_, List.mem_cons_self, here, ih⟩, nofun⟩
  | later here _ ih ihs =>
      constructor
      · intro answer
        obtain ⟨item, member, holds⟩ := ihs.1 answer
        exact ⟨item, List.mem_cons_of_mem _ member, holds⟩
      · intro answer item member
        rcases List.mem_cons.mp member with rfl | member
        · exact ⟨here, ih⟩
        · exact ihs.2 answer item member

/-- Where every item of the stack leads to the current one, an answer `true`
has found a cycle. -/
theorem cyclic {current : α} {stack : List α} {result : Bool}
    (searched : Search next current stack result) (answer : result = true)
    (path : ∀ item ∈ stack, Relation.TransGen (Leads next) item current) : Cyclic next current := by
  induction searched using induction with
  | again current stack member => exact ⟨current, .refl, path current member⟩
  | unknown => cases answer
  | found current stack item _ _ step ih =>
      obtain ⟨other, reached, cycle⟩ := ih rfl fun earlier below => by
        rcases List.mem_cons.mp below with rfl | below
        · exact .single step
        · exact (path earlier below).tail step
      exact ⟨other, .head step reached, cycle⟩
  | clear => cases answer

/-- An answer `false` is given below every item that comes next. -/
theorem clear_next {current item : α} {stack : List α} {result : Bool}
    (searched : Search next current stack result) (answer : result = false)
    (step : Leads next current item) : Search next item (current :: stack) false := by
  induction searched using induction with
  | again => cases answer
  | unknown current stack _ missing =>
      obtain ⟨items, known, _⟩ := step
      rw [missing] at known
      cases known
  | found => cases answer
  | clear current stack _ _ each => exact (each item step).1

/-- An answer `false` means that the item is not on the stack. -/
theorem fresh {current : α} {stack : List α} (searched : Search next current stack false) :
    current ∉ stack := by
  cases searched with
  | unknown fresh => exact fresh
  | visit fresh => exact fresh

/-- After an answer `false` whatever can be reached has been searched below the
stack as well. -/
theorem reached_clear {current other : α} {stack : List α}
    (searched : Search next current stack false)
    (reached : Relation.ReflTransGen (Leads next) current other) :
    ∃ deeper, stack ⊆ deeper ∧ Search next other deeper false := by
  induction reached with
  | refl => exact ⟨stack, List.Subset.refl stack, searched⟩
  | tail _ step ih =>
      obtain ⟨deeper, inside, searched⟩ := ih
      exact ⟨_, fun _ member => List.mem_cons_of_mem _ (inside member), searched.clear_next rfl step⟩

/-- After an answer `false` no cycle can be reached: a search along it would
come to an item on its stack. -/
theorem not_cyclic {current : α} {stack : List α} (searched : Search next current stack false) :
    ¬Cyclic next current := by
  rintro ⟨item, reached, cycle⟩
  obtain ⟨second, step, back⟩ := Relation.TransGen.head'_iff.mp cycle
  obtain ⟨deeper, -, searched⟩ := searched.reached_clear reached
  obtain ⟨deepest, inside, searched⟩ := (searched.clear_next rfl step).reached_clear back
  exact searched.fresh (inside List.mem_cons_self)

/-- The answer of a search from an empty stack is exact. -/
theorem result_iff {start : α} {result : Bool} (searched : Search next start [] result) :
    result = true ↔ Cyclic next start := by
  cases result with
  | true => simpa using searched.cyclic rfl (by simp)
  | false => simpa using searched.not_cyclic

end Search

end Ordered
