import Sysboost.Ordered.Folding
import Sysboost.Planner.Fixtures
import Sysboost.Planner.Selection

/-!
# The order of the input

The planner sorts what it is given, so the order of the input matters only
where unequal entries tie: in a stable sort, or in a search for a first match.
-/

namespace Sysboost.Planner

open Sysboost.Core Ordered Results

/-- The same input with its proposals, preserve rules, descriptors and facts in
another order. -/
inductive Permuted (input : PlannerInput) : PlannerInput → Prop
  | intro {preserves : List PreserveRule} {proposals : List PolicyProposal}
      {capabilities : List CapabilityDescriptor} {facts : List CurrentStateFact}
      (preservesPerm : input.policy.preserves.Perm preserves)
      (proposalsPerm : input.policy.proposals.Perm proposals)
      (capabilitiesPerm : input.inventory.capabilities.Perm capabilities)
      (factsPerm : input.currentState.facts.Perm facts) :
      Permuted input {
        policy := { input.policy with preserves := preserves, proposals := proposals }
        inventory := { input.inventory with capabilities := capabilities }
        currentState := { input.currentState with facts := facts } }

/-! ## The catalog -/

theorem validateOwnership_congr {contracts other : List OperationContract}
    (same : contracts.map OperationContract.key = other.map OperationContract.key) :
    OperationCatalog.validateOwnership contracts = OperationCatalog.validateOwnership other := by
  induction contracts generalizing other with
  | nil =>
      rw [List.map_nil, eq_comm, List.map_eq_nil_iff] at same
      rw [same]
  | cons first contracts ih =>
      obtain ⟨first', other, rfl, head, tail⟩ := List.map_eq_cons_iff.mp same.symm
      rcases contracts with _ | ⟨second, contracts⟩
      · rw [List.map_nil, List.map_eq_nil_iff] at tail
        subst tail
        rfl
      · obtain ⟨second', rest, rfl, head', tail'⟩ := List.map_eq_cons_iff.mp tail
        have next := ih tail.symm
        simp only [OperationContract.key, toLex_inj, Prod.mk.injEq] at head head'
        simp only [OperationCatalog.validateOwnership, head, head', next]

/-- Contracts of a valid catalog differ in their operations. -/
theorem tieless_of_validateOwnership {contracts : List OperationContract}
    (sorted : contracts.Pairwise fun first second => first.key ≤ second.key)
    (ok : OperationCatalog.validateOwnership contracts = .ok ()) :
    Tieless OperationContract.key contracts := by
  have operations : contracts.Pairwise fun first second => first.operation < second.operation := by
    induction contracts with
    | nil => exact .nil
    | cons first contracts ih =>
        rw [List.pairwise_cons] at sorted
        rcases contracts with _ | ⟨second, contracts⟩
        · simp
        · simp only [OperationCatalog.validateOwnership] at ok
          split at ok
          · cases ok
          next differs =>
            have later := ih sorted.2 ok
            have le : first.operation ≤ second.operation :=
              Prod.Lex.monotone_fst _ _ (sorted.1 second List.mem_cons_self)
            have less := lt_of_le_of_ne le differs
            refine List.pairwise_cons.mpr ⟨fun other member => ?_, later⟩
            rcases List.mem_cons.mp member with rfl | member
            · exact less
            · exact less.trans ((List.pairwise_cons.mp later).1 other member)
  have differ : contracts.Pairwise fun first second => first.operation ≠ second.operation :=
    operations.imp fun less => less.ne
  intro first member second member' same
  by_contra other
  have symmetric : Std.Symm fun first second : OperationContract =>
      first.operation ≠ second.operation := ⟨fun _ _ => Ne.symm⟩
  refine differ.forall member member' other ?_
  exact congrArg (fun key : OperationId ×ₗ BackendId ×ₗ CapabilityId => (ofLex key).1) same

section Catalogs

variable {contracts other : List OperationContract} (perm : contracts.Perm other)

include perm

/-- A catalog is validated with the same result in every order, when the
contracts that fail first fail alike. -/
theorem validate_new_congr
    (alike : FailAlike OperationContract.key OperationContract.validate contracts) :
    (OperationCatalog.new contracts).validate = (OperationCatalog.new other).validate := by
  have sorted := sortBy_pairwise OperationContract.key contracts
  have sorted' := sortBy_pairwise OperationContract.key other
  have permuted : (sortBy OperationContract.key contracts).Perm
      (sortBy OperationContract.key other) :=
    ((sortBy_perm _ contracts).trans perm).trans (sortBy_perm _ other).symm
  have alike' : FailAlike OperationContract.key OperationContract.validate
      (sortBy OperationContract.key contracts) := by
    simpa only [FailAlike, mem_sortBy] using alike
  have checks := forM_sorted_congr alike' sorted sorted' permuted
  have ownership := validateOwnership_congr (map_key_eq sorted sorted' permuted)
  simp only [OperationCatalog.validate, OperationCatalog.new, checks, ownership]

/-- A valid catalog is the same in every order. -/
theorem new_congr (valid : (OperationCatalog.new contracts).validate = .ok ()) :
    OperationCatalog.new contracts = OperationCatalog.new other := by
  obtain ⟨⟨⟩, -, ownership⟩ := bind_eq_ok_iff.mp valid
  have tieless := tieless_of_validateOwnership (sortBy_pairwise _ contracts) ownership
  simp only [OperationCatalog.new, OperationCatalog.mk.injEq]
  exact sortBy_congr (tieless.of_perm (sortBy_perm _ contracts)) perm

end Catalogs

/-! ## Selection -/

/-- The operation chosen for every key, with the precedence of its source. -/
abbrev Choices := CandidateKey → Option (MutationKind × ℕ)

def Proposals.choices (selected : Proposals) : Choices := fun key =>
  (selected.get key).map fun proposal => (proposal.request.operation, proposal.source.precedence)

/-- Choose an operation for a key, when nothing less trusted was chosen
before. -/
def Choices.choose (choices : Choices) (key : CandidateKey) (operation : MutationKind)
    (precedence : ℕ) : Except SysboostError Choices :=
  match choices key with
  | none => .ok (Function.update choices key (some (operation, precedence)))
  | some chosen =>
      if chosen.1 = operation ∨ chosen.2 ≠ precedence then .ok choices
      else
        .error ((SysboostError.new .planningError
          "equal-precedence policy sources propose incompatible values").withStage .plan)

/-- What selecting a proposal means for the choices. -/
def Choices.select (choices : Choices) (proposal : PolicyProposal) :
    Except SysboostError Choices := do
  proposal.request.validate
  choices.choose proposal.request.key proposal.request.operation proposal.source.precedence

theorem choices_insert (selected : Proposals) (proposal : PolicyProposal) :
    Proposals.choices (selected.insert proposal.request.key proposal) =
      Function.update (Proposals.choices selected) proposal.request.key
        (some (proposal.request.operation, proposal.source.precedence)) := by
  funext key
  by_cases own : key = proposal.request.key
  · subst own
    simp [Proposals.choices]
  · simp [Proposals.choices, OrderedMap.get_insert_of_ne own, Function.update_of_ne own]

/-- Selecting a proposal after at least as trusted ones is a choice. -/
theorem choices_selectProposal {selected : Proposals} {proposal : PolicyProposal}
    (trusted : ∀ existing, selected.get proposal.request.key = some existing →
      proposal.source.precedence ≤ existing.source.precedence) :
    (selectProposal selected proposal).map Proposals.choices =
      (Proposals.choices selected).select proposal := by
  unfold selectProposal Choices.select Choices.choose
  cases proposal.request.validate with
  | error error => rfl
  | ok value =>
      cases found : selected.get proposal.request.key with
      | none =>
          simp only [Proposals.choices, found, Option.map_none, bind, Except.bind]
          exact congrArg Except.ok (choices_insert selected proposal)
      | some existing =>
          have le := trusted existing found
          simp only [Proposals.choices, found, Option.map_some, bind, Except.bind]
          by_cases same : existing.request.operation = proposal.request.operation
          · simp only [same, if_true, true_or]
            rfl
          · rcases le.lt_or_eq with less | equal
            · simp only [same, less, less.ne', if_false, if_true, false_or, ne_eq,
                not_false_eq_true]
              rfl
            · simp only [same, equal, lt_irrefl, if_false, false_or, ne_eq, not_true_eq_false]
              rfl

theorem Choices.choose_comm (choices : Choices) (key : CandidateKey)
    (operation other : MutationKind) (precedence : ℕ) :
    (choices.choose key operation precedence >>= fun after => after.choose key other precedence) =
      choices.choose key other precedence >>= fun after =>
        after.choose key operation precedence := by
  by_cases same : operation = other
  · rw [same]
  · cases found : choices key with
    | none => simp [choose, found, bind, Except.bind, same, Ne.symm same]
    | some chosen =>
        by_cases trusted : chosen.2 = precedence
        · by_cases first : chosen.1 = operation
          · by_cases second : chosen.1 = other
            · exact absurd (first.symm.trans second) same
            · simp [choose, *, bind, Except.bind]
          · by_cases second : chosen.1 = other
            · simp [choose, *, Ne.symm same, bind, Except.bind]
            · simp [choose, *, bind, Except.bind]
        · simp [choose, *, bind, Except.bind]

/-- Requests for one operation on one capability and target are valid alike. -/
theorem validate_congr {request other : PolicyRequest} (same : request.key = other.key) :
    request.validate = other.validate := by
  simp only [PolicyRequest.key, CandidateKey.mk.injEq, Option.some.injEq] at same
  obtain ⟨capability, target, operation, -⟩ := same
  obtain ⟨expected, shape⟩ := expectedCapability_congr operation
  simp only [PolicyRequest.validate, capability, target, expected, shape]

theorem key_of_selectionKey {first second : PolicyProposal}
    (tied : first.selectionKey = second.selectionKey) :
    first.request.key = second.request.key ∧
      first.source.precedence = second.source.precedence := by
  simp only [PolicyProposal.selectionKey, toLex_inj, Prod.mk.injEq, OrderDual.toDual_inj] at tied
  obtain ⟨capability, target, operation, precedence⟩ := tied
  exact ⟨by simp [PolicyRequest.key, capability, target, operation], precedence⟩

/-- Tied proposals are chosen in either order. -/
theorem Choices.select_comm (choices : Choices) (first second : PolicyProposal)
    (tied : first.selectionKey = second.selectionKey) :
    (choices.select first >>= fun after => after.select second) =
      choices.select second >>= fun after => after.select first := by
  obtain ⟨key, precedence⟩ := key_of_selectionKey tied
  simp only [select, validate_congr key, key, precedence]
  cases second.request.validate with
  | error error => rfl
  | ok value => exact choices.choose_comm _ _ _ _

/-- Selecting sorted proposals is choosing them one by one. -/
theorem choices_foldlM {proposals : List PolicyProposal}
    (sorted : proposals.Pairwise fun first second => first.selectionKey ≤ second.selectionKey)
    (selected : Proposals)
    (trusted : ∀ proposal ∈ proposals, ∀ existing,
      selected.get proposal.request.key = some existing →
        proposal.source.precedence ≤ existing.source.precedence) :
    (proposals.foldlM selectProposal selected).map Proposals.choices =
      proposals.foldlM Choices.select (Proposals.choices selected) := by
  induction proposals generalizing selected with
  | nil => rfl
  | cons proposal rest ih =>
      rw [List.pairwise_cons] at sorted
      rw [List.forall_mem_cons] at trusted
      have step := choices_selectProposal trusted.1
      rw [List.foldlM_cons, List.foldlM_cons, ← step]
      cases chosen : selectProposal selected proposal with
      | error error => rfl
      | ok after =>
          refine ih sorted.2 after fun other member existing found => ?_
          obtain ⟨-, ⟨-, rfl⟩ | ⟨-, -, rfl⟩⟩ := selectProposal_eq_ok trusted.1 chosen
          · by_cases own : other.request.key = proposal.request.key
            · rw [own, OrderedMap.get_insert_self] at found
              cases found
              exact precedence_of_selectionKey (sorted.1 other member) own.symm
            · rw [OrderedMap.get_insert_of_ne own] at found
              exact trusted.2 other member existing found
          · exact trusted.2 other member existing found

/-- The operations that are selected, and the error if there is one, do not
depend on the order of the proposals. -/
theorem choices_selectProposals {proposals other : List PolicyProposal}
    (perm : proposals.Perm other) :
    (selectProposals proposals).map Proposals.choices =
      (selectProposals other).map Proposals.choices := by
  have sorted := sortBy_pairwise PolicyProposal.selectionKey proposals
  have sorted' := sortBy_pairwise PolicyProposal.selectionKey other
  rw [selectProposals, selectProposals,
    choices_foldlM sorted _ fun _ _ _ found => (by cases found),
    choices_foldlM sorted' _ fun _ _ _ found => (by cases found)]
  exact foldlM_sorted_congr Choices.select_comm sorted sorted'
    (((sortBy_perm _ proposals).trans perm).trans (sortBy_perm _ other).symm) _

/-! ## Subjects -/

/-- A fact about a control of a capability at a target. -/
def CurrentStateFact.IsAbout (fact : CurrentStateFact) (capability : CapabilityId)
    (target : TargetId) (control : ControlId) : Prop :=
  fact.capability = capability ∧ fact.target = target ∧ fact.control = control

/-- A proposal for a key from the most trusted source that proposes one. -/
def MostTrusted (proposals : List PolicyProposal) (key : CandidateKey)
    (proposal : PolicyProposal) : Prop :=
  proposal ∈ proposals ∧ proposal.request.key = key ∧ ∀ other ∈ proposals,
    other.request.key = key → other.source.precedence ≤ proposal.source.precedence

/-- A descriptor of a capability that is the closest to being available. -/
def ClosestTo (inventory : CapabilityInventory) (capability : CapabilityId)
    (descriptor : CapabilityDescriptor) : Prop :=
  descriptor ∈ inventory.capabilities ∧ descriptor.id = capability ∧
    ∀ other ∈ inventory.capabilities, other.id = capability →
      (toLex (descriptorRank descriptor.state, descriptor.backend) : ℕ ×ₗ BackendId) ≤
        toLex (descriptorRank other.state, other.backend)

/-- Wherever the planner takes a first match for the subject, all matches are
equal. -/
structure Clear (input : PlannerInput) (subject : Subject) : Prop where
  reasons : ∀ first ∈ input.policy.preserves, ∀ second ∈ input.policy.preserves,
    first.covers subject.spec.feature subject.target = true →
    second.covers subject.spec.feature subject.target = true → first.reason = second.reason
  descriptors : ∀ first second, ClosestTo input.inventory subject.spec.capability first →
    ClosestTo input.inventory subject.spec.capability second → first = second
  facts : ∀ target, subject.target = some target → ∀ first ∈ input.currentState.facts,
    ∀ second ∈ input.currentState.facts,
    first.IsAbout subject.spec.capability target subject.spec.control →
    second.IsAbout subject.spec.capability target subject.spec.control → first = second
  proposals : ∀ target, subject.target = some target → ∀ first second,
    MostTrusted input.policy.proposals
      ⟨subject.spec.capability, some target, subject.spec.operation, 0⟩ first →
    MostTrusted input.policy.proposals
      ⟨subject.spec.capability, some target, subject.spec.operation, 0⟩ second → first = second

theorem mostTrusted_of_selection {policy : PlannerPolicy} {key : CandidateKey}
    {proposal : PolicyProposal} (selected : policy.selection key = some proposal) :
    MostTrusted policy.proposals key proposal := by
  obtain ⟨own, front, rest, whole, before⟩ := List.find?_eq_some_iff_append.mp selected
  have own : proposal.request.key = key := by simpa using own
  have sorted := sortBy_pairwise PolicyProposal.selectionKey policy.proposals
  refine ⟨(mem_sortBy _).mp (List.mem_of_find?_eq_some selected), own, fun other member same => ?_⟩
  have present : other ∈ sortBy PolicyProposal.selectionKey policy.proposals :=
    (mem_sortBy _).mpr member
  rw [whole] at present sorted
  rcases List.mem_append.mp present with present | present
  · have differs := before other present
    simp [same] at differs
  · rcases List.mem_cons.mp present with rfl | present
    · exact le_rfl
    · exact precedence_of_selectionKey
        ((List.pairwise_cons.mp (List.pairwise_append.mp sorted).2.1).1 other present)
        (own.trans same.symm)

theorem selectDescriptor_congr {inventory other : CapabilityInventory}
    {capability : CapabilityId} (perm : inventory.capabilities.Perm other.capabilities)
    (single : ∀ first second, ClosestTo inventory capability first →
      ClosestTo inventory capability second → first = second) :
    selectDescriptor other capability = selectDescriptor inventory capability := by
  have members {descriptor : CapabilityDescriptor} :
      descriptor ∈ (descriptorIndex inventory).filter (fun descriptor =>
        descriptor.id = capability) ↔
      descriptor ∈ inventory.capabilities ∧ descriptor.id = capability := by
    simp [descriptorIndex]
  refine (argmin_congr ?_ ?_).symm
  · intro first member second member' least least'
    obtain ⟨present, own⟩ := members.mp member
    obtain ⟨present', own'⟩ := members.mp member'
    exact single first second
      ⟨present, own, fun other member same => least other (members.mpr ⟨member, same⟩)⟩
      ⟨present', own', fun other member same => least' other (members.mpr ⟨member, same⟩)⟩
  · exact (((sortBy_perm _ _).trans perm).trans (sortBy_perm _ _).symm).filter _

theorem isPreserved_congr {policy : PlannerPolicy} {preserves : List PreserveRule}
    {proposals : List PolicyProposal} {feature : Feature} {target : Option TargetId}
    (perm : policy.preserves.Perm preserves)
    (single : ∀ first ∈ policy.preserves, ∀ second ∈ policy.preserves,
      first.covers feature target = true → second.covers feature target = true →
        first.reason = second.reason) :
    PlannerPolicy.isPreserved { policy with preserves := preserves, proposals := proposals }
      feature target = policy.isPreserved feature target := by
  refine (findSome?_congr ?_ perm).symm
  intro first member second member' reason reason' same same'
  split at same
  next covers =>
    split at same'
    next covers' =>
      cases same
      cases same'
      exact single first member second member' covers covers'
    · cases same'
  · cases same

/-- Apart from the preserve rules, no decision depends on the lists of the
policy. -/
theorem resolveSpec_congr {policy : PlannerPolicy} {preserves : List PreserveRule}
    {proposals : List PolicyProposal} {catalog : OperationCatalog} {subject : Subject}
    (same : PlannerPolicy.isPreserved { policy with preserves := preserves, proposals := proposals }
      subject.spec.feature subject.target =
        policy.isPreserved subject.spec.feature subject.target) :
    subject.resolveSpec { policy with preserves := preserves, proposals := proposals } catalog =
      subject.resolveSpec policy catalog := by
  simp only [Subject.resolveSpec, Subject.resolveSpecInner, same]
  rfl

theorem specTargets_congr {facts other : List CurrentStateFact} {proposals : List PolicyProposal}
    (perm : facts.Perm other) : specTargets other proposals = specTargets facts proposals := by
  have sorted : sortBy id (other.map CurrentStateFact.target ++
        proposals.map fun proposal => proposal.request.target) =
      sortBy id (facts.map CurrentStateFact.target ++
        proposals.map fun proposal => proposal.request.target) :=
    sortBy_congr (.of_injective fun _ _ same => same)
      ((perm.symm.map _).append_right _)
  rw [specTargets, specTargets, sorted]

section Subjects

variable {input input' : PlannerInput} (permuted : Permuted input input') {proposals : Proposals}

include permuted

/-- A subject whose first matches are clear is the same in every order. -/
theorem specSubject_congr {spec : FeatureSpec} {order : Nat} {target : Option TargetId}
    (clear : Clear input (specSubject input proposals spec order target)) :
    specSubject input' proposals spec order target =
      specSubject input proposals spec order target := by
  obtain ⟨-, -, capabilitiesPerm, factsPerm⟩ := permuted
  simp only [specSubject, Subject.mk.injEq, true_and]
  refine ⟨?_, selectDescriptor_congr capabilitiesPerm clear.descriptors⟩
  cases target with
  | none => rfl
  | some target =>
      refine (find?_congr ?_ (factsPerm.filter _)).symm
      intro first member second member' about about'
      simp only [List.mem_filter, Bool.and_eq_true, decide_eq_true_eq] at member member'
      simp only [decide_eq_true_eq] at about about'
      exact clear.facts target rfl first member.1 second member'.1
        ⟨member.2.1, about, member.2.2⟩ ⟨member'.2.1, about', member'.2.2⟩

theorem customSubject_congr {proposal : PolicyProposal}
    (clear : Clear input (customSubject input proposal)) :
    customSubject input' proposal = customSubject input proposal := by
  obtain ⟨-, -, capabilitiesPerm, factsPerm⟩ := permuted
  simp only [customSubject, Subject.mk.injEq, true_and]
  refine ⟨?_, selectDescriptor_congr capabilitiesPerm clear.descriptors⟩
  refine (find?_congr ?_ factsPerm).symm
  intro first member second member' about about'
  simp only [Bool.and_eq_true, decide_eq_true_eq] at about about'
  exact clear.facts proposal.request.target rfl first member second member'
    ⟨about.1.1, about.1.2, about.2⟩ ⟨about'.1.1, about'.1.2, about'.2⟩

/-- The same candidates are collected in every order. -/
theorem collect_congr {catalog : OperationCatalog}
    (clear : ∀ subject ∈ considered input proposals, Clear input subject) :
    catalog.collect input' proposals = catalog.collect input proposals := by
  have specClear : ∀ subject ∈ specSubjects input proposals, Clear input subject :=
    fun subject member => clear subject (List.mem_append_left _ member)
  have customClear : ∀ proposal ∈ proposals.values.filter fun proposal => !isReviewed proposal,
      Clear input (customSubject input proposal) :=
    fun proposal member => clear _ (List.mem_append_right _ (List.mem_map_of_mem member))
  have specs : specSubjects input' proposals = specSubjects input proposals := by
    refine List.flatMap_congr fun ⟨spec, order⟩ listed => ?_
    have targets : specTargets (specFacts input' spec) (specProposals proposals spec) =
        specTargets (specFacts input spec) (specProposals proposals spec) := by
      obtain ⟨-, -, -, factsPerm⟩ := permuted
      exact specTargets_congr (factsPerm.filter _)
    simp only [targets]
    refine List.map_congr_left fun target member => ?_
    exact specSubject_congr permuted (specClear _
      (List.mem_flatMap.mpr ⟨(spec, order), listed, List.mem_map_of_mem member⟩))
  have customs : ∀ state, ∀ proposal ∈ proposals.values.filter fun proposal =>
      !isReviewed proposal, catalog.considerCustom input' state proposal =
        catalog.considerCustom input state proposal := by
    intro state proposal member
    have preserved := (customClear proposal member).reasons
    have subjects := customSubject_congr permuted (customClear proposal member)
    simp only [OperationCatalog.considerCustom, OperationCatalog.consider, subjects]
    obtain ⟨preservesPerm, -, -, -⟩ := permuted
    simp only [resolveSpec_congr (isPreserved_congr preservesPerm preserved)]
  have reviewed : ∀ state, ∀ subject ∈ specSubjects input proposals,
      catalog.consider input'.policy state subject =
        catalog.consider input.policy state subject := by
    intro state subject member
    have preserved := (specClear subject member).reasons
    obtain ⟨preservesPerm, -, -, -⟩ := permuted
    simp only [OperationCatalog.consider,
      resolveSpec_congr (isPreserved_congr preservesPerm preserved)]
  simp only [OperationCatalog.collect, specs, foldlM_congr reviewed, foldlM_congr customs]

/-- The same proposals are selected in every order. -/
theorem selectProposals_congr
    (selected : selectProposals input.policy.proposals = .ok proposals)
    (clear : ∀ subject ∈ considered input proposals, Clear input subject) :
    selectProposals input'.policy.proposals = .ok proposals := by
  have perm : input.policy.proposals.Perm input'.policy.proposals := by
    obtain ⟨-, proposalsPerm, -, -⟩ := permuted
    exact proposalsPerm
  have choices := choices_selectProposals perm
  rw [selected] at choices
  cases selected' : selectProposals input'.policy.proposals with
  | error error =>
      rw [selected'] at choices
      cases choices
  | ok proposals' =>
      rw [selected'] at choices
      have same : Proposals.choices proposals = Proposals.choices proposals' :=
        Except.ok.inj choices
      refine congrArg Except.ok (OrderedMap.ext_get fun key => ?_)
      have chosen := congrFun same key
      simp only [Proposals.choices, (get_selectProposals selected).2 key,
        (get_selectProposals selected').2 key] at chosen ⊢
      cases wins : input.policy.selection key with
      | none =>
          rw [wins, Option.map_none, eq_comm, Option.map_eq_none_iff] at chosen
          exact chosen
      | some winner =>
          rw [wins, Option.map_some, eq_comm] at chosen
          obtain ⟨winner', wins', -⟩ := Option.map_eq_some_iff.mp chosen
          obtain ⟨listed, own, most⟩ := mostTrusted_of_selection wins
          obtain ⟨listed', own', most'⟩ := mostTrusted_of_selection wins'
          obtain ⟨subject, considered, capability, target, operation⟩ :=
            exists_considered selected listed
          have subjectKey : (⟨subject.spec.capability, some winner.request.target,
              subject.spec.operation, 0⟩ : CandidateKey) = key := by
            rw [capability, operation, ← own]
            rfl
          rw [wins']
          refine congrArg some ((clear subject considered).proposals _ target _ _ ?_ ?_)
          · rw [subjectKey]
            exact ⟨perm.mem_iff.mpr listed', own', fun other member =>
              most' other (perm.mem_iff.mp member)⟩
          · rw [subjectKey]
            exact ⟨listed, own, most⟩

end Subjects

/-! ## Plans -/

/-- The digests list what the planner was given in their own orders. -/
structure Digestible (input : PlannerInput) : Prop where
  proposals : Tieless PolicyProposal.place input.policy.proposals
  capabilities : Tieless descriptorPlace input.inventory.capabilities

theorem featurePlace_injective : Function.Injective featurePlace := by
  intro first second same
  cases first <;> cases second <;> first
    | rfl
    | (simp [featurePlace] at same; try exact congrArg Feature.custom same)

theorem PreserveRule.place_injective : Function.Injective PreserveRule.place := by
  rintro ⟨feature, target, reason⟩ ⟨feature', target', reason'⟩ same
  simp only [place, toLex_inj, Prod.mk.injEq] at same
  obtain ⟨feature, rfl, rfl⟩ := same
  rw [featurePlace_injective feature]

/-- No order decides anything: contracts that fail first fail alike, the first
matches of every considered subject are clear, and when the items are resolved
no unequal entries tie in the digests. -/
structure Unambiguous (contracts : List OperationContract) (input : PlannerInput) : Prop where
  cataloged : FailAlike OperationContract.key OperationContract.validate contracts
  subjects : (OperationCatalog.new contracts).validate = .ok () → ∀ proposals,
    selectProposals input.policy.proposals = .ok proposals →
      ∀ subject ∈ considered input proposals, Clear input subject
  digests : ∀ resolution, (OperationCatalog.new contracts).resolve input = .ok resolution →
    Digestible input

theorem digestPolicy_congr {input input' : PlannerInput} (permuted : Permuted input input')
    (tieless : Tieless PolicyProposal.place input.policy.proposals) :
    digestPolicy input'.policy = digestPolicy input.policy := by
  obtain ⟨preservesPerm, proposalsPerm, -, -⟩ := permuted
  simp only [digestPolicy, sortBy_congr tieless proposalsPerm,
    sortBy_congr (.of_injective PreserveRule.place_injective) preservesPerm]

theorem digestInventory_congr {input input' : PlannerInput} (permuted : Permuted input input')
    (tieless : Tieless descriptorPlace input.inventory.capabilities) :
    digestInventory input'.inventory = digestInventory input.inventory := by
  obtain ⟨-, -, capabilitiesPerm, -⟩ := permuted
  simp only [digestInventory, sortBy_congr tieless capabilitiesPerm]

section Plans

variable {contracts other : List OperationContract} {input input' : PlannerInput}
  (contractsPerm : contracts.Perm other) (permuted : Permuted input input')

include contractsPerm permuted

theorem resolve_congr (unambiguous : Unambiguous contracts input) :
    (OperationCatalog.new other).resolve input' = (OperationCatalog.new contracts).resolve input := by
  have policies : input'.policy.validate = input.policy.validate := by
    obtain ⟨-, -, -, -⟩ := permuted
    rfl
  have profiles : finalizeCandidates input'.policy = finalizeCandidates input.policy := by
    obtain ⟨-, -, -, -⟩ := permuted
    rfl
  have proposalsPerm : input.policy.proposals.Perm input'.policy.proposals := by
    obtain ⟨-, proposalsPerm, -, -⟩ := permuted
    exact proposalsPerm
  simp only [OperationCatalog.resolve, policies, profiles,
    ← validate_new_congr contractsPerm unambiguous.cataloged]
  refine bind_congr_ok fun _ _ => bind_congr_ok fun _ valid => ?_
  rw [← new_congr contractsPerm valid]
  cases selected : selectProposals input.policy.proposals with
  | error error =>
      have choices := choices_selectProposals proposalsPerm
      rw [selected] at choices
      cases selected' : selectProposals input'.policy.proposals with
      | error error' =>
          rw [selected'] at choices
          rw [Except.error.inj choices]
          rfl
      | ok proposals =>
          rw [selected'] at choices
          cases choices
  | ok proposals =>
      have clear := unambiguous.subjects valid proposals selected
      rw [selectProposals_congr permuted selected clear]
      simp only [bind, Except.bind, collect_congr permuted clear]

end Plans

namespace Fixtures

/-- A rule for the governor family, and one for the governor of the target. -/
def familyRule : PreserveRule :=
  ⟨.cpuGovernor, none, "family"⟩

def targetRule : PreserveRule :=
  ⟨.cpuGovernor, some cpuTarget, "target"⟩

def preservingInput (preserves : List PreserveRule) : PlannerInput :=
  { cpuInput .performance with
    policy := { PlannerPolicy.forProfile .performance with preserves := preserves } }

theorem permuted_rules : Permuted (preservingInput [familyRule, targetRule])
    (preservingInput [targetRule, familyRule]) :=
  .intro (.swap _ _ _) (.refl _) (.refl _) (.refl _)

end Fixtures

namespace Fixtures

theorem clear_cpuInput (subject : Subject) : Clear (cpuInput .performance) subject where
  reasons := fun _ member => absurd member List.not_mem_nil
  descriptors := by
    rintro first second ⟨member, own, -⟩ ⟨member', own', -⟩
    have tieless : Tieless CapabilityDescriptor.id cpuInventory.capabilities := by
      decide +kernel
    exact tieless first member second member' (own.trans own'.symm)
  facts := by
    intro target _ first member second member' about about'
    have tieless : Tieless CurrentStateFact.capability
        (cpuCurrent schedutil .balancePerformance).facts := by
      decide +kernel
    exact tieless first member second member' (about.1.trans about'.1.symm)
  proposals := fun _ _ _ _ ⟨member, _⟩ => absurd member List.not_mem_nil

/-- Nothing is decided by the order of the fixture. -/
theorem unambiguous_cpuInput :
    Unambiguous [governorContract, preferenceContract] (cpuInput .performance) where
  cataloged := by
    have valid : ∀ contract ∈ [governorContract, preferenceContract],
        contract.validate = .ok () := by
      decide +kernel
    intro first member _ _ _ _ error _ failed
    rw [valid first member] at failed
    cases failed
  subjects := fun _ _ _ subject _ => clear_cpuInput subject
  digests := fun _ _ => ⟨fun _ member => absurd member List.not_mem_nil, by decide +kernel⟩

end Fixtures

end Sysboost.Planner
