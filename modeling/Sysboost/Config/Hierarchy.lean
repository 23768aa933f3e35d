import Sysboost.Planner.Policy
import Sysboost.Results.Loops
import Mathlib.Order.Basic
import Mathlib.Order.Lattice

/-!
# Configuration-layer merging

A lower-trust layer can only restrict what the layers above it admit: every
field of the effective policy is bounded by the layers, each by its own rule.
-/

namespace Sysboost.Config

open Sysboost.Core Sysboost.Planner Results

/-! ## Layers -/

/-- The derived order of the risk classes. -/
instance : LinearOrder RiskClass :=
  .lift' RiskClass.rank fun first second same => by
    cases first <;> cases second <;> first | rfl | cases same

/-- Effective policy consumed by the pure planner. -/
structure Policy where
  mode : PolicyMode
  maxRisk : RiskClass
  allowExperimental : Bool
  requiredDefault : Bool
  requests : List PolicyRequest
  sessionTimeoutMs : UInt64
deriving DecidableEq

/-- Safe report-only baseline. -/
def Policy.safeDefaults : Policy where
  mode := .report
  maxRisk := .critical
  allowExperimental := true
  requiredDefault := false
  requests := []
  sessionTimeoutMs := 30000

/-- Trust level of a configuration layer. -/
inductive ConfigSource where
  | defaults
  | system
  | user
  | invocation
deriving DecidableEq

/-- A typed policy layer before it is merged. -/
structure ConfigLayer where
  source : ConfigSource
  policy : Policy
deriving DecidableEq

/-- Ordered configuration hierarchy with restrictive merging semantics. -/
structure ConfigHierarchy where
  defaults : ConfigLayer
  system : Option ConfigLayer
  user : Option ConfigLayer
  invocation : Option ConfigLayer
  defaults_source : defaults.source = .defaults
  system_source : ∀ layer ∈ system, layer.source = .system
  user_source : ∀ layer ∈ user, layer.source = .user
  invocation_source : ∀ layer ∈ invocation, layer.source = .invocation

/-- The check of one layer against a request. -/
def containsRequest (requests : List PolicyRequest) (requested : PolicyRequest) : Bool :=
  requests.any fun candidate =>
    candidate.capability = requested.capability && candidate.target = requested.target &&
      candidate.operation = requested.operation

namespace ConfigHierarchy

/-- Start with compiled safe defaults. -/
def new (defaults : Policy) : ConfigHierarchy where
  defaults := ⟨.defaults, defaults⟩
  system := none
  user := none
  invocation := none
  defaults_source := rfl
  system_source := nofun
  user_source := nofun
  invocation_source := nofun

def withSystem (hierarchy : ConfigHierarchy) (policy : Policy) : ConfigHierarchy :=
  { hierarchy with
    system := some ⟨.system, policy⟩
    system_source := by simp }

def withUser (hierarchy : ConfigHierarchy) (policy : Policy) : ConfigHierarchy :=
  { hierarchy with
    user := some ⟨.user, policy⟩
    user_source := by simp }

/-- Set invocation narrowing. -/
def withInvocation (hierarchy : ConfigHierarchy) (policy : Policy) : ConfigHierarchy :=
  { hierarchy with
    invocation := some ⟨.invocation, policy⟩
    invocation_source := by simp }

variable (hierarchy : ConfigHierarchy)

/-- The layers that are present, the most trusted ones first. -/
def layers : List ConfigLayer :=
  hierarchy.defaults ::
    (hierarchy.system.toList ++ hierarchy.user.toList ++ hierarchy.invocation.toList)

/-- The layers whose requests restrict the selected ones. -/
def allowlists : List ConfigLayer :=
  hierarchy.system.toList ++ hierarchy.user.toList

/-- Whether a layer asks for a report. -/
def reports (layer : Option ConfigLayer) : Bool :=
  layer.any fun layer => layer.policy.mode = .report

def mode : PolicyMode :=
  if reports hierarchy.system || reports hierarchy.user || reports hierarchy.invocation then
    .report
  else ((hierarchy.layers.find? fun layer => layer.source ≠ .defaults).map
    fun layer => layer.policy.mode).getD hierarchy.defaults.policy.mode

/-- The requests of the least trusted layer that is present. -/
def selected : List PolicyRequest :=
  (((hierarchy.invocation.or hierarchy.user).or hierarchy.system).map
    fun layer => layer.policy.requests).getD []

/-- Whether a request is on every allowlist that is not empty. -/
def allows (request : PolicyRequest) : Bool :=
  hierarchy.allowlists.all fun layer =>
    layer.policy.requests.isEmpty || containsRequest layer.policy.requests request

/-- The loop over the selected requests. -/
def admitted : List PolicyRequest → Except SysboostError (List PolicyRequest)
  | [] => .ok []
  | request :: rest =>
      if hierarchy.allows request then do
        let requests ← admitted rest
        return request :: requests
      else if request.required then
        .error (.new .authorizationError
          "required request is outside a higher-trust configuration allowlist")
      else admitted rest

/-- Compute an effective policy without allowing a lower-trust layer to widen
risk, experimental access, or a higher-trust request allowlist. -/
def effective : Except SysboostError Policy := do
  let maxRisk := ((hierarchy.layers.map fun layer => layer.policy.maxRisk).min?).getD .low
  let allowExperimental := hierarchy.layers.all fun layer => layer.policy.allowExperimental
  let requiredDefault := hierarchy.layers.any fun layer => layer.policy.requiredDefault
  let timeouts : List UInt64 :=
    (hierarchy.layers.map fun layer => layer.policy.sessionTimeoutMs).filter (0 < ·)
  match timeouts.min? with
  | none =>
      .error (.new .configError "configuration hierarchy has no positive session timeout")
  | some sessionTimeoutMs => do
      let requests ← hierarchy.admitted hierarchy.selected
      return {
        mode := hierarchy.mode
        maxRisk
        allowExperimental
        requiredDefault
        requests
        sessionTimeoutMs }

end ConfigHierarchy

/-! ## What a merge restricts -/

/-- Two requests ask for the same operation on the same target. -/
def Matches (candidate requested : PolicyRequest) : Prop :=
  candidate.capability = requested.capability ∧ candidate.target = requested.target ∧
    candidate.operation = requested.operation

theorem containsRequest_iff {requests : List PolicyRequest} {requested : PolicyRequest} :
    containsRequest requests requested = true ↔
      ∃ candidate ∈ requests, Matches candidate requested := by
  simp [containsRequest, Matches, and_assoc]

namespace ConfigHierarchy

variable {hierarchy : ConfigHierarchy} {policy : Policy}

/-- A policy that no layer of the hierarchy is narrower than. -/
structure Narrows (hierarchy : ConfigHierarchy) (policy : Policy) : Prop where
  maxRisk : ∀ layer ∈ hierarchy.layers, policy.maxRisk ≤ layer.policy.maxRisk
  allowExperimental : policy.allowExperimental = true →
    ∀ layer ∈ hierarchy.layers, layer.policy.allowExperimental = true
  mode : policy.mode = .boost →
    ∀ layer ∈ hierarchy.layers, layer.source ≠ .defaults → layer.policy.mode = .boost
  sessionTimeoutMs : ∀ layer ∈ hierarchy.layers, 0 < layer.policy.sessionTimeoutMs →
    policy.sessionTimeoutMs ≤ layer.policy.sessionTimeoutMs
  requests : ∀ request ∈ policy.requests, ∀ layer ∈ hierarchy.allowlists,
    layer.policy.requests ≠ [] → ∃ candidate ∈ layer.policy.requests, Matches candidate request

theorem allows_iff {request : PolicyRequest} :
    hierarchy.allows request = true ↔ ∀ layer ∈ hierarchy.allowlists,
      layer.policy.requests ≠ [] →
        ∃ candidate ∈ layer.policy.requests, Matches candidate request := by
  simp only [allows, List.all_eq_true, Bool.or_eq_true, List.isEmpty_iff, containsRequest_iff,
    or_iff_not_imp_left, ne_eq]

/-- The loop keeps only requests that are allowed. -/
theorem allows_of_admitted {requests admitted : List PolicyRequest}
    (ok : hierarchy.admitted requests = .ok admitted) :
    ∀ request ∈ admitted, request ∈ requests ∧ hierarchy.allows request = true := by
  induction requests generalizing admitted with
  | nil =>
      cases ok
      intro request member
      cases member
  | cons first rest ih =>
      unfold ConfigHierarchy.admitted at ok
      split at ok
      next allowed =>
        obtain ⟨later, kept, ok⟩ := bind_eq_ok_iff.mp ok
        cases ok
        intro request member
        rcases List.mem_cons.mp member with rfl | member
        · exact ⟨List.mem_cons_self, allowed⟩
        · exact (ih kept request member).imp_left (List.mem_cons_of_mem _)
      · split at ok
        · cases ok
        · intro request member
          exact (ih ok request member).imp_left (List.mem_cons_of_mem _)

theorem mem_layers_iff {layer : ConfigLayer} :
    layer ∈ hierarchy.layers ↔ layer = hierarchy.defaults ∨ layer ∈ hierarchy.system ∨
      layer ∈ hierarchy.user ∨ layer ∈ hierarchy.invocation := by
  simp [layers]

/-- The layers but the defaults are those that were set. -/
theorem mem_set_iff {layer : ConfigLayer} :
    layer ∈ hierarchy.layers ∧ layer.source ≠ .defaults ↔ layer ∈ hierarchy.system ∨
      layer ∈ hierarchy.user ∨ layer ∈ hierarchy.invocation := by
  rw [mem_layers_iff]
  constructor
  · rintro ⟨rfl | set, other⟩
    · exact absurd hierarchy.defaults_source other
    · exact set
  · intro set
    refine ⟨.inr set, ?_⟩
    rcases set with set | set | set
    · simp [hierarchy.system_source layer set]
    · simp [hierarchy.user_source layer set]
    · simp [hierarchy.invocation_source layer set]

theorem reports_eq_false_iff {layer : Option ConfigLayer} :
    reports layer = false ↔ ∀ present ∈ layer, present.policy.mode = .boost := by
  cases layer with
  | none => simp [reports]
  | some present =>
      cases known : present.policy.mode with
      | report => simp [reports, known]
      | boost => simp [reports, known]

/-- The effective mode is a boost only where every layer that was set asks for
one. -/
theorem boost_of_mode (boost : hierarchy.mode = .boost) :
    ∀ layer ∈ hierarchy.layers, layer.source ≠ .defaults → layer.policy.mode = .boost := by
  intro layer member other
  unfold mode at boost
  split at boost
  · cases boost
  next silent =>
    simp only [Bool.or_eq_true, not_or, Bool.not_eq_true, reports_eq_false_iff] at silent
    rcases mem_set_iff.mp ⟨member, other⟩ with set | set | set
    · exact silent.1.1 layer set
    · exact silent.1.2 layer set
    · exact silent.2 layer set

theorem narrows_of_effective (ok : hierarchy.effective = .ok policy) :
    Narrows hierarchy policy := by
  unfold effective at ok
  dsimp only at ok
  split at ok
  · cases ok
  next timeout least =>
    obtain ⟨requests, admitted, ok⟩ := bind_eq_ok_iff.mp ok
    cases ok
    constructor
    · intro layer member
      have present := List.mem_map_of_mem (f := fun layer => layer.policy.maxRisk) member
      cases lowest : (hierarchy.layers.map fun layer => layer.policy.maxRisk).min? with
      | none => simp [List.min?_eq_none_iff.mp lowest] at present
      | some risk => exact (List.min?_eq_some_iff.mp lowest).2 _ present
    · intro allowed layer member
      exact List.all_eq_true.mp allowed layer member
    · exact boost_of_mode
    · intro layer member positive
      apply (List.min?_eq_some_iff.mp least).2
      simp only [List.mem_filter, List.mem_map, decide_eq_true_eq]
      exact ⟨⟨layer, member, rfl⟩, positive⟩
    · intro request member
      exact allows_iff.mp (allows_of_admitted admitted request member).2

/-- The effective policy is no wider than any layer, and with a user layer it
still has no request outside a list of the system. -/
theorem effective_narrows (ok : hierarchy.effective = .ok policy) :
    Narrows hierarchy policy ∧
      ∀ user widened system, (hierarchy.withUser user).effective = .ok widened →
        hierarchy.system = some system → system.policy.requests ≠ [] →
          ∀ request ∈ widened.requests, ∃ candidate ∈ system.policy.requests,
            Matches candidate request := by
  refine ⟨narrows_of_effective ok, ?_⟩
  intro user widened system widens present listed request member
  refine (narrows_of_effective widens).requests request member system ?_ listed
  simp [allowlists, withUser, present]

/-- The layers of the source's test. -/
theorem effective_narrows_report :
    Narrows
      (((new .safeDefaults).withSystem
          { Policy.safeDefaults with maxRisk := .medium, allowExperimental := false }).withUser
        { Policy.safeDefaults with mode := .boost })
      { Policy.safeDefaults with maxRisk := .medium, allowExperimental := false } :=
  (effective_narrows (by decide)).1

end ConfigHierarchy

end Sysboost.Config
