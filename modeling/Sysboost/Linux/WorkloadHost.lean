import Sysboost.Linux.UclampPair
import Sysboost.Linux.WorkloadHonesty
import Sysboost.Platform.Capture
import Sysboost.Platform.Testkit

/-!
# The engine over the workload backend

The engine makes the calls of its ports.  A call about a mutation of this backend
is made by a stage of the backend, which calls the kernel; any other call is made
elsewhere.  Under a plan whose mutations were admitted, the clamps of a group stay
in order through everything that an engine does with the plan.
-/

namespace Sysboost.Linux.Workload

open Sysboost.Core Sysboost.Planner Interaction
open Platform (EngineId StoreLaw Trusted unfinished)

/-! ## Port calls made by the backend -/

/-- A call of a port that another part of the helper serves, or of this backend. -/
inductive HostCall where
  | port (call : Platform.Call)
  | adapter (call : Call)

abbrev HostAnswer : HostCall → Type
  | .port call => Platform.Answer call
  | .adapter call => Answer call

/-- A stage of the backend. -/
def staged {α : Type} (program : Io α) : Prog HostAnswer (Except SysboostError α) :=
  program.run.embed HostCall.adapter fun _ answer => answer

/-- `MutationBackend` of the backend, for the mutations that the registry routes to it. -/
def WorkloadSysfs.hosted (sysfs : WorkloadSysfs) (routed : PlannedMutation → Bool) :
    (call : Platform.Call) → Prog HostAnswer (Platform.Answer call)
  | .snapshot mutation now =>
      if routed mutation then staged (sysfs.snapshotInternal mutation now)
      else Prog.perform (HostCall.port (.snapshot mutation now))
  | .apply sessionId mutation snapshot =>
      if routed mutation then staged (sysfs.applyInternal mutation snapshot)
      else Prog.perform (HostCall.port (.apply sessionId mutation snapshot))
  | .verify sessionId stage mutation expected expectedTargetIdentity =>
      if routed mutation then staged (sysfs.verifyInternal mutation expectedTargetIdentity)
      else Prog.perform
        (HostCall.port (.verify sessionId stage mutation expected expectedTargetIdentity))
  | .restore sessionId mutation snapshot expectedOwnership =>
      if routed mutation then staged (sysfs.restoreInternal mutation snapshot expectedOwnership)
      else Prog.perform (HostCall.port (.restore sessionId mutation snapshot expectedOwnership))
  | call => Prog.perform (HostCall.port call)

/-! ## What the host promises -/

variable {W : Type}

/-- What the kernel answers to the backend. -/
abbrev ofAdapter (env : Environment HostAnswer W) : Environment Answer W :=
  fun world call answer after => env world (.adapter call) answer after

/-- The kernel keeps its promises about the clamps, the store about its records,
and neither touches what is the other's. -/
structure Hosts (env : Environment HostAnswer W) (clamps : W → Clamps)
    (files : W → List SessionRecord) (place : GroupPlace) : Prop where
  clamping : Clamping (ofAdapter env) clamps place
  keepsFiles : ∀ {before after : W} {call : Call} {answer : Answer call},
    env before (.adapter call) answer after → files after = files before
  keepsClamps : ∀ {before after : W} {call : Platform.Call} {answer : Platform.Answer call},
    env before (.port call) answer after → clamps after = clamps before
  store : ∀ {before after : W} {call : Platform.Call} {answer : Platform.Answer call},
    env before (.port call) answer after → StoreLaw (files before) (files after) call answer

section Serving

variable {env : Environment HostAnswer W} {clamps : W → Clamps} {files : W → List SessionRecord}
  {place : GroupPlace} {original : Clamps} {kept : List SessionRecord → Prop}

/-- A stage leaves the store as it is. -/
theorem Hosts.staged (hosts : Hosts env clamps files place) {α : Type} {program : Io α}
    {post : Except SysboostError α → W → Prop} {world : W}
    (safe : Alone (ofAdapter env) (InOrder clamps original) post program.run world) :
    Alone env (fun before _ => Between original (clamps before) ∧ files before = files world)
      (fun result after => post result after ∧ files after = files world) (staged program)
      world := by
  have keeping : Keeping (ofAdapter env) (fun before _ => files before = files world) files
      (files world) fun _ => True := by
    intro before call same _
    constructor
    · exact same
    · exact fun answer after law => (hosts.keepsFiles law).trans same
  have stored : Alone (ofAdapter env) (fun before _ => files before = files world)
      (Holds files (files world) fun _ => True) program.run world :=
    keeping.holds ((Within.any program.run).mono fun _ _ _ _ => trivial) rfl
  apply Alone.embed
  apply ((Safe.and safe stored).mono _).weaken
  · rintro before call answer after - ⟨_, rfl, law⟩
    exact law
  · exact fun _ _ known => known
  · exact fun result after known => ⟨known.1, known.2.2⟩

/-- The pair is in order, and the store as it should be. -/
structure Guarded (clamps : W → Clamps) (files : W → List SessionRecord) (original : Clamps)
    (kept : List SessionRecord → Prop) (world : W) : Prop where
  between : Between original (clamps world)
  stored : kept (files world)

/-- A call about a mutation, which may be one of this backend. -/
theorem Hosts.either (hosts : Hosts env clamps files place) {α : Type} {program : Io α}
    {other : Prog HostAnswer (Except SysboostError α)} {shows : Except SysboostError α → Prop}
    {mine : Bool} {world : W} (guarded : Guarded clamps files original kept world)
    (safe : mine = true → Alone (ofAdapter env) (InOrder clamps original)
      (fun result after => shows result ∧ Between original (clamps after)) program.run world)
    (elsewhere : Alone env (fun world _ => Guarded clamps files original kept world)
      (fun result after => shows result ∧ Guarded clamps files original kept after) other world) :
    Alone env (fun world _ => Guarded clamps files original kept world)
      (fun result after => shows result ∧ Guarded clamps files original kept after)
      (if mine then Workload.staged program else other) world := by
  cases mine with
  | true =>
      apply ((hosts.staged (safe rfl)).mono _).weaken
      · exact fun _ _ _ _ _ law => law
      · exact fun before call known => ⟨known.1, known.2 ▸ guarded.stored⟩
      · exact fun result after known => ⟨known.1.1, known.1.2, known.2 ▸ guarded.stored⟩
  | false => exact elsewhere

/-- A call that is made elsewhere keeps the pair as it is. -/
theorem Hosts.ported (hosts : Hosts env clamps files place) {call : Platform.Call}
    {shows : Platform.Answer call → Prop} {world : W}
    (guarded : Guarded clamps files original kept world)
    (keeps : ∀ answer after, StoreLaw (files world) after call answer →
      shows answer ∧ kept after) :
    Alone env (fun world _ => Guarded clamps files original kept world)
      (fun answer after => shows answer ∧ Guarded clamps files original kept after)
      (Prog.perform (HostCall.port call)) world := by
  apply Alone.call_iff.mpr
  constructor
  · exact guarded
  · intro answer after law
    obtain ⟨shown, stored⟩ := keeps answer _ (hosts.store law)
    have between : Between original (clamps after) := by
      rw [hosts.keepsClamps law]
      exact guarded.between
    exact Alone.ret_iff.mpr ⟨shown, between, stored⟩

end Serving

/-! ## Serving a prepared plan -/

section Plan

variable {env : Environment HostAnswer W} {clamps : W → Clamps} {files : W → List SessionRecord}
  {place : GroupPlace} {original : Clamps} {routed : PlannedMutation → Bool}

/-- A mutation of an end fits the original pair, and its snapshot holds the
original end. -/
def Fitting (place : GroupPlace) (routed : PlannedMutation → Bool) (original : Clamps)
    (mutation : PlannedMutation) (snapshot : Snapshot) : Prop :=
  routed mutation = true → ∀ side value, place.clampOf mutation.kind = some (side, value) →
    original.Fits side (uclampLevel value) ∧ ShowsEnd original side snapshot.originalTyped

/-- The terms of an engine that goes on with such snapshots. -/
abbrev Fitting.resuming (place : GroupPlace) (routed : PlannedMutation → Bool)
    (original : Clamps) : Terms Platform.Answer :=
  Platform.resuming (Fitting place routed original)

/-- Records whose sessions are over, or that hold fitting snapshots. -/
abbrev Fitted (place : GroupPlace) (routed : PlannedMutation → Bool) (original : Clamps)
    (files : List SessionRecord) : Prop :=
  ∀ record ∈ files, Trusted (Fitting place routed original) record

theorem fitted_substitute {records : List SessionRecord} {record : SessionRecord}
    (fitted : Fitted place routed original records)
    (trusted : Trusted (Fitting place routed original) record) :
    Fitted place routed original (Platform.substitute record records) := by
  intro stored member
  obtain ⟨earlier, present, rfl⟩ := List.mem_map.mp member
  split
  · exact trusted
  · exact fitted earlier present

theorem fitted_discard {records : List SessionRecord} (sessionId : SessionId)
    (fitted : Fitted place routed original records) :
    Fitted place routed original (Platform.discard sessionId records) :=
  fun record member => fitted record (List.mem_of_mem_filter member)

/-- The store keeps records fitted when only such records are put there. -/
theorem store_resumes {records after : List SessionRecord} {call : Platform.Call}
    {answer : Platform.Answer call}
    (allowed : (Fitting.resuming place routed original).allowed call)
    (fitted : Fitted place routed original records) (law : StoreLaw records after call answer) :
    (Fitting.resuming place routed original).promised call answer ∧
      Fitted place routed original after := by
  have kept (same : after = records) : Fitted place routed original after := same ▸ fitted
  cases call with
  | create record => exact allowed.elim
  | nextId => exact allowed.elim
  | snapshot mutation now => exact allowed.elim
  | replace record =>
      cases answer with
      | ok done =>
          obtain ⟨-, rfl⟩ := law
          exact ⟨trivial, fitted_substitute fitted allowed⟩
      | error error =>
          obtain rfl | rfl := law
          · exact ⟨trivial, fitted⟩
          · exact ⟨trivial, fitted_substitute fitted allowed⟩
  | remove sessionId =>
      cases answer with
      | ok done =>
          obtain rfl := law
          exact ⟨trivial, fitted_discard sessionId fitted⟩
      | error error =>
          obtain rfl | rfl := law
          · exact ⟨trivial, fitted⟩
          · exact ⟨trivial, fitted_discard sessionId fitted⟩
  | load sessionId =>
      cases answer with
      | ok record =>
          obtain ⟨rfl, member, -⟩ := law
          exact ⟨fitted record member, fitted⟩
      | error error => exact ⟨trivial, kept law⟩
  | loadUnfinished =>
      cases answer with
      | ok loaded =>
          obtain ⟨rfl, permuted⟩ := law
          constructor
          · intro record member
            obtain ⟨present, open_⟩ := List.mem_filter.mp (permuted.mem_iff.mp member)
            have unrestored : record.session.state ≠ .restored := by simpa using open_
            exact ⟨unrestored, (fitted record present).resolve_left unrestored⟩
          · exact fitted
      | error error => exact ⟨trivial, kept law⟩
  | _ => exact ⟨trivial, kept law⟩

/-- An engine that serves the plan finds the terms met. -/
theorem Hosts.resumes (hosts : Hosts env clamps files place) (sysfs : WorkloadSysfs)
    (valid : original.Valid) (call : Platform.Call) (world : W)
    (allowed : (Fitting.resuming place routed original).allowed call)
    (guarded : Guarded clamps files original (Fitted place routed original) world) :
    Alone env (fun world _ => Guarded clamps files original (Fitted place routed original) world)
      (fun answer after => (Fitting.resuming place routed original).promised call answer ∧
        Guarded clamps files original (Fitted place routed original) after)
      (sysfs.hosted routed call) world := by
  have elsewhere : Alone env
      (fun world _ => Guarded clamps files original (Fitted place routed original) world)
      (fun answer after => (Fitting.resuming place routed original).promised call answer ∧
        Guarded clamps files original (Fitted place routed original) after)
      (Prog.perform (HostCall.port call)) world :=
    hosts.ported guarded fun answer after law => store_resumes allowed guarded.stored law
  have shown {α : Type} {program : Io α} {world : W}
      (safe : Alone (ofAdapter env) (InOrder clamps original)
        (fun _ after => Between original (clamps after)) program.run world) :
      Alone (ofAdapter env) (InOrder clamps original)
        (fun _ after => True ∧ Between original (clamps after)) program.run world :=
    safe.mono fun _ _ between => ⟨trivial, between⟩
  cases call with
  | snapshot mutation now => exact allowed.elim
  | apply sessionId mutation snapshot =>
      apply hosts.either guarded _ elsewhere
      intro mine
      apply shown
      apply alone_applyInternal hosts.clamping guarded.between rfl
      exact fun side value sets => (allowed mine side value sets).1
  | verify sessionId stage mutation expected expectedTargetIdentity =>
      apply hosts.either guarded _ elsewhere
      intro _
      apply shown
      apply alone_reads hosts.clamping guarded.between rfl
      exact .bind (sysfs.read_calls mutation) fun _ => .bind (.refuseIf rfl) fun _ => .pure _
  | restore sessionId mutation snapshot expectedOwnership =>
      apply hosts.either guarded _ elsewhere
      intro mine
      apply shown
      apply alone_restoreInternal hosts.clamping guarded.between rfl _ _ _ _ valid
      exact fun side value sets => (allowed mine side value sets).2
  | _ => exact elsewhere

/-! ## Preparing the plan -/

/-- The mutation was admitted in a state with these clamps. -/
def Admitted (env : Environment HostAnswer W) (clamps : W → Clamps) (sysfs : WorkloadSysfs)
    (now : Clamps) (mutation : PlannedMutation) : Prop :=
  ∃ expected before after, clamps before = now ∧
    Executes (ofAdapter env) (sysfs.validateAdmission mutation expected).run before (.ok ()) after

theorem Admitted.fits {sysfs : WorkloadSysfs} {mutation : PlannedMutation}
    (hosts : Hosts env clamps files place) (valid : original.Valid)
    (admitted : Admitted env clamps sysfs original mutation) {side : ClampEnd} {value : UclampValue}
    (sets : place.clampOf mutation.kind = some (side, value)) :
    original.Fits side (uclampLevel value) := by
  obtain ⟨expected, before, after, same, run⟩ := admitted
  have known := run.post
    (alone_validateAdmission hosts.clamping (.refl valid) same sysfs mutation expected)
  exact known.1 () rfl side value sets

/-- Every record was there before, or holds fitting snapshots. -/
structure Added (place : GroupPlace) (routed : PlannedMutation → Bool) (original : Clamps)
    (before after : List SessionRecord) : Prop where
  kept : ∀ record ∈ before, record ∈ after
  fits : ∀ record ∈ after, record ∈ before ∨
    record.outline.Sound (Fitting place routed original)

theorem Added.refl (records : List SessionRecord) :
    Added place routed original records records where
  kept := fun _ member => member
  fits := fun _ member => .inl member

theorem Added.append {before after : List SessionRecord} {record : SessionRecord}
    (added : Added place routed original before after)
    (sound : record.outline.Sound (Fitting place routed original)) :
    Added place routed original before (after ++ [record]) where
  kept := fun other member => List.mem_append_left _ (added.kept other member)
  fits := by
    intro other member
    rcases List.mem_append.mp member with member | member
    · exact added.fits other member
    · rw [List.mem_singleton] at member
      exact .inr (member ▸ sound)

/-- All sessions are over. -/
def Settled (records : List SessionRecord) : Prop :=
  ∀ record ∈ records, record.session.state = .restored

/-- The terms of an engine that prepares a plan with such snapshots. -/
abbrev Fitting.preparing (place : GroupPlace) (routed : PlannedMutation → Bool)
    (original : Clamps) (plan : Plan) (before : List SessionRecord) : Terms Platform.Answer :=
  Platform.preparing (Fitting place routed original) plan (Settled before)

/-- Nothing but a fitting record is added while a plan is prepared. -/
theorem store_prepares {records before after : List SessionRecord} {plan : Plan}
    {call : Platform.Call} {answer : Platform.Answer call}
    (allowed : (Fitting.preparing place routed original plan before).allowed call)
    (other : ∀ mutation now, call ≠ .snapshot mutation now)
    (added : Added place routed original before records)
    (law : StoreLaw records after call answer) :
    (Fitting.preparing place routed original plan before).promised call answer ∧
      Added place routed original before after := by
  have kept (same : after = records) : Added place routed original before after := same ▸ added
  cases call with
  | create record =>
      cases answer with
      | ok done =>
          obtain ⟨-, rfl⟩ := law
          exact ⟨trivial, added.append allowed⟩
      | error error =>
          obtain rfl | ⟨-, rfl⟩ := law
          · exact ⟨trivial, added⟩
          · exact ⟨trivial, added.append allowed⟩
  | snapshot mutation now => exact absurd rfl (other mutation now)
  | loadUnfinished =>
      cases answer with
      | ok loaded =>
          obtain ⟨rfl, permuted⟩ := law
          constructor
          · rintro rfl record member
            by_contra open_
            have present : record ∈ unfinished after :=
              List.mem_filter.mpr ⟨added.kept record member, by simpa using open_⟩
            rw [← permuted.mem_iff] at present
            cases present
          · exact added
      | error error => exact ⟨trivial, kept law⟩
  | replace record => exact allowed.elim
  | remove sessionId => exact allowed.elim
  | load sessionId => exact allowed.elim
  | apply sessionId mutation snapshot => exact allowed.elim
  | verify sessionId stage mutation expected identity => exact allowed.elim
  | restore sessionId mutation snapshot ownership => exact allowed.elim
  | _ => exact ⟨trivial, kept law⟩

/-- The clamps are the original ones, and the store has grown by fitting records. -/
structure Unapplied (clamps : W → Clamps) (files : W → List SessionRecord) (place : GroupPlace)
    (routed : PlannedMutation → Bool) (original : Clamps) (before : List SessionRecord)
    (world : W) : Prop where
  same : clamps world = original
  added : Added place routed original before (files world)

theorem Hosts.prepares (hosts : Hosts env clamps files place) (sysfs : WorkloadSysfs)
    (valid : original.Valid) {plan : Plan}
    (admitted : ∀ mutation ∈ plan.mutations, routed mutation = true →
      Admitted env clamps sysfs original mutation)
    (before : List SessionRecord) (call : Platform.Call) (world : W)
    (allowed : (Fitting.preparing place routed original plan before).allowed call)
    (unapplied : Unapplied clamps files place routed original before world) :
    Alone env (fun world _ => (clamps world).Valid)
      (fun answer after => (Fitting.preparing place routed original plan before).promised call answer ∧
        Unapplied clamps files place routed original before after)
      (sysfs.hosted routed call) world := by
  have between : Between original (clamps world) := by
    rw [unapplied.same]
    exact .refl valid
  have elsewhere (shows : ∀ answer after, StoreLaw (files world) after call answer →
      (Fitting.preparing place routed original plan before).promised call answer ∧
        Added place routed original before after) :
      Alone env (fun world _ => (clamps world).Valid)
        (fun answer after => (Fitting.preparing place routed original plan before).promised call answer ∧
          Unapplied clamps files place routed original before after)
        (Prog.perform (HostCall.port call)) world := by
    apply Alone.call_iff.mpr
    constructor
    · exact between.valid
    · intro answer after law
      obtain ⟨shown, added⟩ := shows answer _ (hosts.store law)
      have same : clamps after = original := (hosts.keepsClamps law).trans unapplied.same
      exact Alone.ret_iff.mpr ⟨shown, same, added⟩
  cases call with
  | snapshot mutation now =>
      cases mine : routed mutation with
      | false =>
          simp only [WorkloadSysfs.hosted, mine, Bool.false_eq_true, if_false]
          apply elsewhere
          intro answer after law
          cases answer with
          | error error => exact ⟨trivial, law ▸ unapplied.added⟩
          | ok snapshot =>
              have fitting : Fitting place routed original mutation snapshot := by
                rw [Fitting, mine]
                exact nofun
              exact ⟨fitting, law ▸ unapplied.added⟩
      | true =>
          simp only [WorkloadSysfs.hosted, mine, if_true]
          have taken := hosts.staged
            (alone_snapshotInternal hosts.clamping (.refl valid) unapplied.same sysfs mutation now)
          apply (taken.mono _).weaken
          · exact fun _ _ _ _ _ law => law
          · exact fun _ _ known => known.1.valid
          · intro answer after known
            have unapplied' : Unapplied clamps files place routed original before after :=
              ⟨known.1.2, known.2 ▸ unapplied.added⟩
            cases answer with
            | error error => exact ⟨trivial, unapplied'⟩
            | ok snapshot =>
                have fitting : Fitting place routed original mutation snapshot := by
                  intro _ side value sets
                  have fits := (admitted mutation allowed mine).fits hosts valid sets
                  exact ⟨fits, known.1.1 snapshot rfl side value sets⟩
                exact ⟨fitting, unapplied'⟩
  | apply sessionId mutation snapshot => exact allowed.elim
  | verify sessionId stage mutation expected identity => exact allowed.elim
  | restore sessionId mutation snapshot ownership => exact allowed.elim
  | _ =>
      exact elsewhere fun answer after law =>
        store_prepares allowed (fun _ _ => nofun) unapplied.added law

end Plan

/-! ## Runs -/

/-- Everything but a new preparation. -/
def Resumes : Platform.Request → Prop
  | .prepare _ => False
  | _ => True

/-- Engines that go on with what is prepared, over this backend.  An engine can
stop between any two calls of the kernel. -/
def resumption (sysfs : WorkloadSysfs) (routed : PlannedMutation → Bool)
    (env : EngineId → Environment HostAnswer W) (crash : EngineId → W → W) :
    Service HostAnswer EngineId {request : Platform.Request // Resumes request} Platform.Reply
      W where
  program request := request.val.program.via (sysfs.hosted routed)
  env := env
  issue _ _ world := world
  reply _ _ _ world := world
  stop := crash

/-- Hosts whose engines can stop, which changes neither the clamps nor the store. -/
structure Keepers (env : EngineId → Environment HostAnswer W) (crash : EngineId → W → W)
    (clamps : W → Clamps) (files : W → List SessionRecord) (place : GroupPlace) : Prop where
  hosts : ∀ engine, Hosts (env engine) clamps files place
  crashes : ∀ engine world, clamps (crash engine world) = clamps world ∧
    files (crash engine world) = files world

section Runs

variable {env : EngineId → Environment HostAnswer W} {crash : EngineId → W → W}
  {clamps : W → Clamps} {files : W → List SessionRecord} {place : GroupPlace}
  {original : Clamps} {routed : PlannedMutation → Bool} {right : PlannedMutation → Snapshot → Prop}

theorem request_obeys {request : Platform.Request} (resumes : Resumes request) :
    Obeys (Platform.resuming right) (fun _ => True) request.program := by
  cases request with
  | prepare plan => exact resumes.elim
  | apply sessionId =>
      exact Obeys.seq (Platform.resuming_entrusts.apply_obeys sessionId) fun _ _ => trivial
  | restore sessionId =>
      exact Obeys.seq (Platform.resuming_entrusts.restore_obeys sessionId) fun _ _ => trivial
  | abortPrepared sessionId =>
      exact Obeys.seq (Platform.resuming_entrusts.abortPrepared_obeys sessionId) fun _ _ => trivial
  | recoverUnfinished =>
      exact Obeys.seq Platform.resuming_entrusts.recoverUnfinished_obeys fun _ _ => trivial

/-- The pair stays in order while engines go on with fitting records. -/
theorem resumption_between (keepers : Keepers env crash clamps files place)
    (sysfs : WorkloadSysfs) (valid : original.Valid) {world : W}
    (guarded : Guarded clamps files original (Fitted place routed original) world)
    {state : Service.Serial HostAnswer EngineId {request : Platform.Request // Resumes request}
      Platform.Reply W}
    (reachable : (resumption sysfs routed env crash).SerialReachable world state) :
    Between original (clamps state.world) := by
  have good : Service.SerialGood (resumption sysfs routed env crash)
      (Guarded clamps files original (Fitted place routed original)) (fun _ _ _ => True) state := by
    apply Service.SerialReachable.good guarded _ _ reachable
    · intro engine request world guarded
      have served : Alone (env engine)
          (fun world _ => Guarded clamps files original (Fitted place routed original) world)
          (fun _ after => True ∧ Guarded clamps files original (Fitted place routed original) after)
          (request.val.program.via (sysfs.hosted routed)) world :=
        (request_obeys request.property).via ((keepers.hosts engine).resumes sysfs valid) guarded
      apply (served.mono _).weaken
      · exact fun _ _ _ _ _ law => law
      · exact fun _ _ guarded => ⟨guarded, trivial⟩
      · exact fun _ _ known => ⟨known.2, known.2⟩
    · intro engine world guarded
      obtain ⟨pair, store⟩ := keepers.crashes engine world
      exact ⟨pair ▸ guarded.between, store ▸ guarded.stored⟩
  exact good.invariant.between

/-- The pair of a group stays valid under an admitted plan.  It is valid
whenever the preparation calls the kernel, and once the plan is prepared it is
valid after every call that engines make: while they apply the mutations in
order, wherever they stop, and while they restore them in reverse, at once, on
request or after a restart. -/
theorem uclamp_pair_valid (keepers : Keepers env crash clamps files place)
    (sysfs : WorkloadSysfs) (engine : EngineId) {plan : Plan} {world : W}
    (valid : (clamps world).Valid)
    (admitted : ∀ mutation ∈ plan.mutations, routed mutation = true →
      Admitted (env engine) clamps sysfs (clamps world) mutation) :
    Alone (env engine) (fun world _ => (clamps world).Valid)
      (fun result after => (clamps after).Valid ∧ ∀ sessionId, result = .ok sessionId →
        ∀ state, (resumption sysfs routed env crash).SerialReachable after state →
          (clamps state.world).Valid)
      ((Platform.prepare plan).run.via (sysfs.hosted routed)) world := by
  have start : Unapplied clamps files place routed (clamps world) (files world) world :=
    ⟨rfl, .refl _⟩
  have prepared := Obeys.via ((keepers.hosts engine).prepares sysfs valid admitted (files world))
    Platform.prepare_obeys start
  apply prepared.mono
  rintro result after ⟨settled, unapplied⟩
  constructor
  · rw [unapplied.same]
    exact valid
  · intro sessionId ok state reachable
    have guarded : Guarded clamps files (clamps world) (Fitted place routed (clamps world))
        after := by
      constructor
      · rw [unapplied.same]
        exact .refl valid
      · intro record member
        rcases unapplied.added.fits record member with earlier | sound
        · exact .inl (settled sessionId ok record earlier)
        · exact .inr sound
    exact (resumption_between keepers sysfs valid guarded reachable).valid

end Runs

/-! ## A group with two clamps -/

namespace ClampedGroup

def group : SysfsGroup :=
  fixtureGroup 7 gamesTarget "games"

def place : GroupPlace :=
  ⟨group.path, 1, 7⟩

/-- The clamps and the records. -/
abbrev Host := Clamps × List SessionRecord

def text (clamps : Clamps) (path : Kernel.Path) : Except Storage.IoErrorKind String :=
  match path.getLast? with
  | some "cgroup.controllers" => .ok "cpu"
  | some "cgroup.subtree_control" => .ok ""
  | some "cpu.uclamp.min" => .ok (renderUclamp (.value clamps.min))
  | some "cpu.uclamp.max" => .ok (renderUclamp (.value clamps.max))
  | _ => .error .notFound

def kernel (clamps : Clamps) : (call : Call) → Answer call × Clamps
  | .kernel (.writeAll path content) =>
      match [ClampEnd.min, .max].find? (fun side => path = place.clampFile side),
        parseUclamp content with
      | some side, .ok value => (.ok (), clamps.set side (uclampLevel value))
      | _, _ => (.error .other, clamps)
  | call => (shown [group] (text clamps) call, clamps)

def env (before : Host) : (call : HostCall) → HostAnswer call → Host → Prop
  | .port call, answer, after => after.1 = before.1 ∧ StoreLaw before.2 after.2 call answer
  | .adapter call, answer, after => after.2 = before.2 ∧ kernel before.1 call = (answer, after.1)

theorem text_clampFile (clamps : Clamps) (side : ClampEnd) :
    text clamps (place.clampFile side) = .ok (renderUclamp (.value (clamps.get side))) := by
  cases side with
  | min => rfl
  | max => rfl

theorem find_clampFile (side : ClampEnd) :
    [ClampEnd.min, .max].find? (fun other => place.clampFile side = place.clampFile other) =
      some side := by
  cases side with
  | min => decide
  | max => decide

theorem clamping : Clamping (ofAdapter env) Prod.fst place where
  placed := by
    rintro before after path metadata ⟨-, law⟩
    have answered := congrArg Prod.fst law
    by_cases here : path = place.path
    · subst here
      cases answered
      exact iff_of_true ⟨rfl, rfl⟩ rfl
    · have other : ¬group.path = path := fun same => here same.symm
      simp only [kernel, shown, List.find?_cons, List.find?_nil, decide_eq_false other] at answered
      cases held : text before.1 path with
      | error kind =>
          rw [held] at answered
          cases answered
      | ok content =>
          rw [held] at answered
          cases answered
          have other : ¬(1 : UInt64) = place.inode := by decide
          exact iff_of_false (fun same => other same.2) here
  shows := by
    rintro before after side limit raw value ⟨-, law⟩ parsed
    have answered := congrArg Prod.fst law
    simp only [kernel, shown, text_clampFile] at answered
    cases answered
    rw [eq_of_parseUclamp_render parsed]
    rfl
  stores := by
    rintro before after side content answer ⟨-, law⟩
    simp only [kernel, find_clampFile] at law
    split at law
    next found parsed =>
      cases found
      exact .inr ⟨_, parsed, (congrArg Prod.snd law).symm⟩
    · exact .inl (congrArg Prod.snd law).symm
  stays := by
    rintro before after call answer elsewhere ⟨-, law⟩
    have same : after.1 = (kernel before.1 call).2 := (congrArg Prod.snd law).symm
    rw [same]
    unfold kernel
    split
    next path content =>
      split
      next side value found parsed =>
        have same := List.find?_some found
        exact (elsewhere side content (by simpa using same)).elim
      · rfl
    · rfl

theorem keepers : Keepers (fun _ => env) (fun _ world => world) Prod.fst Prod.snd place where
  hosts _ := {
    clamping := clamping
    keepsFiles := fun law => law.1
    keepsClamps := fun law => law.1
    store := fun law => law.2 }
  crashes _ _ := ⟨rfl, rfl⟩

/-- A change of one clamp. -/
def mutation (id : UInt32) (kind : MutationKind) (current : UclampValue) : PlannedMutation where
  mutationId := ⟨id⟩
  capability := CapabilityIds.cgroupUclamp
  target := group.identity.handle
  kind := kind
  desired := kind.typedValue
  precondition := fingerprintForValue (.typed (.cgroupUclamp current))
  equality := .scalarExact
  dependencies := []
  rollback := ⟨.scalarExact, .compareAndRestore⟩

def raiseMax : PlannedMutation :=
  mutation 1 (.cgroupUclampMax group.identity .max) (.value 400)

def raiseMin : PlannedMutation :=
  mutation 2 (.cgroupUclampMin group.identity (.value 300)) (.value 200)

def plan : Plan :=
  { Platform.fixturePlan raiseMax with
    mutations := [raiseMax, raiseMin]
    items := (Platform.fixturePlan raiseMax).items ++ (Platform.fixturePlan raiseMin).items }

def start : Host :=
  (⟨200, 400⟩, [])

/-- What the kernel answers to the backend. -/
def answer (host : Host) (call : Call) : Answer call × Host :=
  ((kernel host.1 call).1, (kernel host.1 call).2, host.2)

theorem admits {mutation : PlannedMutation}
    (ok : ((fixtureSysfs.validateAdmission mutation
      (cgroupIdentity group.identity)).run.exec answer start).1 = .ok ()) :
    Admitted env Prod.fst fixtureSysfs start.1 mutation := by
  have answers : ∀ host call, ofAdapter env host call (answer host call).1 (answer host call).2 :=
    fun _ _ => ⟨rfl, rfl⟩
  have run := Executes.exec answers
    (fixtureSysfs.validateAdmission mutation (cgroupIdentity group.identity)).run start
  rw [ok] at run
  exact ⟨_, _, _, rfl, run⟩

end ClampedGroup

/-- Raise the upper clamp from 400 to `max`, then the lower one from 200 to 300. -/
theorem uclamp_pair_valid_group :
    Alone ClampedGroup.env (fun host _ => host.1.Valid)
      (fun result after => after.1.Valid ∧ ∀ sessionId, result = .ok sessionId →
        ∀ state, (resumption fixtureSysfs (fun _ => true) (fun _ => ClampedGroup.env)
          fun _ host => host).SerialReachable after state → state.world.1.Valid)
      ((Platform.prepare ClampedGroup.plan).run.via (fixtureSysfs.hosted fun _ => true))
      ClampedGroup.start := by
  have valid : ClampedGroup.start.1.Valid := by
    show (200 : UInt16) ≤ 400
    decide
  apply uclamp_pair_valid ClampedGroup.keepers fixtureSysfs 0 valid
  intro mutation member _
  rcases List.mem_cons.mp member with rfl | member
  · exact ClampedGroup.admits (by decide +kernel)
  · rw [List.mem_singleton] at member
    subst member
    exact ClampedGroup.admits (by decide +kernel)

end Sysboost.Linux.Workload
