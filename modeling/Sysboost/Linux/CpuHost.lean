import Sysboost.Linux.CpuStages
import Sysboost.Platform.Originals

/-!
# Engines over CPU controls

The backend of the engines is the CPU adapter, and every call of the kernel can fail.
Every run of such a system, with processes that end between any two calls of the kernel,
is explained by a run of engines on a machine whose places are the CPU controls.
-/

namespace Sysboost.Linux.Cpu

open Sysboost.Core Sysboost.Planner Interaction Kernel
open Platform (EngineId Entry LeaseLaw Machine MachineLaw OnRecord OnlyAt PlaceLaw Reply Request
  StoreLaw World machineService)

/-! ## Calls -/

/-- A port call of an engine, or a call of the kernel. -/
abbrev HostCall := Platform.Call ⊕ Kernel.Call

abbrev HostAnswer : HostCall → Type
  | .inl call => Platform.Answer call
  | .inr call => Kernel.Answer call

/-- A program that only calls the kernel. -/
def onKernel {α : Type} (program : Prog Kernel.Answer α) : Prog HostAnswer α :=
  program.embed Sum.inr fun _ answer => answer

/-- The methods of the backend are programs over the kernel. -/
def CpuSysfs.serve (sysfs : CpuSysfs) :
    (call : Platform.Call) → Prog HostAnswer (Platform.Answer call)
  | .snapshot mutation now =>
      onKernel (CpuBackend.snapshotInternal ⟨sysfs.port⟩ mutation now).run
  | .apply _ mutation snapshot =>
      onKernel (CpuBackend.applyInternal ⟨sysfs.port⟩ mutation snapshot).run
  | .verify _ _ mutation _ identity =>
      onKernel (CpuBackend.verifyInternal ⟨sysfs.port⟩ mutation identity).run
  | .restore _ mutation snapshot ownership =>
      onKernel (CpuBackend.restoreInternal ⟨sysfs.port⟩ mutation snapshot ownership).run
  | call => .call (.inl call) .ret

/-- A method of the backend. -/
def OfBackend : Platform.Call → Prop
  | .snapshot _ _ | .apply _ _ _ | .verify _ _ _ _ _ | .restore _ _ _ _ => True
  | _ => False

/-- An entry that is no call of the backend. -/
def outside : Entry → Bool
  | .port _ ⟨.snapshot _ _, _, _⟩ => false
  | .port _ ⟨.apply _ _ _, _, _⟩ => false
  | .port _ ⟨.verify _ _ _ _ _, _, _⟩ => false
  | .port _ ⟨.restore _ _ _ _, _, _⟩ => false
  | _ => true

/-- The world, and what is in the files of the kernel.  The log has no entries for the
backend. -/
structure CpuHost where
  world : World
  contents : Contents

/-- What the calls do. -/
def HostLaw (sysfs : CpuSysfs) (interface : CpuBoostInterface) (engine : EngineId)
    (before : CpuHost) : (call : HostCall) → HostAnswer call → CpuHost → Prop
  | .inl call, answer, after =>
      Platform.Law engine before.world call answer after.world ∧ after.contents = before.contents
  | .inr call, answer, after =>
      sysfs.FilesLaw interface before.contents call answer after.contents ∧
        after.world = before.world

/-- Engines that serve requests with the CPU backend. -/
def hostService (sysfs : CpuSysfs) (interface : CpuBoostInterface) :
    Service HostAnswer EngineId Request Reply CpuHost where
  program request := request.program.via sysfs.serve
  env := HostLaw sysfs interface
  issue engine request host := { host with world := host.world.note (.requested engine request) }
  reply engine request reply host :=
    { host with world := host.world.note (.returned engine request reply) }
  stop engine host := { host with world := host.world.crash engine }

/-! ## The relation -/

/-- The places of the machine hold what the files of the controls hold; the rest is the
same, as far as it can be seen. -/
structure Mirrors (sysfs : CpuSysfs) (interface : CpuBoostInterface) (host : CpuHost)
    (machine : Machine CpuControl) : Prop where
  files : host.world.files = machine.world.files
  active : host.world.active = machine.world.active
  holder : host.world.holder = machine.world.holder
  log : host.world.log = machine.world.log.filter outside
  values : machine.values = sysfs.holding interface host.contents

section Serving

variable {sysfs : CpuSysfs} {interface : CpuBoostInterface} {engine : EngineId}
  {host : CpuHost} {machine : Machine CpuControl}

/-- A program that is safe in the files leaves the rest of the host alone. -/
theorem onKernel_alone {α : Type} {assertion : Contents → Prop} {post : α → Contents → Prop}
    {program : Prog Kernel.Answer α}
    (safe : Alone (sysfs.FilesLaw interface) (fun now _ => assertion now) post program
      host.contents) :
    Alone (HostLaw sysfs interface engine)
      (fun now _ => assertion now.contents ∧ now.world = host.world)
      (fun value now => post value now.contents ∧ now.world = host.world) (onKernel program)
      host := by
  apply Alone.embed
  have viewed : Alone (fun before request answer after => ∃ given, given = answer ∧
      HostLaw sysfs interface engine before (.inr request) given after)
      (fun now _ => assertion now.contents) (fun value now => post value now.contents) program
      host := by
    apply Alone.view CpuHost.contents _ safe
    rintro before request answer after ⟨_, rfl, law⟩
    exact law.1
  apply viewed.carry
  · rintro before _ rfl same
    exact same
  · rintro before request answer after same - ⟨_, rfl, -, kept⟩
    exact kept.trans same
  · rfl

/-- A change in the files of a control is seen at this control only. -/
theorem onlyAt_of_sameBut {before after : Contents} {control : CpuControl}
    (same : SameBut (sysfs.files interface control) before after) :
    OnlyAt control (sysfs.holding interface before) (sysfs.holding interface after) :=
  fun _ other => CpuSysfs.holding_other same other

/-- What the machine does when a method of the backend does this to the files. -/
theorem Mirrors.backend {call : Platform.Call} {answer : Platform.Answer call} {now : CpuHost}
    (mirrors : Mirrors sysfs interface host machine) (ofBackend : OfBackend call)
    (same : now.world = host.world)
    (law : PlaceLaw controlOf (sysfs.holding interface host.contents)
      (sysfs.holding interface now.contents) call answer) :
    ∃ after, MachineLaw controlOf engine machine call answer after ∧
      Mirrors sysfs interface now after := by
  let world : World :=
    { machine.world with log := .port engine ⟨call, answer, false⟩ :: machine.world.log }
  have lawful : Platform.Law engine machine.world call answer world := by
    refine ⟨?_, ?_, false, ?_, rfl⟩
    · cases call <;> first | exact ofBackend.elim | rfl
    · cases call <;> first | exact ofBackend.elim | rfl
    · cases call with
      | apply sessionId mutation snapshot =>
          cases answer with
          | error error => exact fun _ => rfl
          | ok receipt => trivial
      | _ => trivial
  refine ⟨⟨world, sysfs.holding interface now.contents⟩, ⟨lawful, ?_⟩, ?_⟩
  · rw [mirrors.values]
    exact law
  · constructor
    · rw [same, mirrors.files]
    · rw [same, mirrors.active]
    · rw [same, mirrors.holder]
    · have hidden : outside (.port engine ⟨call, answer, false⟩) = false := by
        cases call <;> first | exact ofBackend.elim | rfl
      rw [same, mirrors.log, List.filter_cons_of_neg (by simp [hidden])]
    · rfl

/-- A method of the backend that is served by a program over the kernel. -/
abbrev Serves (sysfs : CpuSysfs) (interface : CpuBoostInterface) (engine : EngineId)
    (host : CpuHost) (machine : Machine CpuControl) (call : Platform.Call)
    (program : Prog HostAnswer (Platform.Answer call)) : Prop :=
  Alone (HostLaw sysfs interface engine)
    (fun now _ => Mirrors sysfs interface now machine ∨ ∃ answer after,
      MachineLaw controlOf engine machine call answer after ∧ Mirrors sysfs interface now after)
    (fun answer now => ∃ after, MachineLaw controlOf engine machine call answer after ∧
      Mirrors sysfs interface now after)
    program host

/-- A method is served by a stage: what the stage does is what the method may do, and a
stage that is stopped has done what the method does when it fails. -/
theorem stage_serves {call : Platform.Call} {control : CpuControl}
    {post : Platform.Answer call → Contents → Prop}
    {program : Prog Kernel.Answer (Platform.Answer call)}
    (mirrors : Mirrors sysfs interface host machine) (ofBackend : OfBackend call)
    (stage : Alone (sysfs.FilesLaw interface)
      (fun now _ => SameBut (sysfs.files interface control) host.contents now)
      (fun answer after => SameBut (sysfs.files interface control) host.contents after ∧
        post answer after) program host.contents)
    (stopped : ∀ now, SameBut (sysfs.files interface control) host.contents now →
      ∃ answer, PlaceLaw controlOf (sysfs.holding interface host.contents)
        (sysfs.holding interface now) call answer)
    (done : ∀ answer now, SameBut (sysfs.files interface control) host.contents now →
      post answer now → PlaceLaw controlOf (sysfs.holding interface host.contents)
        (sysfs.holding interface now) call answer) :
    Serves sysfs interface engine host machine call (onKernel program) := by
  apply (Safe.weaken (onKernel_alone stage) (fun _ _ _ _ _ law => law) ?_).mono
  · rintro answer now ⟨⟨same, known⟩, kept⟩
    exact mirrors.backend ofBackend kept (done answer _ same known)
  · rintro now request ⟨same, kept⟩
    rcases stopped _ same with ⟨answer, law⟩
    exact .inr ⟨answer, mirrors.backend ofBackend kept law⟩

/-- A stage that has not come to its end is reported as a failure of unknown outcome. -/
def stoppedError : SysboostError :=
  (SysboostError.new .applyError "").retryable .unknown

theorem snapshot_serves {mutation : PlannedMutation} {now : Timestamp}
    (mirrors : Mirrors sysfs interface host machine) :
    Serves sysfs interface engine host machine (.snapshot mutation now)
      (sysfs.serve (.snapshot mutation now)) := by
  have ofBackend : OfBackend (.snapshot mutation now) := trivial
  apply stage_serves mirrors ofBackend (CpuBackend.snapshotInternal_tells now)
  · intro later same
    refine ⟨.error stoppedError, ?_⟩
    rw [sameBut_nil_iff.mp same]
    rfl
  · intro answer later same tells
    rw [sameBut_nil_iff.mp same]
    cases answer with
    | error error => rfl
    | ok snapshot => exact ⟨rfl, (tells snapshot rfl).2⟩

theorem verify_serves {sessionId : SessionId} {stage : Stage} {mutation : PlannedMutation}
    {expected : StateFingerprint} {identity : TargetIdentity}
    (mirrors : Mirrors sysfs interface host machine) :
    Serves sysfs interface engine host machine
      (.verify sessionId stage mutation expected identity)
      (sysfs.serve (.verify sessionId stage mutation expected identity)) := by
  have ofBackend : OfBackend (.verify sessionId stage mutation expected identity) := trivial
  apply stage_serves mirrors ofBackend (CpuBackend.verifyInternal_tells identity)
  · intro later same
    refine ⟨.error stoppedError, ?_⟩
    rw [sameBut_nil_iff.mp same]
    rfl
  · intro answer later same tells
    rw [sameBut_nil_iff.mp same]
    cases answer with
    | error error => rfl
    | ok observed => exact ⟨rfl, tells observed rfl⟩

theorem apply_serves {sessionId : SessionId} {mutation : PlannedMutation} {snapshot : Snapshot}
    (mirrors : Mirrors sysfs interface host machine) :
    Serves sysfs interface engine host machine (.apply sessionId mutation snapshot)
      (sysfs.serve (.apply sessionId mutation snapshot)) := by
  have ofBackend : OfBackend (.apply sessionId mutation snapshot) := trivial
  apply stage_serves mirrors ofBackend CpuBackend.applyInternal_leaves
  · intro later same
    refine ⟨.error stoppedError, onlyAt_of_sameBut same, ?_⟩
    exact fun known => absurd rfl known
  · intro answer later same leaves
    cases answer with
    | ok receipt => exact onlyAt_of_sameBut same
    | error error =>
        refine ⟨onlyAt_of_sameBut same, fun known => ?_⟩
        rcases leaves error rfl known with unchanged | original
        · exact .inl (congrArg _ unchanged)
        · exact .inr original

theorem restore_serves {sessionId : SessionId} {mutation : PlannedMutation}
    {snapshot : Snapshot} {ownership : StateFingerprint}
    (mirrors : Mirrors sysfs interface host machine) :
    Serves sysfs interface engine host machine
      (.restore sessionId mutation snapshot ownership)
      (sysfs.serve (.restore sessionId mutation snapshot ownership)) := by
  have ofBackend : OfBackend (.restore sessionId mutation snapshot ownership) := trivial
  apply stage_serves mirrors ofBackend (CpuBackend.restoreInternal_leaves ownership)
  · exact fun later same => ⟨.error stoppedError, onlyAt_of_sameBut same⟩
  · intro answer later same leaves
    cases answer with
    | error error => exact onlyAt_of_sameBut same
    | ok receipt => exact ⟨onlyAt_of_sameBut same, fun _ => leaves receipt rfl⟩

/-! ### Other ports -/

theorem outside_of_port {call : Platform.Call} (other : ¬OfBackend call)
    (answer : Platform.Answer call) (changed : Bool) :
    outside (.port engine ⟨call, answer, changed⟩) = true := by
  cases call <;> first | exact absurd trivial other | rfl

theorem placeLaw_of_port {call : Platform.Call} (other : ¬OfBackend call)
    {answer : Platform.Answer call} {values : CpuControl → StateFingerprint} :
    PlaceLaw controlOf values values call answer := by
  cases call <;> first | exact absurd trivial other | rfl

theorem serve_of_port {call : Platform.Call} (other : ¬OfBackend call) :
    sysfs.serve call = .call (.inl call) .ret := by
  cases call <;> first | exact absurd trivial other | rfl

theorem other_serves {call : Platform.Call} (other : ¬OfBackend call)
    (mirrors : Mirrors sysfs interface host machine) :
    Serves sysfs interface engine host machine call (sysfs.serve call) := by
  rw [serve_of_port other]
  apply Alone.call_iff.mpr
  constructor
  · exact .inl mirrors
  rintro answer now ⟨⟨store, lease, changed, apply, log⟩, kept⟩
  let world : World :=
    { now.world with log := .port engine ⟨call, answer, changed⟩ :: machine.world.log }
  have lawful : Platform.Law engine machine.world call answer world := by
    refine ⟨?_, ?_, changed, apply, rfl⟩
    · rw [← mirrors.files]
      exact store
    · rw [← mirrors.active]
      exact lease
  have law : MachineLaw controlOf engine machine call answer ⟨world, machine.values⟩ :=
    ⟨lawful, placeLaw_of_port other⟩
  refine Alone.ret_iff.mpr ⟨_, law, rfl, rfl, rfl, ?_, ?_⟩
  · rw [log, List.filter_cons_of_pos (outside_of_port other answer changed), ← mirrors.log]
  · rw [kept]
    exact mirrors.values

end Serving

/-! ## The refinement -/

section Refinement

variable {sysfs : CpuSysfs} {interface : CpuBoostInterface} {host : CpuHost}
  {machine : Machine CpuControl}

/-- Every port call is served by a program that does what the call does. -/
theorem call_serves {engine : EngineId} {call : Platform.Call}
    (mirrors : Mirrors sysfs interface host machine) :
    Serves sysfs interface engine host machine call (sysfs.serve call) := by
  cases call with
  | snapshot mutation now => exact snapshot_serves mirrors
  | apply sessionId mutation snapshot => exact apply_serves mirrors
  | verify sessionId stage mutation expected identity => exact verify_serves mirrors
  | restore sessionId mutation snapshot ownership => exact restore_serves mirrors
  | _ => exact other_serves id mirrors

theorem Mirrors.note (mirrors : Mirrors sysfs interface host machine) {entry : Entry}
    (visible : outside entry = true) :
    Mirrors sysfs interface { host with world := host.world.note entry }
      { machine with world := machine.world.note entry } where
  files := mirrors.files
  active := mirrors.active
  holder := mirrors.holder
  log := by
    rw [World.note, World.note, List.filter_cons_of_pos visible, ← mirrors.log]
  values := mirrors.values

theorem Mirrors.crash (mirrors : Mirrors sysfs interface host machine) (engine : EngineId) :
    Mirrors sysfs interface { host with world := host.world.crash engine }
      { machine with world := machine.world.crash engine } where
  files := mirrors.files
  active := by rw [World.crash, World.crash, mirrors.active]
  holder := by rw [World.crash, World.crash, mirrors.holder]
  log := mirrors.log
  values := mirrors.values

theorem host_implements (sysfs : CpuSysfs) (interface : CpuBoostInterface) :
    (hostService sysfs interface).Implements (machineService controlOf) sysfs.serve
      (fun _ _ _ => True) (Mirrors sysfs interface) where
  program _ := rfl
  issue mirrors := mirrors.note rfl
  reply mirrors := mirrors.note rfl
  stop mirrors := mirrors.crash _
  serves _ mirrors := call_serves mirrors

end Refinement

/-! ## A host without failures -/

namespace CpuHost

/-- The adapter of the host, under which there is no `no_turbo`. -/
def sysfs : CpuSysfs :=
  ⟨["sys"]⟩

def governorFile : Path :=
  sysfs.policyPath ⟨0⟩ ++ ["scaling_governor"]

def choicesFile : Path :=
  sysfs.policyPath ⟨0⟩ ++ ["scaling_available_governors"]

/-- One policy with two governors. -/
def powersaving : Contents := fun path =>
  if path = governorFile then utf8 "powersave\n"
  else if path = choicesFile then utf8 "powersave performance\n"
  else []

/-- A kernel that stores what is written. -/
def kernel (contents : Contents) : (call : Kernel.Call) → Kernel.Answer call × Contents
  | .symlinkMetadata path =>
      if path = sysfs.boostFile .noTurbo then (.error .notFound, contents)
      else if path = governorFile ∨ path = choicesFile then
        (.ok (PolicyFiles.metadata .file), contents)
      else (.ok (PolicyFiles.metadata .directory), contents)
  | .canonicalize path => (.ok path, contents)
  | .openRead _ => (.ok (), contents)
  | .openWrite _ => (.ok (), contents)
  | .fileMetadata _ => (.ok (PolicyFiles.metadata .file), contents)
  | .readToEnd path limit => (.ok (limit.elim (contents path) (contents path).take), contents)
  | .writeAll path content => (.ok (), Function.update contents path content)
  | .readDirectory _ => (.error .other, contents)
  | .createDirectory _ => (.error .other, contents)
  | .removeDirectory _ => (.error .other, contents)
  | .getPriority _ => (.error .other, contents)
  | .setPriority _ _ => (.error .other, contents)

theorem kernel_law (contents : Contents) (call : Kernel.Call) :
    sysfs.FilesLaw .boost contents call (kernel contents call).1 (kernel contents call).2 := by
  cases call with
  | symlinkMetadata path =>
      have present (other : path ≠ sysfs.boostFile .noTurbo) : ¬sysfs.Missing .boost path := by
        rintro ⟨absent, different, rfl⟩
        cases absent with
        | boost => exact different rfl
        | noTurbo => exact other rfl
      simp only [kernel]
      split
      · rfl
      · rename_i other
        split
        · exact ⟨rfl, present other⟩
        · exact ⟨rfl, present other⟩
  | readToEnd path limit => exact ⟨rfl, rfl⟩
  | writeAll path content => exact fun other different => Function.update_of_ne different _ _
  | _ => rfl

/-- The ports of the test kit, and the kernel. -/
def respond (engine : EngineId) (host : CpuHost) : (call : HostCall) → HostAnswer call × CpuHost
  | .inl call => ((Platform.steadyKit.respond engine host.world call).1,
      { host with world := (Platform.steadyKit.respond engine host.world call).2 })
  | .inr call => ((kernel host.contents call).1,
      { host with contents := (kernel host.contents call).2 })

theorem law (engine : EngineId) (host : CpuHost) (call : HostCall) :
    HostLaw sysfs .boost engine host call (respond engine host call).1
      (respond engine host call).2 := by
  cases call with
  | inl call => exact ⟨Platform.steadyKit.law call, rfl⟩
  | inr call => exact ⟨kernel_law host.contents call, rfl⟩

/-- The engines of the host. -/
abbrev engines : Service HostAnswer EngineId Request Reply CpuHost :=
  hostService sysfs .boost

/-- A change of the governor, planned for the value that is there. -/
def mutation : PlannedMutation :=
  { governorMutation with
    precondition := fingerprintForValue (.typed (.governor ⟨"powersave", by decide⟩)) }

/-- The plan is prepared. -/
def prepared : CpuHost :=
  let done := (engines.program (.prepare (Platform.fixturePlan mutation))).exec (respond 0)
    (engines.issue 0 (.prepare (Platform.fixturePlan mutation)) ⟨World.empty, powersaving⟩)
  engines.reply 0 (.prepare (Platform.fixturePlan mutation)) done.1 done.2

/-- The apply of the session, after forty calls: the governor has been written and is
about to be read back. -/
def applying : Prog HostAnswer Reply × CpuHost :=
  (engines.program (.apply Platform.steadyKit.sessionId)).advance (respond 0) 40
    (engines.issue 0 (.apply Platform.steadyKit.sessionId) prepared)

theorem applying_reachable :
    engines.SerialReachable ⟨World.empty, powersaving⟩
      ⟨applying.2, some (0, .apply Platform.steadyKit.sessionId, applying.1)⟩ := by
  have served : engines.SerialReachable ⟨World.empty, powersaving⟩ ⟨prepared, none⟩ :=
    Service.SerialReachable.serve .refl (Executes.exec (law 0) _ _)
  exact (served.start 0 _).advance (law 0) 40

end CpuHost

/-- **The CPU backend keeps its contract.**  Every run of engines over the CPU adapter
is explained by a run of engines on a machine: the same requests, replies, calls of other
ports, records and leases, and places that hold what the files of the controls hold. -/
theorem cpu_backend_refines (sysfs : CpuSysfs) (interface : CpuBoostInterface)
    (contents : Contents) (state : Service.Serial HostAnswer EngineId Request Reply CpuHost)
    (reachable : (hostService sysfs interface).SerialReachable ⟨World.empty, contents⟩ state) :
    ∃ above, (machineService controlOf).SerialReachable
      ⟨World.empty, sysfs.holding interface contents⟩ above ∧
        Mirrors sysfs interface state.world above.world := by
  have start : Mirrors sysfs interface ⟨World.empty, contents⟩
      ⟨World.empty, sysfs.holding interface contents⟩ :=
    ⟨rfl, rfl, rfl, rfl, rfl⟩
  exact ((host_implements sysfs interface).explained (fun _ _ _ _ _ _ => trivial) start
    reachable).related

/-- An engine that is stopped in the middle of an apply. -/
theorem cpu_backend_refines_applying :
    ∃ above, (machineService controlOf).SerialReachable
      ⟨World.empty, CpuHost.sysfs.holding .boost CpuHost.powersaving⟩ above ∧
        Mirrors CpuHost.sysfs .boost CpuHost.applying.2 above.world := by
  have reachable := CpuHost.applying_reachable
  -- The unifier must not run the program.
  generalize CpuHost.applying = left at reachable ⊢
  exact cpu_backend_refines CpuHost.sysfs .boost CpuHost.powersaving _ reachable

/-- **Every changed control is on record.**  Wherever a run is stopped, also between two
calls of the kernel, a control that does not hold its original is on record in the
store. -/
theorem changed_controls_on_record (sysfs : CpuSysfs) (interface : CpuBoostInterface)
    (contents : Contents) (state : Service.Serial HostAnswer EngineId Request Reply CpuHost)
    (reachable : (hostService sysfs interface).SerialReachable ⟨World.empty, contents⟩ state)
    (control : CpuControl) :
    sysfs.holding interface state.world.contents control =
        sysfs.holding interface contents control ∨
      OnRecord controlOf (sysfs.holding interface contents) state.world.world.files control := by
  have start : Mirrors sysfs interface ⟨World.empty, contents⟩
      ⟨World.empty, sysfs.holding interface contents⟩ :=
    ⟨rfl, rfl, rfl, rfl, rfl⟩
  rcases ((host_implements sysfs interface).explained (fun _ _ _ _ _ _ => trivial) start
    reachable).related with ⟨above, reachable, mirrors⟩
  rcases (Platform.machine_good reachable).invariant with ⟨coherent, traced⟩
  have known := traced.on_record coherent control
  rwa [mirrors.values, ← mirrors.files] at known

/-- An engine that is stopped after it has written the governor, before it has read it
back. -/
theorem changed_controls_on_record_governor :
    CpuHost.sysfs.holding .boost CpuHost.applying.2.contents (.governor ⟨0⟩) ≠
        CpuHost.sysfs.holding .boost CpuHost.powersaving (.governor ⟨0⟩) ∧
      OnRecord controlOf (CpuHost.sysfs.holding .boost CpuHost.powersaving)
        CpuHost.applying.2.world.files (.governor ⟨0⟩) := by
  have changed : CpuHost.sysfs.holding .boost CpuHost.applying.2.contents (.governor ⟨0⟩) ≠
      CpuHost.sysfs.holding .boost CpuHost.powersaving (.governor ⟨0⟩) := by
    decide +kernel
  have reachable := CpuHost.applying_reachable
  generalize CpuHost.applying = left at changed reachable ⊢
  exact ⟨changed, (changed_controls_on_record CpuHost.sysfs .boost CpuHost.powersaving _
    reachable (.governor ⟨0⟩)).resolve_left changed⟩

end Sysboost.Linux.Cpu
