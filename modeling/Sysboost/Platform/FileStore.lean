import Sysboost.Platform.CheckedRecords
import Sysboost.Platform.Testkit
import Sysboost.State.StoreRuns

/-!
# Engines over the file system

The engines of a system keep their records in one directory.  Every run of such a
system, with processes that end between any two calls of the file system, is
explained by a run of engines over a store whose methods happen at once.
-/

namespace Sysboost.Platform

open Sysboost.Core Sysboost.State Interaction

/-! ## Calls -/

/-- A call of the file system, or of another port. -/
abbrev SystemCall := Storage.Call ⊕ Call

abbrev SystemAnswer : SystemCall → Type
  | .inl call => Storage.Answer call
  | .inr call => Answer call

/-- A program that only uses the file system. -/
def onDisk {α : Type} (program : Prog Storage.Answer α) : Prog SystemAnswer α :=
  program.embed Sum.inl fun _ answer => answer

/-- The methods of the store are programs over the file system. -/
def serve (store : FileStateStore) : (call : Call) → Prog SystemAnswer (Answer call)
  | .create record => onDisk (store.create record).run
  | .replace record => onDisk (store.replace record).run
  | .remove sessionId => onDisk (store.remove sessionId).run
  | .load sessionId => onDisk (store.load sessionId).run
  | .loadUnfinished => onDisk store.loadUnfinished.run
  | call => .call (.inr call) .ret

/-- A method of the store. -/
def Call.Stores : Call → Prop
  | .create _ | .replace _ | .remove _ | .load _ | .loadUnfinished => True
  | _ => False

/-- The disk, and the rest of the world.  The log has no entries for the store. -/
structure System where
  disk : Storage.Disk
  active : EngineId → Option SessionId
  holder : Option EngineId
  log : List Entry

/-- What the calls do. -/
def SystemLaw (process : EngineId → Storage.Process) (engine : EngineId) (before : System) :
    (call : SystemCall) → SystemAnswer call → System → Prop
  | .inl call, answer, after =>
      Storage.Law (process engine) before.disk call answer after.disk ∧
        after.active = before.active ∧ after.holder = before.holder ∧ after.log = before.log
  | .inr call, answer, after =>
      after.disk = before.disk ∧ LeaseLaw engine before.active after.active call answer ∧
        AnswerChecked call answer ∧ ∃ changed, ApplyLaw call answer changed ∧
          after.log = .port engine ⟨call, answer, changed⟩ :: before.log

/-- The process of an engine ends. -/
def System.crash (system : System) (engine : EngineId) : System :=
  { system with
    active := Function.update system.active engine none
    holder := unlocked engine system.holder }

/-- Engines that serve requests, each in a process of its own. -/
def systemService (store : FileStateStore) (process : EngineId → Storage.Process) :
    Service SystemAnswer EngineId CheckedRequest Reply System where
  program request := request.val.program.via (serve store)
  env := SystemLaw process
  issue engine request system :=
    { system with log := .requested engine request.val :: system.log }
  reply engine request reply system :=
    { system with log := .returned engine request.val reply :: system.log }
  stop engine system := system.crash engine

/-! ## The map of a list of records -/

/-- The record of each session. -/
def filed (files : List SessionRecord) : Files :=
  fun sessionId => files.find? fun record => record.sessionId = sessionId

section Filed

variable {files : List SessionRecord} {record : SessionRecord} {sessionId : SessionId}

theorem filed_eq_none_iff : filed files sessionId = none ↔ Fresh files sessionId := by
  simp [filed, Fresh]

theorem mem_of_filed (stored : filed files sessionId = some record) :
    record ∈ files ∧ record.sessionId = sessionId :=
  ⟨List.mem_of_find?_eq_some stored, by simpa using List.find?_some stored⟩

theorem filed_of_mem (oneEach : OneEach files) (member : record ∈ files) :
    filed files record.sessionId = some record := by
  cases stored : filed files record.sessionId with
  | none => exact absurd rfl (filed_eq_none_iff.mp stored record member)
  | some other =>
      rcases mem_of_filed stored with ⟨member', same⟩
      rw [oneEach.eq member' member same]

theorem filed_append (fresh : Fresh files record.sessionId) :
    filed (files ++ [record]) = Function.update (filed files) record.sessionId (some record) := by
  funext sessionId
  by_cases same : sessionId = record.sessionId
  · subst same
    rw [Function.update_self, filed, List.find?_append]
    rw [show files.find? _ = none from filed_eq_none_iff.mpr fresh]
    simp
  · rw [Function.update_of_ne same, filed, List.find?_append]
    simp [filed, Ne.symm same]

theorem filed_substitute (stored : ¬Fresh files record.sessionId) :
    filed (substitute record files) =
      Function.update (filed files) record.sessionId (some record) := by
  funext sessionId
  have compare : ((fun other : SessionRecord => decide (other.sessionId = sessionId)) ∘
      fun other => if other.sessionId = record.sessionId then record else other) =
        fun other => decide (other.sessionId = sessionId) := by
    funext other
    by_cases own : other.sessionId = record.sessionId <;> simp [own]
  have mapped : filed (substitute record files) sessionId = (filed files sessionId).map
      fun other => if other.sessionId = record.sessionId then record else other := by
    rw [filed, substitute, List.find?_map, compare, filed]
  rw [mapped]
  by_cases same : sessionId = record.sessionId
  · subst same
    rw [Function.update_self]
    cases known : filed files record.sessionId with
    | none => exact absurd (filed_eq_none_iff.mp known) stored
    | some other => rw [Option.map_some, if_pos (mem_of_filed known).2]
  · rw [Function.update_of_ne same]
    cases known : filed files sessionId with
    | none => rfl
    | some other =>
        rw [Option.map_some, if_neg]
        rw [(mem_of_filed known).2]
        exact same

theorem filed_discard :
    filed (discard sessionId files) = Function.update (filed files) sessionId none := by
  funext other
  by_cases same : other = sessionId
  · subst same
    rw [Function.update_self, filed_eq_none_iff]
    intro record member
    have kept := List.of_mem_filter member
    simpa using kept
  · rw [Function.update_of_ne same, filed, filed, discard, List.find?_filter]
    congr 1
    funext record
    by_cases own : record.sessionId = other
    · simp [own, same]
    · simp [own]

end Filed

/-! ## The relation -/

/-- Whether the last update of the store has returned without an error. -/
def Synchronised : List Entry → Prop
  | [] => True
  | .port _ ⟨.create _, answer, _⟩ :: _ => answer = .ok ()
  | .port _ ⟨.replace _, answer, _⟩ :: _ => answer = .ok ()
  | .port _ ⟨.remove _, answer, _⟩ :: older => answer = .ok () ∧ Synchronised older
  | _ :: older => Synchronised older

/-- An entry that is no call of the store. -/
def Entry.visible : Entry → Bool
  | .port _ ⟨.create _, _, _⟩ => false
  | .port _ ⟨.replace _, _, _⟩ => false
  | .port _ ⟨.remove _, _, _⟩ => false
  | .port _ ⟨.load _, _, _⟩ => false
  | .port _ ⟨.loadUnfinished, _, _⟩ => false
  | _ => true

/-- The directory holds the records of the world, for good if the last update has
succeeded; the rest is the same, as far as it can be seen. -/
structure Carries (policy : RuntimeStatePolicy) (system : System) (world : World) : Prop where
  held : ∃ possible, Held policy system.disk (filed world.files) possible ∧
    (Synchronised world.log → possible = {filed world.files})
  oneEach : OneEach world.files
  active : system.active = world.active
  holder : system.holder = world.holder
  log : system.log = world.log.filter Entry.visible

/-- The rest of the system is as it was. -/
structure Beside (before after : System) : Prop where
  active : after.active = before.active
  holder : after.holder = before.holder
  log : after.log = before.log

section Serving

variable {store : FileStateStore} {process : EngineId → Storage.Process} {engine : EngineId}
  {system : System} {world : World}

/-- A program that is safe on the disk leaves the rest of the system alone. -/
theorem onDisk_alone {α : Type} {assertion : Storage.Disk → Prop}
    {post : α → Storage.Disk → Prop} {program : Prog Storage.Answer α}
    (safe : Always (process engine) assertion post program system.disk) :
    Alone (SystemLaw process engine) (fun now _ => assertion now.disk ∧ Beside system now)
      (fun value now => post value now.disk ∧ Beside system now) (onDisk program) system := by
  apply Alone.embed
  have viewed : Alone (fun before request answer after => ∃ given, given = answer ∧
      SystemLaw process engine before (.inl request) given after)
      (fun now _ => assertion now.disk) (fun value now => post value now.disk) program system := by
    apply Alone.view System.disk _ safe
    rintro before request answer after ⟨_, rfl, law⟩
    exact law.1
  apply viewed.carry
  · rintro before _ rfl same
    exact same
  · rintro before request answer after same - ⟨_, rfl, -, active, holder, log⟩
    exact ⟨active.trans same.active, holder.trans same.holder, log.trans same.log⟩
  · exact ⟨rfl, rfl, rfl⟩

/-- The world after a call of the store. -/
def World.filing (world : World) (files : List SessionRecord) (entry : Entry) : World :=
  { world with files, log := entry :: world.log }

theorem Carries.filing {policy : RuntimeStatePolicy} {now : System} {possible : Set Files}
    {files : List SessionRecord} {entry : Entry} (carries : Carries policy system world)
    (beside : Beside system now) (held : Held policy now.disk (filed files) possible)
    (oneEach : OneEach files) (hidden : entry.visible = false)
    (settled : Synchronised (entry :: world.log) → possible = {filed files}) :
    Carries policy now (world.filing files entry) where
  held := ⟨possible, held, settled⟩
  oneEach := oneEach
  active := beside.active.trans carries.active
  holder := beside.holder.trans carries.holder
  log := by
    rw [World.filing, List.filter_cons_of_neg (by simp [hidden])]
    exact beside.log.trans carries.log

/-- Nothing has happened. -/
theorem Carries.stay {policy : RuntimeStatePolicy} {now : System}
    (carries : Carries policy system world) (beside : Beside system now)
    (same : now.disk = system.disk) : Carries policy now world where
  held := by
    rw [same]
    exact carries.held
  oneEach := carries.oneEach
  active := beside.active.trans carries.active
  holder := beside.holder.trans carries.holder
  log := beside.log.trans carries.log

theorem filing_law {files : List SessionRecord} {call : Call} {answer : Answer call}
    (stores : call.Stores) (law : StoreLaw world.files files call answer) :
    checkedService.env engine world call answer
      (world.filing files (.port engine ⟨call, answer, false⟩)) := by
  cases call <;> first | exact stores.elim | exact ⟨⟨law, rfl, false, trivial, rfl⟩, trivial⟩

theorem hidden_of_stores {call : Call} (stores : call.Stores) (answer : Answer call)
    (changed : Bool) : (Entry.port engine ⟨call, answer, changed⟩).visible = false := by
  cases call <;> first | exact stores.elim | rfl

/-- What may be done when a call is stopped. -/
def Begun (policy : RuntimeStatePolicy) (engine : EngineId) (world : World) (call : Call)
    (now : System) : Prop :=
  Carries policy now world ∨
    ∃ answer after, checkedService.env engine world call answer after ∧ Carries policy now after

/-- What is done when a call has returned. -/
def Served (policy : RuntimeStatePolicy) (engine : EngineId) (world : World) (call : Call)
    (answer : Answer call) (now : System) : Prop :=
  ∃ after, checkedService.env engine world call answer after ∧ Carries policy now after

/-! ### Updates -/

/-- What an update of the records means for the world. -/
structure Updates (engine : EngineId) (world : World) (call : Call)
    (answer : Except SysboostError Unit → Answer call) (next : Files) (admitted absent : Prop) :
    Prop where
  stores : call.Stores
  refused : ∀ error, StoreLaw world.files world.files call (answer (.error error))
  applied : admitted → ∃ files, filed files = next ∧ OneEach files ∧
    ∀ result, StoreLaw world.files files call (answer result)
  /-- There was nothing to update. -/
  skipped : absent → admitted ∧ next = filed world.files ∧
    ∀ result changed, Synchronised (.port engine ⟨call, answer result, changed⟩ :: world.log) →
      Synchronised world.log
  settled : ∀ result changed,
    Synchronised (.port engine ⟨call, answer result, changed⟩ :: world.log) → result = .ok ()

/-- An update is served by a program that is stopped before or after it happens. -/
theorem update_serves {call : Call} {answer : Except SysboostError Unit → Answer call}
    {next : Files} {admitted absent : Prop} {possible : Set Files}
    {program : Prog Storage.Answer (Except SysboostError Unit)}
    (updates : Updates engine world call answer next admitted absent)
    (carries : Carries store.policy system world)
    (durable : Synchronised world.log → possible = {filed world.files})
    (safe : Always (process engine)
      (Attempted store.policy (filed world.files) next possible admitted)
      (fun result disk =>
        (result = .ok () → admitted ∧ Held store.policy disk next {next} ∨
          absent ∧ Held store.policy disk (filed world.files) possible) ∧
        Attempted store.policy (filed world.files) next possible admitted disk)
      program system.disk) :
    Alone (SystemLaw process engine) (fun now _ => Begun store.policy engine world call now)
      (fun result now => Served store.policy engine world call (answer result) now)
      (onDisk program) system := by
  -- An update that is stopped or fails, as the upper service sees it.
  have failed {now : System} (error : SysboostError) (beside : Beside system now)
      (attempted : Attempted store.policy (filed world.files) next possible admitted now.disk) :
      Served store.policy engine world call (answer (.error error)) now := by
    have unsettled : ¬Synchronised (.port engine ⟨call, answer (.error error), false⟩ ::
        world.log) := by
      intro settled
      cases updates.settled _ _ settled
    rcases attempted with held | ⟨admits, held⟩
    · refine ⟨_, filing_law updates.stores (updates.refused error), ?_⟩
      exact carries.filing beside held carries.oneEach (hidden_of_stores updates.stores _ _)
        fun settled => absurd settled unsettled
    · rcases updates.applied admits with ⟨files, rfl, oneEach, law⟩
      refine ⟨_, filing_law updates.stores (law (.error error)), ?_⟩
      exact carries.filing beside held oneEach (hidden_of_stores updates.stores _ _)
        fun settled => absurd settled unsettled
  apply (Safe.weaken (onDisk_alone safe) (fun _ _ _ _ _ law => law) ?_).mono
  · rintro (error | ⟨⟩) now ⟨⟨done, attempted⟩, beside⟩
    · exact failed error beside attempted
    · rcases done rfl with ⟨admits, held⟩ | ⟨nothing, held⟩
      · rcases updates.applied admits with ⟨files, rfl, oneEach, law⟩
        refine ⟨_, filing_law updates.stores (law (.ok ())), ?_⟩
        exact carries.filing beside held oneEach (hidden_of_stores updates.stores _ _)
          fun _ => rfl
      · rcases updates.skipped nothing with ⟨admits, unchanged, remembers⟩
        rcases updates.applied admits with ⟨files, rfl, oneEach, law⟩
        refine ⟨_, filing_law updates.stores (law (.ok ())), ?_⟩
        rw [← unchanged] at held durable
        exact carries.filing beside held oneEach (hidden_of_stores updates.stores _ _)
          fun settled => durable (remembers _ _ settled)
  · rintro now made ⟨attempted, beside⟩
    rcases failed (.new .durabilityError "") beside attempted with ⟨after, law, carries⟩
    exact .inr ⟨_, after, law, carries⟩

/-- Writing a record. -/
theorem write_serves {call : Call} {answer : Except SysboostError Unit → Answer call}
    {record : SessionRecord} {replace : Bool}
    (updates : Updates engine world call answer (FileStateStore.written (filed world.files) record)
      (FileStateStore.Admits (filed world.files) record replace) False)
    (conforms : Process.Conforms (process engine) store.policy) (checked : record.Checked)
    (carries : Carries store.policy system world) :
    Alone (SystemLaw process engine) (fun now _ => Begun store.policy engine world call now)
      (fun result now => Served store.policy engine world call (answer result) now)
      (onDisk (store.writeAtomic record replace).run) system := by
  rcases carries.held with ⟨possible, held, durable⟩
  apply update_serves updates carries durable
  apply Safe.mono (FileStateStore.writeAtomic_concludes conforms checked held)
  exact fun _ _ known => ⟨fun ok => .inl (known.done ok), known.attempted⟩

theorem create_updates {record : SessionRecord} (oneEach : OneEach world.files) :
    Updates engine world (.create record) id
      (FileStateStore.written (filed world.files) record)
      (FileStateStore.Admits (filed world.files) record false) False where
  stores := trivial
  refused _ := .inl rfl
  applied admits := by
    have fresh : Fresh world.files record.sessionId := by
      rw [← filed_eq_none_iff, ← Option.not_isSome_iff_eq_none]
      simpa using admits.1
    refine ⟨world.files ++ [record], filed_append fresh, oneEach.append fresh, ?_⟩
    rintro (error | ⟨⟩)
    · exact .inr ⟨fresh, rfl⟩
    · exact ⟨fresh, rfl⟩
  skipped := False.elim
  settled _ _ settled := settled

theorem replace_updates {record : SessionRecord} (oneEach : OneEach world.files) :
    Updates engine world (.replace record) id
      (FileStateStore.written (filed world.files) record)
      (FileStateStore.Admits (filed world.files) record true) False where
  stores := trivial
  refused _ := .inl rfl
  applied admits := by
    have stored : ¬Fresh world.files record.sessionId := by
      rw [← filed_eq_none_iff, ← ne_eq, ← Option.isSome_iff_ne_none]
      simpa using admits.1
    refine ⟨substitute record world.files, filed_substitute stored, ?_, ?_⟩
    · rw [OneEach, substitute_sessionIds]
      exact oneEach
    · rintro (error | ⟨⟩)
      · exact .inr rfl
      · exact ⟨stored, rfl⟩
  skipped := False.elim
  settled _ _ settled := settled

theorem remove_updates {sessionId : SessionId} (oneEach : OneEach world.files) :
    Updates engine world (.remove sessionId) id
      (FileStateStore.removed (filed world.files) sessionId) True
      (filed world.files sessionId = none) where
  stores := trivial
  refused _ := .inl rfl
  applied _ := by
    refine ⟨discard sessionId world.files, filed_discard, ?_, ?_⟩
    · exact oneEach.sublist (List.filter_sublist.map _)
    · rintro (error | ⟨⟩)
      · exact .inr rfl
      · exact rfl
  skipped absent := ⟨trivial, FileStateStore.removed_of_none absent, fun _ _ known => known.2⟩
  settled _ _ settled := settled.1

theorem remove_serves {sessionId : SessionId} (carries : Carries store.policy system world) :
    Alone (SystemLaw process engine)
      (fun now _ => Begun store.policy engine world (.remove sessionId) now)
      (Served store.policy engine world (.remove sessionId))
      (onDisk (store.remove sessionId).run) system := by
  rcases carries.held with ⟨possible, held, durable⟩
  apply update_serves (remove_updates carries.oneEach) carries durable
  apply Safe.mono (FileStateStore.remove_concludes held)
  rintro result disk ⟨done, attempted⟩
  refine ⟨fun ok => ?_, attempted⟩
  rcases done ok with gone | absent
  · exact .inl ⟨trivial, gone⟩
  · exact .inr absent

/-! ### Reads -/

/-- A read is served by a program that changes nothing. -/
theorem read_serves {α : Type} {call : Call} {answer : α → Answer call}
    {program : Prog Storage.Answer α} {found : α → Prop}
    (stores : call.Stores) (carries : Carries store.policy system world)
    (same : ∀ result changed, Synchronised (.port engine ⟨call, answer result, changed⟩ ::
      world.log) = Synchronised world.log)
    (safe : Always (process engine) (· = system.disk)
      (fun result disk => found result ∧ disk = system.disk) program system.disk)
    (law : ∀ result, found result → StoreLaw world.files world.files call (answer result)) :
    Alone (SystemLaw process engine) (fun now _ => Begun store.policy engine world call now)
      (fun result now => Served store.policy engine world call (answer result) now)
      (onDisk program) system := by
  apply (Safe.weaken (onDisk_alone safe) (fun _ _ _ _ _ law => law) ?_).mono
  · rintro result now ⟨⟨known, unchanged⟩, beside⟩
    rcases carries.held with ⟨possible, held, durable⟩
    refine ⟨_, filing_law stores (law result known), ?_⟩
    rw [← unchanged] at held
    apply carries.filing beside held carries.oneEach (hidden_of_stores stores _ _)
    rw [same]
    exact durable
  · rintro now made ⟨unchanged, beside⟩
    exact .inl (carries.stay beside unchanged)

theorem load_serves {sessionId : SessionId} (carries : Carries store.policy system world) :
    Alone (SystemLaw process engine)
      (fun now _ => Begun store.policy engine world (.load sessionId) now)
      (Served store.policy engine world (.load sessionId))
      (onDisk (store.load sessionId).run) system := by
  rcases carries.held with ⟨possible, held, -⟩
  have stores : Call.Stores (.load sessionId) := trivial
  apply read_serves stores carries (fun _ _ => rfl)
    (FileStateStore.load_finds held.rooted held.live rfl)
  rintro (error | record) found
  · exact rfl
  · rcases mem_of_filed (found record rfl) with ⟨member, own⟩
    exact ⟨rfl, member, own⟩

/-- The list of a directory is the list of unfinished records in another order. -/
theorem Lists.perm {files records : List SessionRecord} (oneEach : OneEach files)
    (lists : FileStateStore.Lists (filed files) records) : records.Perm (unfinished files) := by
  rw [List.perm_ext_iff_of_nodup lists.distinct.of_map]
  · intro record
    rw [lists.mem_iff, unfinished, List.mem_filter, decide_eq_true_eq]
    constructor
    · rintro ⟨stored, unfinished⟩
      exact ⟨(mem_of_filed stored).1, unfinished⟩
    · rintro ⟨member, unfinished⟩
      exact ⟨filed_of_mem oneEach member, unfinished⟩
  · exact List.Nodup.filter _ oneEach.of_map

theorem loadUnfinished_serves (carries : Carries store.policy system world) :
    Alone (SystemLaw process engine)
      (fun now _ => Begun store.policy engine world .loadUnfinished now)
      (Served store.policy engine world .loadUnfinished)
      (onDisk store.loadUnfinished.run) system := by
  rcases carries.held with ⟨possible, held, -⟩
  have stores : Call.Stores .loadUnfinished := trivial
  apply read_serves stores carries (fun _ _ => rfl)
    (FileStateStore.loadUnfinished_lists held.rooted held.live rfl)
  rintro (error | records) found
  · exact rfl
  · exact ⟨rfl, Lists.perm carries.oneEach (found records rfl)⟩

/-! ### Other ports -/

theorem visible_of_not_stores {call : Call} (other : ¬call.Stores) (answer : Answer call)
    (changed : Bool) : (Entry.port engine ⟨call, answer, changed⟩).visible = true := by
  cases call <;> first | exact absurd trivial other | rfl

theorem synchronised_of_not_stores {call : Call} (other : ¬call.Stores) {answer : Answer call}
    {changed : Bool} {older : List Entry} :
    Synchronised (.port engine ⟨call, answer, changed⟩ :: older) = Synchronised older := by
  cases call <;> first | exact absurd trivial other | rfl

theorem storeLaw_of_not_stores {call : Call} (other : ¬call.Stores) {answer : Answer call}
    {files : List SessionRecord} : StoreLaw files files call answer := by
  cases call <;> first | exact absurd trivial other | rfl

theorem serve_of_not_stores {call : Call} (other : ¬call.Stores) :
    serve store call = .call (.inr call) .ret := by
  cases call <;> first | exact absurd trivial other | rfl

theorem port_serves {call : Call} (other : ¬call.Stores)
    (carries : Carries store.policy system world) :
    Alone (SystemLaw process engine) (fun now _ => Begun store.policy engine world call now)
      (Served store.policy engine world call) (serve store call) system := by
  rw [serve_of_not_stores other]
  apply Alone.call_iff.mpr
  constructor
  · exact .inl carries
  rintro answer now ⟨disk, lease, checked, changed, apply, log⟩
  have later : Carries store.policy now ⟨world.files,
      .port engine ⟨call, answer, changed⟩ :: world.log, now.active, now.holder⟩ := by
    rcases carries.held with ⟨possible, held, durable⟩
    refine ⟨⟨possible, ?_, ?_⟩, carries.oneEach, rfl, rfl, ?_⟩
    · rw [disk]
      exact held
    · rw [synchronised_of_not_stores other]
      exact durable
    · rw [List.filter_cons_of_pos (visible_of_not_stores other answer changed), ← carries.log]
      exact log
  rw [carries.active] at lease
  have law : checkedService.env engine world call answer ⟨world.files,
      .port engine ⟨call, answer, changed⟩ :: world.log, now.active, now.holder⟩ :=
    ⟨⟨storeLaw_of_not_stores other, lease, changed, apply, rfl⟩, checked⟩
  exact Alone.ret_iff.mpr ⟨_, law, later⟩

end Serving

/-! ## The refinement -/

section Refinement

variable {store : FileStateStore} {process : EngineId → Storage.Process}

/-- Every port call is served by a program that does what the call does. -/
theorem serve_serves {engine : EngineId} {call : Call} {system : System} {world : World}
    (conforms : Process.Conforms (process engine) store.policy) (hands : call.Hands)
    (carries : Carries store.policy system world) :
    Alone (SystemLaw process engine) (fun now _ => Begun store.policy engine world call now)
      (Served store.policy engine world call) (serve store call) system := by
  cases call with
  | create record =>
      exact write_serves (create_updates carries.oneEach) conforms hands carries
  | replace record =>
      exact write_serves (replace_updates carries.oneEach) conforms hands carries
  | remove sessionId => exact remove_serves carries
  | load sessionId => exact load_serves carries
  | loadUnfinished => exact loadUnfinished_serves carries
  | _ => exact port_serves id carries

theorem Carries.note {policy : RuntimeStatePolicy} {system : System} {world : World}
    {entry : Entry} (carries : Carries policy system world) (visible : entry.visible = true)
    (quiet : Synchronised (entry :: world.log) = Synchronised world.log) :
    Carries policy { system with log := entry :: system.log } (world.note entry) where
  held := by
    rcases carries.held with ⟨possible, held, durable⟩
    refine ⟨possible, held, ?_⟩
    rw [World.note, quiet]
    exact durable
  oneEach := carries.oneEach
  active := carries.active
  holder := carries.holder
  log := by
    rw [World.note, List.filter_cons_of_pos visible, ← carries.log]

theorem Carries.crash {policy : RuntimeStatePolicy} {system : System} {world : World}
    (carries : Carries policy system world) (engine : EngineId) :
    Carries policy (system.crash engine) (world.crash engine) where
  held := carries.held
  oneEach := carries.oneEach
  active := by rw [System.crash, carries.active, World.crash]
  holder := by rw [System.crash, carries.holder, World.crash]
  log := carries.log

theorem system_implements
    (conforms : ∀ engine, Process.Conforms (process engine) store.policy) :
    (systemService store process).Implements checkedService (serve store)
      (fun _ _ call => call.Hands) (Carries store.policy) where
  program _ := rfl
  issue carries := carries.note rfl rfl
  reply carries := carries.note rfl rfl
  stop carries := carries.crash _
  serves hands carries := serve_serves (conforms _) hands carries

/-- A system with an empty store. -/
def System.start (disk : Storage.Disk) : System :=
  ⟨disk, fun _ => none, none, []⟩

theorem carries_start {policy : RuntimeStatePolicy} {disk : Storage.Disk}
    (rooted : Rooted policy disk) (empty : disk.live = ∅) (settled : disk.older = []) :
    Carries policy (.start disk) World.empty where
  held := ⟨_, Held.of_empty rooted empty settled, fun _ => rfl⟩
  oneEach := coherent_empty.oneEach
  active := rfl
  holder := rfl
  log := rfl

theorem system_explained
    (conforms : ∀ engine, Process.Conforms (process engine) store.policy)
    {disk : Storage.Disk} (rooted : Rooted store.policy disk) (empty : disk.live = ∅)
    (settled : disk.older = [])
    {state : Service.Serial SystemAnswer EngineId CheckedRequest Reply System}
    (reachable : (systemService store process).SerialReachable (.start disk) state) :
    Service.Explained (systemService store process) checkedService (serve store)
      (Carries store.policy) World.empty state := by
  apply (system_implements conforms).explained _ (carries_start rooted empty settled) reachable
  exact fun reachable _ _ _ _ serving => (checkedService_calls reachable serving).2.2

end Refinement

/-! ## A system without failures -/

namespace Testkit

/-- The ports of the test kit, over a disk without failures.  No snapshot is taken
of a value that no constructor makes. -/
def respondSystem (kit : Testkit) (engine : EngineId) (system : System) :
    (call : SystemCall) → SystemAnswer call × System
  | .inl call =>
      ((rootProcess.respond system.disk call).1,
        { system with disk := (rootProcess.respond system.disk call).2 })
  | .inr call =>
      let world : World := ⟨[], system.log, system.active, system.holder⟩
      let given : Answer call := match call with
        | .snapshot mutation now =>
            if mutation.desired.checked then kit.answer engine world (.snapshot mutation now)
            else .error (.new .snapshotError "fixture value is not valid")
        | call => kit.answer engine world call
      (given, ⟨system.disk, active engine world call, holder engine world call,
        .port engine ⟨call, given, false⟩ :: system.log⟩)

theorem system_law (kit : Testkit) (engine : EngineId) (system : System) (call : SystemCall) :
    SystemLaw (fun _ => rootProcess) engine system call
      (kit.respondSystem engine system call).1 (kit.respondSystem engine system call).2 := by
  cases call with
  | inl call => exact ⟨rootProcess.law system.disk call, rfl, rfl, rfl⟩
  | inr call =>
      let world : World := ⟨[], system.log, system.active, system.holder⟩
      have lease : LeaseLaw engine system.active (active engine world call) call
          (kit.answer engine world call) :=
        kit.lease_law call
      cases call with
      | snapshot mutation now =>
          refine ⟨rfl, rfl, ?_, false, trivial, rfl⟩
          by_cases checked : mutation.desired.checked = true
          · simp only [respondSystem, if_pos checked]
            exact checked
          · simp only [respondSystem, if_neg checked, AnswerChecked]
      | apply sessionId mutation snapshot =>
          refine ⟨rfl, lease, trivial, false, ?_, rfl⟩
          show ApplyLaw (.apply sessionId mutation snapshot) (kit.receipt mutation) false
          cases kit.receipt mutation <;> simp [ApplyLaw]
      | _ => exact ⟨rfl, lease, trivial, false, trivial, rfl⟩

end Testkit

/-- The store of the test kit's process. -/
def kitStore : FileStateStore :=
  ⟨true, .rootOwned⟩

/-- The engines of the test kit. -/
abbrev kitService : Service SystemAnswer EngineId CheckedRequest Reply System :=
  systemService kitStore fun _ => rootProcess

/-- `prepare` of the fixture plan. -/
def preparingRequest : CheckedRequest :=
  ⟨.prepare (fixturePlan governorMutation), fun _ member => by
    obtain rfl := List.mem_singleton.mp member
    decide⟩

/-- **The file store is a store.**  Every run of engines that keep their records in
a directory is explained by a run of engines over a store whose methods happen at
once: the same requests, replies, calls of other ports and leases, and a directory
that holds the records. -/
theorem file_store_refines (store : FileStateStore) (process : EngineId → Storage.Process)
    (disk : Storage.Disk) (conforms : ∀ engine, Process.Conforms (process engine) store.policy)
    (rooted : Rooted store.policy disk) (empty : disk.live = ∅) (settled : disk.older = [])
    (state : Service.Serial SystemAnswer EngineId CheckedRequest Reply System)
    (reachable : (systemService store process).SerialReachable (.start disk) state) :
    ∃ run : Run, Reachable run ∧ Carries store.policy state.world run.world := by
  rcases (system_explained conforms rooted empty settled reachable).related with
    ⟨above, reachable, carries⟩
  exact ⟨_, reachable_of_checked reachable, carries⟩

/-- An engine that is stopped in the middle of its first write. -/
theorem file_store_refines_preparing :
    ∃ state, kitService.SerialReachable (.start emptyRoot) state ∧
      ∃ run : Run, Reachable run ∧ Carries kitStore.policy state.world run.world := by
  have start : kitService.SerialReachable (.start emptyRoot) ⟨.start emptyRoot, none⟩ := .refl
  have reachable := (start.start 0 preparingRequest).advance (steadyKit.system_law 0) 20
  exact ⟨_, reachable, file_store_refines kitStore (fun _ => rootProcess) emptyRoot
    (fun _ => rootProcess_conforms) emptyRoot_rooted rfl rfl _ reachable⟩

/-! ## Durable intent -/

/-- Whoever reads the disk finds the intent of an apply, before anything else. -/
structure IntentFound (store : FileStateStore) (found : Storage.Disk) (sessionId : SessionId)
    (mutation : PlannedMutation) (snapshot : Snapshot) (record : SessionRecord) : Prop where
  applying : record.session.state = .applying
  operation : ∃ operation ∈ record.operations, operation.mutation = mutation ∧
    operation.snapshot = some snapshot ∧ operation.state = .applying ∧
    ∀ other ∈ record.operations, other.state = .applying → other = operation
  loaded : ∀ reader : Storage.Process,
    (store.load sessionId).run.exec reader.respond found = (.ok record, found)
  listed : ∀ reader : Storage.Process, ∃ records,
    store.loadUnfinished.run.exec reader.respond found = (.ok records, found) ∧
      record ∈ records

section Durable

variable {store : FileStateStore} {process : EngineId → Storage.Process}

/-- Programs that serve the store leave the other ports alone. -/
theorem serve_within {call : Call} (stores : call.Stores) :
    Within (fun made => ∃ inner, made = Sum.inl inner) (fun _ => True) (serve store call) := by
  have within {α : Type} (program : Prog Storage.Answer α) :
      Within (fun made => ∃ inner, made = Sum.inl inner) (fun _ => True) (onDisk program) :=
    (Within.any program).embed fun inner _ => ⟨inner, rfl⟩
  cases call <;> first | exact stores.elim | exact within _

/-- When a port is about to be called, its own call is served, and everything has
been done before. -/
theorem port_of_stands {engine : EngineId} {system : System} {world : World} {call : Call}
    {above : Engine Reply} {next : Answer call → Prog SystemAnswer Reply}
    (stands : Service.Stands (systemService store process) checkedService (serve store)
      (Carries store.policy) engine world system above (.call (.inr call) next)) :
    Carries store.policy system world ∧ ∃ rest, above = .call call rest := by
  cases stands with
  | @serving made rest inner more start same stops serves =>
      by_cases stores : made.Stores
      · rcases (stops.within (serve_within stores)).1 with ⟨inner, impossible⟩
        cases impossible
      · rw [serve_of_not_stores stores] at stops
        rcases stops.of_perform with ⟨same_call, rfl⟩
        obtain rfl := Sum.inr.inj same_call
        exact ⟨same, rest, rfl⟩

/-- **Durable intent.**  When `backend.apply` is about to be called, the state file
of its session says so, and it still does after a failure of the power. -/
theorem intent_is_durable (store : FileStateStore) (process : EngineId → Storage.Process)
    (disk found : Storage.Disk)
    (conforms : ∀ engine, Process.Conforms (process engine) store.policy)
    (rooted : Rooted store.policy disk) (empty : disk.live = ∅) (settled : disk.older = [])
    (state : Service.Serial SystemAnswer EngineId CheckedRequest Reply System)
    (reachable : (systemService store process).SerialReachable (.start disk) state)
    (engine : EngineId) (request : CheckedRequest) (sessionId : SessionId)
    (mutation : PlannedMutation) (snapshot : Snapshot)
    (next : Answer (.apply sessionId mutation snapshot) → Prog SystemAnswer Reply)
    (serving : state.current =
      some (engine, request, .call (.inr (.apply sessionId mutation snapshot)) next))
    (later : state.world.disk.Later found) :
    ∃ record, IntentFound store found sessionId mutation snapshot record := by
  have explained := system_explained conforms rooted empty settled reachable
  rcases state with ⟨system, current⟩
  obtain rfl : current = _ := serving
  rcases explained with ⟨world, above, reachable, stands⟩
  rcases port_of_stands stands with ⟨carries, rest, rfl⟩
  rcases checkedService_calls reachable rfl with ⟨coherent, ⟨record, intends⟩, -⟩
  have stored : filed world.files sessionId = some record := by
    rw [← intends.session]
    exact filed_of_mem coherent.oneEach (coherent.written record intends.written)
  have synchronised : Synchronised world.log := by
    rcases intends.written with ⟨writer, changed, older, log⟩
    rw [log]
    exact rfl
  have readable : store.Readable found (filed world.files) := by
    rcases carries.held with ⟨possible, held, durable⟩
    rw [durable synchronised] at held
    rcases held.later later with rfl | ⟨files, rfl, held'⟩
    · exact FileStateStore.readable_of_held held
    · exact FileStateStore.readable_of_held held'
  refine ⟨record, intends.applying, intends.operation, ?_, ?_⟩
  · exact fun reader => (readable reader).2 sessionId record stored
  · intro reader
    rcases (readable reader).1 with ⟨records, returned, lists⟩
    refine ⟨records, returned, (lists.mem_iff record).mpr ⟨?_, ?_⟩⟩
    · rw [intends.session]
      exact stored
    · simp [intends.applying]

/-- An engine that is about to call `backend.apply`. -/
def Applies {α : Type} : Prog SystemAnswer α → Bool
  | .call (.inr (.apply _ _ _)) _ => true
  | _ => false

theorem exists_of_applies {α : Type} {program : Prog SystemAnswer α}
    (applies : Applies program = true) :
    ∃ sessionId mutation snapshot next,
      program = .call (.inr (.apply sessionId mutation snapshot)) next := by
  cases program with
  | ret value => cases applies
  | call made next =>
      cases made with
      | inl made => cases applies
      | inr made => cases made <;> first | exact ⟨_, _, _, next, rfl⟩ | cases applies

/-- The prepared session of the fixture plan. -/
def preparedSystem : System :=
  let done := (kitService.program preparingRequest).exec (steadyKit.respondSystem 0)
    (kitService.issue 0 preparingRequest (.start emptyRoot))
  kitService.reply 0 preparingRequest done.1 done.2

/-- `apply` of the fixture session. -/
def applyingRequest : CheckedRequest :=
  ⟨.apply steadyKit.sessionId, trivial⟩

/-- The apply of the fixture session, after forty calls. -/
def applyingSystem : Prog SystemAnswer Reply × System :=
  (kitService.program applyingRequest).advance (steadyKit.respondSystem 0) 40
    (kitService.issue 0 applyingRequest preparedSystem)

theorem applyingSystem_reachable :
    kitService.SerialReachable (.start emptyRoot)
      ⟨applyingSystem.2, some (0, applyingRequest, applyingSystem.1)⟩ := by
  have prepared : kitService.SerialReachable (.start emptyRoot) ⟨preparedSystem, none⟩ :=
    Service.SerialReachable.serve .refl
      (Executes.exec (steadyKit.system_law 0) _ _)
  exact (prepared.start 0 applyingRequest).advance (steadyKit.system_law 0) 40

/-- The fixture session's intent. -/
theorem intent_is_durable_applying :
    ∃ sessionId mutation snapshot record,
      IntentFound kitStore applyingSystem.2.disk sessionId mutation snapshot record := by
  have applies : Applies applyingSystem.1 = true := by decide +kernel
  rcases exists_of_applies applies with ⟨sessionId, mutation, snapshot, next, about⟩
  have reachable := applyingSystem_reachable
  rw [about] at reachable
  exact ⟨sessionId, mutation, snapshot, intent_is_durable kitStore (fun _ => rootProcess)
    emptyRoot applyingSystem.2.disk (fun _ => rootProcess_conforms) emptyRoot_rooted rfl rfl _
    reachable 0 applyingRequest sessionId mutation snapshot next rfl (.inl rfl)⟩

end Durable

end Sysboost.Platform
