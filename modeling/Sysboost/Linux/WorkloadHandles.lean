import Sysboost.Linux.WorkloadRemoval
import Sysboost.Planner.Rendering

/-!
# The handles of groups

A group is found again by a handle that is made of the names on the way to it,
with dots between them.  A name may hold dots as well, so that two directories
have one handle when their paths are the same but for dots and slashes; the one
that is recorded last then takes the place of the other.
-/

namespace Sysboost.Linux.Workload

open Sysboost.Core Sysboost.Planner ByteCodec Interaction Results
open Storage (IoErrorKind)

/-! ## The hierarchy -/

/-- What `lstat` finds in a cgroup directory. -/
inductive CgroupNode where
  | other
  | symlink
  | directory (device inode : UInt64)
      (listing : Except IoErrorKind
        (List (Except IoErrorKind (Bytes × Except IoErrorKind CgroupNode))))

/-- An entry of a directory that is read, with its node. -/
abbrev CgroupEntry := Except IoErrorKind (Bytes × Except IoErrorKind CgroupNode)

abbrev CgroupListing := Except IoErrorKind (List CgroupEntry)

/-- The name of an entry, unless it is no name of a group. -/
def groupName (raw : Bytes) : Option CgroupName :=
  (fromUtf8 raw).bind fun value => (CgroupName.new value).toOption

def maxWorkloadGroups : Nat :=
  4096

/-- `collect_sysfs_groups`, so many levels above the one that is too deep. -/
def collectSysfsGroups : Nat → Kernel.Path → String → CgroupId → CgroupListing →
    OrderedMap TargetId SysfsGroup → Except SysboostError (OrderedMap TargetId SysfsGroup)
  | 0, _, _, _, _, _ =>
      .error (targetError "cgroup hierarchy exceeds the bounded discovery limit")
  | levels + 1, path, relativePath, identity, listing, groups => do
      if maxWorkloadGroups ≤ groups.entries.length then
        throw (targetError "cgroup hierarchy exceeds the bounded discovery limit")
      let groups := groups.insert identity.handle ⟨identity, relativePath, path⟩
      let entries ← listing.mapError (ioError "cgroup hierarchy cannot be enumerated")
      entries.foldlM (fun groups entry => do
        let (raw, node) ← entry.mapError (ioError "cgroup hierarchy entry cannot be read")
        match ← node.mapError (ioError "cgroup hierarchy entry identity cannot be read") with
        | .symlink => throw (targetError "cgroup hierarchy contains a symlinked directory")
        | .other => return groups
        | .directory device inode listing =>
            match groupName raw with
            | none => return groups
            | some name =>
                let target ← childTarget identity.handle name
                collectSysfsGroups levels (path ++ [name.get]) (childPath relativePath name)
                  ⟨device, inode, target⟩ listing groups) groups

/-- The groups of a hierarchy, each by the names on the way to it. -/
inductive HoldsGroup : CgroupListing → List CgroupName → Prop
  | here (listing : CgroupListing) : HoldsGroup listing []
  | inside {entries : List CgroupEntry} {raw : Bytes} {device inode : UInt64}
      {listing : CgroupListing} {name : CgroupName} {names : List CgroupName}
      (member : .ok (raw, .ok (.directory device inode listing)) ∈ entries)
      (named : groupName raw = some name) (holds : HoldsGroup listing names) :
      HoldsGroup (.ok entries) (name :: names)

/-! ## Handles -/

/-- The handle that the names on the way to a group make. -/
def targetOf (root : TargetId) (names : List CgroupName) : Except SysboostError TargetId :=
  names.foldlM childTarget root

/-- The relative path that the names on the way to a group make. -/
def pathOf (names : List CgroupName) : String :=
  names.foldl childPath ""

/-- The relative path of a group with dots for slashes. -/
def dotted (names : List CgroupName) : List Char :=
  (pathOf names).toList.map fun symbol => if symbol = '/' then '.' else symbol

theorem targetOf_concat (root : TargetId) (names : List CgroupName) (name : CgroupName) :
    targetOf root (names ++ [name]) =
      targetOf root names >>= fun parent => childTarget parent name := by
  simp [targetOf, List.foldlM_append]

theorem pathOf_concat (names : List CgroupName) (name : CgroupName) :
    pathOf (names ++ [name]) = childPath (pathOf names) name := by
  simp [pathOf]

theorem asStr_of_childTarget {parent target : TargetId} {name : CgroupName}
    (made : childTarget parent name = .ok target) :
    target.asStr = parent.asStr ++ "." ++ name.get :=
  TextId.asStr_of_new (mapError_eq_ok_iff.mp made)

/-- The name of a group is a single component of a path. -/
theorem slash_not_mem (name : CgroupName) : '/' ∉ name.get.toList :=
  not_mem_cgroupName name (by decide : 47 ∈ String.utf8EncodeChar '/') (by decide)

theorem name_ne_empty (name : CgroupName) : name.get ≠ "" := by
  intro empty
  have filled := name.fieldText.nonempty
  rw [empty] at filled
  cases filled

theorem pathOf_eq_empty_iff {names : List CgroupName} : pathOf names = "" ↔ names = [] := by
  cases names using List.reverseRecOn with
  | nil => simp [pathOf]
  | append_singleton front name =>
      have filled : childPath (pathOf front) name ≠ "" := by
        unfold childPath
        split
        · exact name_ne_empty name
        · simp [String.append_eq_empty_iff]
      simp [pathOf_concat, filled]

/-- A dotted path has a dot before the name of every group but the first. -/
theorem dotted_concat (names : List CgroupName) (name : CgroupName) :
    dotted (names ++ [name]) =
      (if names = [] then [] else dotted names ++ ['.']) ++ name.get.toList := by
  have plain : (name.get.toList.map fun symbol => if symbol = '/' then '.' else symbol) =
      name.get.toList := by
    rw [List.map_congr_left (g := id), List.map_id]
    intro symbol member
    refine if_neg ?_
    rintro rfl
    exact slash_not_mem name member
  by_cases first : names = []
  · have empty : (pathOf names).isEmpty = true :=
      String.isEmpty_iff.mpr (pathOf_eq_empty_iff.mpr first)
    rw [dotted, pathOf_concat, childPath, if_pos empty, if_pos first, plain, List.nil_append]
  · have filled : ¬(pathOf names).isEmpty = true :=
      fun empty => first (pathOf_eq_empty_iff.mp (String.isEmpty_iff.mp empty))
    rw [dotted, pathOf_concat, childPath, if_neg filled, if_neg first]
    simp [plain, dotted]

theorem dotted_eq_nil_iff {names : List CgroupName} : dotted names = [] ↔ names = [] := by
  rw [dotted, List.map_eq_nil_iff, String.toList_eq_nil_iff, pathOf_eq_empty_iff]

/-- What the handle of a dotted path has after the handle of the root. -/
def handleTail : List Char → List Char
  | [] => []
  | path => '.' :: path

theorem handleTail_of_ne {path : List Char} (nonempty : path ≠ []) :
    handleTail path = '.' :: path := by
  cases path with
  | nil => exact absurd rfl nonempty
  | cons symbol rest => rfl

theorem handleTail_injective : Function.Injective handleTail := by
  rintro (_ | _) (_ | _) same
  all_goals simp_all [handleTail]

theorem asStr_of_targetOf {root target : TargetId} {names : List CgroupName}
    (made : targetOf root names = .ok target) :
    target.asStr.toList = root.asStr.toList ++ handleTail (dotted names) := by
  induction names using List.reverseRecOn generalizing target with
  | nil =>
      cases made
      rw [dotted_eq_nil_iff.mpr rfl, handleTail, List.append_nil]
  | append_singleton front name ih =>
      rw [targetOf_concat] at made
      obtain ⟨parent, above, made⟩ := bind_eq_ok_iff.mp made
      have tail : handleTail (dotted (front ++ [name])) =
          handleTail (dotted front) ++ '.' :: name.get.toList := by
        have whole : dotted (front ++ [name]) ≠ [] := by
          rw [ne_eq, dotted_eq_nil_iff]
          simp
        rw [handleTail_of_ne whole, dotted_concat]
        by_cases first : front = []
        · rw [if_pos first, dotted_eq_nil_iff.mpr first]
          rfl
        · rw [if_neg first, handleTail_of_ne (mt dotted_eq_nil_iff.mp first)]
          simp
      rw [asStr_of_childTarget made, tail]
      simp [ih above]

/-- Handles agree exactly when the dotted paths do. -/
theorem targetOf_eq_iff {root target other : TargetId} {names others : List CgroupName}
    (made : targetOf root names = .ok target) (made' : targetOf root others = .ok other) :
    target = other ↔ dotted names = dotted others := by
  have text : target = other ↔ target.asStr.toList = other.asStr.toList := by
    rw [String.toList_inj]
    exact ⟨congrArg _, fun same => TextId.asStr_injective same⟩
  rw [text, asStr_of_targetOf made, asStr_of_targetOf made', List.append_cancel_left_eq,
    handleTail_injective.eq_iff]

/-! ## The table of groups -/

/-- The root of a hierarchy. -/
structure HierarchyRoot where
  path : Kernel.Path
  identity : CgroupId

variable {root : HierarchyRoot} {recorded others : List CgroupName → Prop}
  {groups after : OrderedMap TargetId SysfsGroup}

/-- The group that is recorded for the names on the way to it. -/
structure MadeFrom (root : HierarchyRoot) (names : List CgroupName) (target : TargetId)
    (group : SysfsGroup) : Prop where
  made : targetOf root.identity.handle names = .ok target
  handle : group.identity.handle = target
  path : group.path = root.path ++ names.map Bounded.get
  relativePath : group.relativePath = pathOf names

/-- The table has an entry for the handle of every recorded group, and none that
was not made from a recorded group. -/
structure Kept (root : HierarchyRoot) (recorded : List CgroupName → Prop)
    (groups : OrderedMap TargetId SysfsGroup) : Prop where
  found : ∀ names, recorded names → ∃ target group,
    targetOf root.identity.handle names = .ok target ∧ groups.get target = some group
  made : ∀ target group, groups.get target = some group →
    ∃ names, recorded names ∧ MadeFrom root names target group

theorem Kept.congr (kept : Kept root recorded groups)
    (same : ∀ names, recorded names ↔ others names) : Kept root others groups := by
  have equal : recorded = others := funext fun names => propext (same names)
  rwa [← equal]

/-- One more group is recorded. -/
theorem Kept.insert (kept : Kept root recorded groups) {names : List CgroupName}
    {target : TargetId} {group : SysfsGroup} (made : MadeFrom root names target group) :
    Kept root (fun others => recorded others ∨ others = names) (groups.insert target group) := by
  constructor
  · rintro others (known | rfl)
    · obtain ⟨other, old, reaches, holds⟩ := kept.found others known
      by_cases same : other = target
      · rw [same] at reaches
        exact ⟨target, group, reaches, OrderedMap.get_insert_self _ _ _⟩
      · refine ⟨other, old, reaches, ?_⟩
        rw [OrderedMap.get_insert_of_ne same, holds]
    · exact ⟨target, group, made.made, OrderedMap.get_insert_self _ _ _⟩
  · intro other entry holds
    by_cases same : other = target
    · rw [same, OrderedMap.get_insert_self] at holds
      cases holds
      exact ⟨names, .inr rfl, same ▸ made⟩
    · rw [OrderedMap.get_insert_of_ne same] at holds
      obtain ⟨others, known, from'⟩ := kept.made other entry holds
      exact ⟨others, .inl known, from'⟩

/-- The groups at and below an entry. -/
def EntryHolds (entry : CgroupEntry) (names : List CgroupName) : Prop :=
  ∃ raw device inode listing name rest, entry = .ok (raw, .ok (.directory device inode listing)) ∧
    groupName raw = some name ∧ names = name :: rest ∧ HoldsGroup listing rest

theorem holdsGroup_iff {entries : List CgroupEntry} {names : List CgroupName} :
    HoldsGroup (.ok entries) names ↔ names = [] ∨ ∃ entry ∈ entries, EntryHolds entry names := by
  constructor
  · rintro (_ | ⟨member, named, holds⟩)
    · exact .inl rfl
    · exact .inr ⟨_, member, _, _, _, _, _, _, rfl, named, rfl, holds⟩
  · rintro (rfl | ⟨entry, member, raw, device, inode, listing, name, rest, rfl, named, rfl, holds⟩)
    · exact .here _
    · exact .inside member named holds

/-- The group of a directory below a recorded one. -/
theorem MadeFrom.child {front : List CgroupName} {path : Kernel.Path} {relativePath : String}
    {identity child : CgroupId} {name : CgroupName}
    (made : MadeFrom root front identity.handle ⟨identity, relativePath, path⟩)
    (target : childTarget identity.handle name = .ok child.handle) :
    MadeFrom root (front ++ [name]) child.handle
      ⟨child, childPath relativePath name, path ++ [name.get]⟩ := by
  constructor
  · rw [targetOf_concat, made.made]
    exact target
  · rfl
  · rw [List.map_append, ← List.append_assoc, ← made.path]
    rfl
  · rw [pathOf_concat, ← made.relativePath]

/-- What is recorded once a group and some of its entries have been passed. -/
def Passed (recorded : List CgroupName → Prop) (front : List CgroupName)
    (entries : List CgroupEntry) (names : List CgroupName) : Prop :=
  recorded names ∨ names = front ∨
    ∃ entry ∈ entries, ∃ rest, names = front ++ rest ∧ EntryHolds entry rest

theorem passed_concat_iff {front names : List CgroupName} {entries : List CgroupEntry}
    {entry : CgroupEntry} :
    Passed recorded front (entries ++ [entry]) names ↔
      Passed recorded front entries names ∨
        ∃ rest, names = front ++ rest ∧ EntryHolds entry rest := by
  simp [Passed, or_and_right, exists_or, or_assoc]

/-- An entry that holds no group is passed over. -/
theorem passed_concat_of_not {front : List CgroupName} {entries : List CgroupEntry}
    {entry : CgroupEntry} (none : ∀ names, ¬EntryHolds entry names) (names : List CgroupName) :
    Passed recorded front entries names ↔ Passed recorded front (entries ++ [entry]) names := by
  simp [passed_concat_iff, none]

theorem entryHolds_directory_iff {raw : Bytes} {device inode : UInt64} {listing : CgroupListing}
    {name : CgroupName} (named : groupName raw = some name) {names : List CgroupName} :
    EntryHolds (.ok (raw, .ok (.directory device inode listing))) names ↔
      ∃ rest, names = name :: rest ∧ HoldsGroup listing rest := by
  constructor
  · rintro ⟨_, _, _, _, other, rest, same, named', rfl, holds⟩
    cases same
    rw [named] at named'
    cases named'
    exact ⟨rest, rfl, holds⟩
  · rintro ⟨rest, rfl, holds⟩
    exact ⟨raw, device, inode, listing, name, rest, rfl, named, rfl, holds⟩

/-- Once all entries have been passed, what the listing holds is recorded. -/
theorem passed_iff {front names : List CgroupName} {entries : List CgroupEntry} :
    Passed recorded front entries names ↔
      recorded names ∨ ∃ rest, names = front ++ rest ∧ HoldsGroup (.ok entries) rest := by
  apply or_congr_right
  constructor
  · rintro (rfl | ⟨entry, member, rest, rfl, holds⟩)
    · exact ⟨[], (List.append_nil _).symm, .here _⟩
    · exact ⟨rest, rfl, holdsGroup_iff.mpr (.inr ⟨entry, member, holds⟩)⟩
  · rintro ⟨rest, rfl, holds⟩
    rcases holdsGroup_iff.mp holds with rfl | ⟨entry, member, holds⟩
    · exact .inl (List.append_nil _)
    · exact .inr ⟨entry, member, rest, rfl, holds⟩

/-- A collection records what a listing holds below the group it begins at. -/
theorem kept_of_collect {levels : Nat} {path : Kernel.Path} {relativePath : String}
    {identity : CgroupId} {listing : CgroupListing} {front : List CgroupName}
    (kept : Kept root recorded groups)
    (made : MadeFrom root front identity.handle ⟨identity, relativePath, path⟩)
    (ok : collectSysfsGroups levels path relativePath identity listing groups = .ok after) :
    Kept root (fun names => recorded names ∨ ∃ rest, names = front ++ rest ∧ HoldsGroup listing rest)
      after := by
  induction levels generalizing path relativePath identity listing front recorded groups after with
  | zero => cases ok
  | succ levels ih =>
      simp only [collectSysfsGroups, guard_eq_ok_iff, bind_eq_ok_iff, mapError_eq_ok_iff] at ok
      obtain ⟨-, entries, rfl, ok⟩ := ok
      have all : Kept root (Passed recorded front entries) after := by
        apply foldlM_eq_ok (p := fun groups entries => Kept root (Passed recorded front entries) groups)
          ok
        · exact (kept.insert made).congr fun names => by simp [Passed]
        · intro groups before entry rest after _ kept step
          simp only [bind_eq_ok_iff, mapError_eq_ok_iff] at step
          obtain ⟨⟨raw, _⟩, rfl, node, rfl, step⟩ := step
          cases node with
          | symlink => cases step
          | other =>
              cases step
              exact kept.congr (passed_concat_of_not (by simp [EntryHolds]))
          | directory device inode listing =>
              dsimp only at step
              split at step
              next unnamed =>
                cases step
                exact kept.congr (passed_concat_of_not (by simp [EntryHolds, unnamed]))
              next name named =>
                obtain ⟨target, child, step⟩ := bind_eq_ok_iff.mp step
                refine (ih kept (made.child child) step).congr fun names => ?_
                rw [passed_concat_iff]
                apply or_congr_right
                simp [entryHolds_directory_iff named]
      exact all.congr fun names => passed_iff

theorem kept_of_discovery {listing : CgroupListing}
    (ok : collectSysfsGroups (maxWorkloadGroups + 1) root.path "" root.identity listing .empty =
      .ok groups) : Kept root (HoldsGroup listing) groups := by
  have empty : Kept root (fun _ => False) .empty := by
    constructor
    · exact fun _ none => none.elim
    · intro target group found
      rw [OrderedMap.get_empty] at found
      cases found
  have made : MadeFrom root [] root.identity.handle ⟨root.identity, "", root.path⟩ :=
    ⟨rfl, rfl, (List.append_nil _).symm, rfl⟩
  exact (kept_of_collect empty made ok).congr (by simp)

/-! ## Later groups -/

/-- A child that a call puts into the table. -/
structure IsChild (parent : SysfsGroup) (name : CgroupName) (target : TargetId)
    (group : SysfsGroup) : Prop where
  made : childTarget parent.identity.handle name = .ok target
  handle : group.identity.handle = target
  path : group.path = parent.path ++ [name.get]
  relativePath : group.relativePath = childPath parent.relativePath name

def Call.InsertsChild (parent : SysfsGroup) (name : CgroupName) : Call → Prop
  | .insertGroup target entry => IsChild parent name target entry
  | _ => True

theorem cgroupIdFromPath_handle {allowed : Call → Prop} {path : Kernel.Path}
    (inspects : allowed (.kernel (.symlinkMetadata path))) (target : TargetId) (message : String) :
    Within allowed (fun result => ∀ identity, result = .ok identity → identity.handle = target)
      (cgroupIdFromPath target.asStr path message).run := by
  have inspected : Within allowed (fun _ => True) (symlinkMetadata path message).run :=
    ⟨inspects, fun _ => trivial⟩
  have refused (condition : Bool) (error : SysboostError) :
      Within allowed (fun _ => True) (Early.refuseIf condition error : Io PUnit).run :=
    .check trivial
  refine .run_seq inspected (fun _ _ _ failed => by cases failed) fun metadata _ => ?_
  refine .run_seq (refused _ _) (fun _ _ _ failed => by cases failed) fun _ _ => ?_
  rw [TextId.new_asStr]
  intro identity same
  cases same
  rfl

theorem insertChild_inserts (parent : SysfsGroup) (name : CgroupName) :
    Within (Call.InsertsChild parent name) (fun _ => True) (insertChild parent name).run := by
  unfold insertChild
  refine .run_seq (.check rfl) (fun _ _ => trivial) fun target made => ?_
  refine .run_seq (cgroupIdFromPath_handle trivial target _) (fun _ _ => trivial)
    fun identity handle => ?_
  have inserted : IsChild parent name target
      ⟨identity, childPath parent.relativePath name, parent.path ++ [name.get]⟩ :=
    ⟨made, handle identity rfl, rfl, rfl⟩
  have kept : Within (Call.InsertsChild parent name) (fun _ => True)
      (locked (Prog.perform (Call.insertGroup target
        ⟨identity, childPath parent.relativePath name, parent.path ++ [name.get]⟩))).run :=
    ⟨inserted, fun _ => trivial⟩
  exact .run_seq kept (fun _ _ => trivial) fun _ _ => trivial

/-- What `insert_child` puts into the table. -/
theorem isChild_of_traces {parent group : SysfsGroup} {name : CgroupName} {target : TargetId}
    {trace : List (Exchange Answer)} {result : Except SysboostError CgroupId}
    (run : Traces (insertChild parent name).run trace result)
    {answer : Answer (.insertGroup target group)}
    (member : ⟨.insertGroup target group, answer⟩ ∈ trace) : IsChild parent name target group :=
  ((insertChild_inserts parent name).every trace result run).1 _ member

/-- A table after the discovery of a hierarchy and the insertion of children, and
the groups that have been recorded in it. -/
inductive Recorded (root : HierarchyRoot) :
    (List CgroupName → Prop) → OrderedMap TargetId SysfsGroup → Prop
  | discovered {listing : CgroupListing} {groups : OrderedMap TargetId SysfsGroup}
      (ok : collectSysfsGroups (maxWorkloadGroups + 1) root.path "" root.identity listing .empty =
        .ok groups) : Recorded root (HoldsGroup listing) groups
  | inserted {recorded : List CgroupName → Prop} {groups : OrderedMap TargetId SysfsGroup}
      {handle target : TargetId} {parent group : SysfsGroup} {name : CgroupName}
      {names : List CgroupName} {trace : List (Exchange Answer)}
      {result : Except SysboostError CgroupId} {answer : Answer (.insertGroup target group)}
      (before : Recorded root recorded groups) (known : groups.get handle = some parent)
      (place : recorded names ∧ parent.path = root.path ++ names.map Bounded.get)
      (run : Traces (insertChild parent name).run trace result)
      (member : ⟨.insertGroup target group, answer⟩ ∈ trace) :
      Recorded root (fun others => recorded others ∨ others = names ++ [name])
        (groups.insert target group)

theorem Recorded.kept (run : Recorded root recorded groups) : Kept root recorded groups := by
  induction run with
  | discovered ok => exact kept_of_discovery ok
  | @inserted recorded groups handle target parent group name names trace result answer before known
      place run member kept =>
      obtain ⟨others, -, made⟩ := kept.made handle parent known
      have same : others = names :=
        List.map_injective_iff.mpr get_injective
          (List.append_cancel_left (made.path.symm.trans place.2))
      rw [same, ← made.handle] at made
      have child := isChild_of_traces run member
      refine kept.insert ?_
      have below := made.child (child.handle.symm ▸ child.made)
      rw [← child.path, ← child.relativePath, child.handle] at below
      exact below

/-! ## Resolving handles -/

/-- Every recorded group has a handle of its own, and it is found by its handle. -/
structure HandlesExact (root : HierarchyRoot) (recorded : List CgroupName → Prop)
    (groups : OrderedMap TargetId SysfsGroup) : Prop where
  distinct : ∀ names others, recorded names → recorded others → names ≠ others →
    targetOf root.identity.handle names ≠ targetOf root.identity.handle others
  resolves : ∀ names, recorded names → ∃ target group,
    targetOf root.identity.handle names = .ok target ∧ groups.get target = some group ∧
      group.path = root.path ++ names.map Bounded.get

/-- No two recorded groups have relative paths that are the same but for dots and
slashes. -/
def DottedApart (recorded : List CgroupName → Prop) : Prop :=
  ∀ names others, recorded names → recorded others → dotted names = dotted others → names = others

theorem Kept.handlesExact_iff (kept : Kept root recorded groups) :
    HandlesExact root recorded groups ↔ DottedApart recorded := by
  constructor
  · intro exact' names others known known' same
    obtain ⟨target, -, made, -⟩ := kept.found names known
    obtain ⟨other, -, made', -⟩ := kept.found others known'
    by_contra differ
    apply exact'.distinct names others known known' differ
    rw [made, made', (targetOf_eq_iff made made').mpr same]
  · intro apart
    constructor
    · intro names others known known' differ same
      obtain ⟨target, -, made, -⟩ := kept.found names known
      have made' := same ▸ made
      exact differ (apart names others known known' ((targetOf_eq_iff made made').mp rfl))
    · intro names known
      obtain ⟨target, group, made, found⟩ := kept.found names known
      obtain ⟨others, known', from'⟩ := kept.made target group found
      have same := apart names others known known' ((targetOf_eq_iff made from'.made).mp rfl)
      exact ⟨target, group, made, found, by rw [same, from'.path]⟩

/-- In every run, handles are exact as long as the recorded paths stay apart with
dots for slashes. -/
theorem handles_exact_iff (run : Recorded root recorded groups) :
    HandlesExact root recorded groups ↔ DottedApart recorded :=
  run.kept.handlesExact_iff

/-! ## Two hierarchies -/

def mountedRoot : HierarchyRoot :=
  ⟨["sys", "fs", "cgroup"], ⟨1, 1, ⟨"cgroup.root", by decide +kernel⟩⟩⟩

def groupA : CgroupName :=
  ⟨"a", by decide +kernel⟩

def groupB : CgroupName :=
  ⟨"b", by decide +kernel⟩

/-- A single name that looks like the path of `b` in `a`. -/
def groupAB : CgroupName :=
  ⟨"a.b", by decide +kernel⟩

/-- A group `a` with a group `b` inside, and what stands beside it. -/
def hierarchyWith (beside : List CgroupEntry) : CgroupListing :=
  .ok (.ok (utf8 "a", .ok (.directory 1 2
    (.ok [.ok (utf8 "b", .ok (.directory 1 3 (.ok [])))]))) :: beside)

/-- What discovery finds of a hierarchy. -/
def discoveryOf (listing : CgroupListing) :
    Except SysboostError (OrderedMap TargetId SysfsGroup) :=
  collectSysfsGroups (maxWorkloadGroups + 1) mountedRoot.path "" mountedRoot.identity listing .empty

theorem groupName_a : groupName (utf8 "a") = some groupA := by
  decide +kernel

theorem groupName_b : groupName (utf8 "b") = some groupB := by
  decide +kernel

theorem holdsGroup_nested_iff {names : List CgroupName} :
    HoldsGroup (hierarchyWith []) names ↔
      names = [] ∨ names = [groupA] ∨ names = [groupA, groupB] := by
  simp only [hierarchyWith, holdsGroup_iff, List.mem_singleton, exists_eq_left,
    entryHolds_directory_iff groupName_a, entryHolds_directory_iff groupName_b, List.not_mem_nil,
    false_and, exists_false, or_false, exists_eq_right, and_or_left, exists_or]

theorem handles_exact_nested : ∃ groups, discoveryOf (hierarchyWith []) = .ok groups ∧
    HandlesExact mountedRoot (HoldsGroup (hierarchyWith [])) groups := by
  obtain ⟨groups, found, -⟩ := exists_ok_of_any (by decide +kernel :
    ((discoveryOf (hierarchyWith [])).toOption.any fun _ => true) = true)
  refine ⟨groups, found, (handles_exact_iff (.discovered found)).mpr ?_⟩
  intro names others known known' same
  rw [holdsGroup_nested_iff] at known known'
  rcases known with rfl | rfl | rfl
  all_goals rcases known' with rfl | rfl | rfl
  all_goals first | rfl | exact absurd same (by decide +kernel)

/-- What is beside the group `a`: a group whose name looks like the path of `b`. -/
def besideA : List CgroupEntry :=
  [.ok (utf8 "a.b", .ok (.directory 1 4 (.ok [])))]

/-- The group of the dotted name takes the place of the nested one. -/
theorem handles_collide : ∃ groups, discoveryOf (hierarchyWith besideA) = .ok groups ∧
    ¬HandlesExact mountedRoot (HoldsGroup (hierarchyWith besideA)) groups := by
  obtain ⟨groups, found, -⟩ := exists_ok_of_any (by decide +kernel :
    ((discoveryOf (hierarchyWith besideA)).toOption.any fun _ => true) = true)
  refine ⟨groups, found, fun exact' => ?_⟩
  have apart := (Kept.handlesExact_iff (kept_of_discovery found)).mp exact'
  have nested : HoldsGroup (hierarchyWith besideA) [groupA, groupB] :=
    .inside List.mem_cons_self groupName_a (.inside List.mem_cons_self groupName_b (.here _))
  have named : groupName (utf8 "a.b") = some groupAB := by decide +kernel
  have beside : HoldsGroup (hierarchyWith besideA) [groupAB] :=
    .inside (List.mem_cons_of_mem _ List.mem_cons_self) named (.here _)
  exact absurd (apart _ _ nested beside (by decide +kernel)) (by decide +kernel)

end Sysboost.Linux.Workload
