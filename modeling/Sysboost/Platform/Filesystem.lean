import Sysboost.ByteCodec.Unicode
import Sysboost.Core.MutationValue
import Sysboost.Results.Errors

/-!
# The read-only file system port

A port reads, identifies and lists the nodes of one approved root.  It is asked
for relative paths only, whose text has been checked.
-/

namespace Sysboost.Platform

open Sysboost.Core ByteCodec

/-! ## Paths -/

def invalidPath (message : String) : SysboostError :=
  .new .targetError message

/-- The checks of `RelativePath::new`. -/
def validatePath (value : String) : Except SysboostError Unit :=
  if value.isEmpty || value.utf8ByteSize > 256 then
    .error (invalidPath "path must be non-empty and at most 256 bytes")
  else if value.toList.head? = some '/' || value.toList.contains '\\' ||
      value.toList.contains ':' || value.toList.contains '\x00' then
    .error (invalidPath "path must be relative and contain no drive prefix, NUL, or backslash")
  else if (splitAll '/' value).any fun component =>
      component.isEmpty || component = "." || component = ".." then
    .error (invalidPath "path contains an empty, '.', or '..' component")
  else .ok ()

/-- A validated relative path used by a non-privileged read port. -/
structure RelativePath where
  asStr : String
  valid : validatePath asStr = .ok ()
deriving DecidableEq

def RelativePath.new (value : String) : Except SysboostError RelativePath :=
  match valid : validatePath value with
  | .ok () => .ok ⟨value, valid⟩
  | .error error => .error error

theorem RelativePath.new_of_valid {value : String} (valid : validatePath value = .ok ()) :
    RelativePath.new value = .ok ⟨value, valid⟩ := by
  unfold new
  split
  · rfl
  next refused =>
    rw [valid] at refused
    cases refused

theorem RelativePath.valid_of_new {value : String} {path : RelativePath}
    (made : RelativePath.new value = .ok path) : validatePath value = .ok () := by
  unfold new at made
  split at made
  next valid => exact valid
  · cases made

theorem RelativePath.asStr_of_new {value : String} {path : RelativePath}
    (made : RelativePath.new value = .ok path) : path.asStr = value := by
  rw [new_of_valid (valid_of_new made)] at made
  rw [← Except.ok.inj made]

namespace RelativePath

/-- Append one validated component without allowing traversal. -/
def joinComponent (path : RelativePath) (component : String) :
    Except SysboostError RelativePath :=
  if component.isEmpty || component.toList.contains '/' || component.toList.contains '\\' then
    .error (invalidPath "path component is not a single safe component")
  else new (path.asStr ++ "/" ++ component)

/-- One join after the other. -/
def joinAll (path : RelativePath) (components : List String) :
    Except SysboostError RelativePath :=
  components.foldlM joinComponent path

/-- The components of a path. -/
def components (path : RelativePath) : List String :=
  splitAll '/' path.asStr

variable {path : RelativePath}

theorem components_joinComponent {component : String} {joined : RelativePath}
    (ok : path.joinComponent component = .ok joined) :
    joined.components = path.components ++ [component] := by
  unfold joinComponent at ok
  split at ok
  · cases ok
  next safe =>
    simp only [Bool.or_eq_true, not_or, List.contains_eq_mem, decide_eq_true_eq] at safe
    rw [components, asStr_of_new ok, splitAll_append,
      splitAll_of_absent safe.1.2, components]

theorem components_joinAll {added : List String} {joined : RelativePath}
    (ok : path.joinAll added = .ok joined) : joined.components = path.components ++ added := by
  induction added generalizing path with
  | nil =>
      cases ok
      rw [List.append_nil]
  | cons component rest ih =>
      obtain ⟨next, first, later⟩ := Results.bind_eq_ok_iff.mp ok
      rw [ih later, components_joinComponent first, List.append_assoc, List.singleton_append]

end RelativePath

/-! ## What a path may hold -/

/-- Every component of a text is a name. -/
structure PathChars (symbols : List Char) : Prop where
  plain : ∀ symbol ∈ symbols, symbol ≠ '\\' ∧ symbol ≠ ':' ∧ symbol ≠ '\x00'
  named : ∀ part ∈ symbols.splitOn '/', part ≠ [] ∧ part ≠ ['.'] ∧ part ≠ ['.', '.']

theorem validatePath_eq_ok_iff {value : String} :
    validatePath value = .ok () ↔ value.utf8ByteSize ≤ 256 ∧ PathChars value.toList := by
  have nonempty (chars : PathChars value.toList) : value.isEmpty = false := by
    by_contra empty
    have blank : value.toList = [] := by simpa using empty
    exact (chars.named [] (by simp [blank])).1 rfl
  have relative (chars : PathChars value.toList) : value.toList.head? ≠ some '/' := by
    intro absolute
    obtain ⟨rest, split⟩ := List.head?_eq_some_iff.mp absolute
    exact (chars.named [] (by simp [split, List.splitOn_cons_eq_if_modifyHead])).1 rfl
  constructor
  · intro valid
    unfold validatePath at valid
    split at valid
    · cases valid
    next bounded =>
      split at valid
      · cases valid
      next plain =>
        split at valid
        · cases valid
        next named =>
          simp only [Bool.or_eq_true, decide_eq_true_eq, not_or, Nat.not_lt] at bounded
          simp only [Bool.or_eq_true, decide_eq_true_eq, not_or, List.contains_eq_mem] at plain
          refine ⟨bounded.2, fun symbol member => ?_, fun part member => ?_⟩
          · refine ⟨?_, ?_, ?_⟩
            · rintro rfl
              exact plain.1.1.2 member
            · rintro rfl
              exact plain.1.2 member
            · rintro rfl
              exact plain.2 member
          · have own : String.ofList part ∈ splitAll '/' value := List.mem_map_of_mem member
            have good := List.any_eq_false.mp (Bool.eq_false_of_not_eq_true named) _ own
            simpa [String.ext_iff, not_or, and_assoc] using good
  · rintro ⟨bounded, chars⟩
    unfold validatePath
    rw [if_neg, if_neg, if_neg]
    · intro bad
      obtain ⟨text, listed, bad⟩ := List.any_eq_true.mp bad
      obtain ⟨part, member, rfl⟩ := List.mem_map.mp listed
      have named := chars.named part member
      simp [String.ext_iff, named] at bad
    · simp only [Bool.or_eq_true, decide_eq_true_eq, List.contains_eq_mem, not_or]
      refine ⟨⟨⟨relative chars, ?_⟩, ?_⟩, ?_⟩
      · exact fun member => (chars.plain _ member).1 rfl
      · exact fun member => (chars.plain _ member).2.1 rfl
      · exact fun member => (chars.plain _ member).2.2 rfl
    · simp [nonempty chars, bounded]

/-- Paths are put together at a separator. -/
theorem pathChars_append {front back : List Char} :
    PathChars (front ++ '/' :: back) ↔ PathChars front ∧ PathChars back := by
  have parts : (front ++ '/' :: back).splitOn '/' = front.splitOn '/' ++ back.splitOn '/' :=
    List.splitOn_append_cons_self front back
  constructor
  · rintro ⟨plain, named⟩
    rw [parts] at named
    refine ⟨⟨fun symbol member => plain symbol (by simp [member]),
      fun part member => named part (by simp [member])⟩,
      ⟨fun symbol member => plain symbol (by simp [member]),
      fun part member => named part (by simp [member])⟩⟩
  · rintro ⟨first, second⟩
    constructor
    · intro symbol member
      rcases List.mem_append.mp member with member | member
      · exact first.plain symbol member
      · rcases List.mem_cons.mp member with rfl | member
        · decide
        · exact second.plain symbol member
    · intro part member
      rw [parts] at member
      rcases List.mem_append.mp member with member | member
      · exact first.named part member
      · exact second.named part member

/-- A word of letters and digits is a name. -/
theorem pathChars_of_word {word : List Char} (nonempty : word ≠ [])
    (alphanumeric : ∀ symbol ∈ word, symbol.isAlphanum = true) : PathChars word := by
  have apart (symbol : Char) (other : symbol.isAlphanum = false) : symbol ∉ word := by
    intro member
    rw [alphanumeric symbol member] at other
    cases other
  constructor
  · intro symbol member
    refine ⟨?_, ?_, ?_⟩
    · rintro rfl
      exact apart '\\' (by decide) member
    · rintro rfl
      exact apart ':' (by decide) member
    · rintro rfl
      exact apart '\x00' (by decide) member
  · intro part member
    rw [List.splitOn_eq_singleton (apart '/' (by decide)), List.mem_singleton] at member
    subst member
    refine ⟨nonempty, ?_, ?_⟩
    · rintro rfl
      exact apart '.' (by decide) (by simp)
    · rintro rfl
      exact apart '.' (by decide) (by simp)

/-! ## The port -/

/-- Kind of entry returned by a read-only directory enumeration. -/
inductive EntryKind where
  | file
  | directory
  | symlink
  | other
deriving DecidableEq

/-- One bounded, name-only directory entry. -/
structure DirectoryEntry where
  name : String
  kind : EntryKind
deriving DecidableEq

/-- Read-only file system port; a port without a path lists its root. -/
structure ReadOnlyFileSystem where
  read : RelativePath → Except SysboostError Bytes
  identity : RelativePath → Except SysboostError TargetIdentity
  list : Option RelativePath → Except SysboostError (List DirectoryEntry)

end Sysboost.Platform
