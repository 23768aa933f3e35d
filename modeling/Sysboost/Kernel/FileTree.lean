import Sysboost.Kernel.Tree

/-!
# A file system with symbolic links

The objects of a file system that nobody changes stand at their canonical paths,
and the kernel finds the object of a path by following symbolic links.  A path
that is canonical names the object that stands there.
-/

namespace Kernel

open ByteCodec Results
open Storage (FileType IoErrorKind)

/-- What an object holds. -/
inductive Content where
  | file (bytes : Bytes)
  /-- A directory, with what a reader of its entries is given. -/
  | directory (entries : List (Except IoErrorKind ListedEntry))
  /-- A link to a path, from the root of the file system or from its own place. -/
  | symlink (absolute : Bool) (target : List String)
  | other

def Content.fileType : Content → FileType
  | file _ => .file
  | directory _ => .directory
  | symlink _ _ => .symlink
  | other => .other

structure Object where
  content : Content
  device : UInt64
  inode : UInt64
  readonly : Bool

def Object.metadata (object : Object) : Metadata :=
  ⟨object.content.fileType, object.device, object.inode, object.readonly⟩

/-- The objects of a file system by their canonical paths. -/
structure FileTree where
  object : Path → Option Object
  /-- The number of links that are followed on the way to an object. -/
  maxLinks : Nat
  /-- Calls that are refused, for lack of permission or by an I/O error. -/
  refuses : Call → Option IoErrorKind
  top : ∃ object', object [] = some object' ∧ object'.content.fileType = .directory
  parent : ∀ path name child, object (path ++ [name]) = some child →
    IsName name ∧ ∃ object', object path = some object' ∧
      object'.content.fileType = .directory

namespace FileTree

variable (tree : FileTree)

/-- What stands at a canonical path. -/
def shows (path : Path) : Except IoErrorKind Metadata :=
  match tree.object path with
  | some object => .ok object.metadata
  | none => .error .notFound

def isDirectory (path : Path) : Bool :=
  (tree.object path).any fun object => object.content.fileType = .directory

/-- The way of a path down from a directory; where it meets a link that is
followed, it goes on as `follow` says. -/
def walk (followLast : Bool) (follow : Path → List String → Except IoErrorKind Path)
    (current : Path) : List String → Except IoErrorKind Path
  | [] => .ok current
  | component :: rest =>
      if tree.isDirectory current = false then .error .other
      else if component = "" ∨ component = "." then walk followLast follow current rest
      else if component = ".." then walk followLast follow current.dropLast rest
      else
        match tree.object (current ++ [component]) with
        | none => .error .notFound
        | some object =>
            match object.content with
            | .symlink absolute target =>
                if rest = [] ∧ followLast = false then .ok (current ++ [component])
                else follow (if absolute then [] else current) (target ++ rest)
            | _ => walk followLast follow (current ++ [component]) rest

/-- The canonical path of the object that a path names, from a directory on. -/
def resolve (followLast : Bool) : Nat → Path → List String → Except IoErrorKind Path
  | 0 => tree.walk followLast fun _ _ => .error .other
  | links + 1 => tree.walk followLast (resolve followLast links)

def allow (call : Call) : Except IoErrorKind Unit :=
  match tree.refuses call with
  | some error => .error error
  | none => .ok ()

def realpath (path : Path) : Except IoErrorKind Path :=
  tree.resolve true tree.maxLinks [] path

def lstat (path : Path) : Except IoErrorKind Metadata := do
  tree.allow (.symlinkMetadata path)
  tree.shows (← tree.resolve false tree.maxLinks [] path)

def stat (path : Path) : Except IoErrorKind Metadata := do
  tree.allow (.symlinkMetadata path)
  tree.shows (← tree.realpath path)

def openRead (path : Path) : Except IoErrorKind Unit := do
  tree.allow (.openRead path)
  let _ ← tree.shows (← tree.realpath path)

/-- What is read of the open object of a path. -/
def readToEnd (path : Path) : Except IoErrorKind Bytes := do
  tree.allow (.readToEnd path none)
  match (tree.object (← tree.realpath path)).map Object.content with
  | some (.file bytes) => .ok bytes
  | _ => .error .other

def readDirectory (path : Path) : Except IoErrorKind (List (Except IoErrorKind ListedEntry)) := do
  tree.allow (.readDirectory path)
  match (tree.object (← tree.realpath path)).map Object.content with
  | some (.directory entries) => .ok entries
  | _ => .error .other

/-! ## Canonical paths -/

/-- A path without a symbolic link on it. -/
def Canonical (path : Path) : Prop :=
  Walkable tree.shows [] path

variable {tree} {current path front : Path} {components : List String}

theorem shows_eq_ok_iff {metadata : Metadata} :
    tree.shows path = .ok metadata ↔
      ∃ object, tree.object path = some object ∧ metadata = object.metadata := by
  unfold shows
  cases tree.object path with
  | none => simp
  | some object => simp [eq_comm]

theorem walkable_append {symlinkMetadata : Path → Except IoErrorKind Metadata}
    {front back : List String} :
    Walkable symlinkMetadata current (front ++ back) ↔
      Walkable symlinkMetadata current front ∧
        Walkable symlinkMetadata (current ++ front) back := by
  induction front generalizing current with
  | nil => simp [Walkable]
  | cons component rest ih => simp [Walkable, ih, and_assoc]

theorem canonical_nil : tree.Canonical [] :=
  trivial

/-- The directory of a canonical path is canonical. -/
theorem Canonical.dropLast (canonical : tree.Canonical path) : tree.Canonical path.dropLast := by
  cases path using List.reverseRecOn with
  | nil => exact canonical
  | append_singleton front last =>
      rw [List.dropLast_concat]
      exact (walkable_append.mp canonical).1

/-- An object that is no link can be entered. -/
theorem Canonical.concat {name : String} {object : Object} (canonical : tree.Canonical path)
    (stands : tree.object (path ++ [name]) = some object)
    (plain : object.content.fileType ≠ .symlink) : tree.Canonical (path ++ [name]) :=
  walkable_append.mpr ⟨canonical, ⟨⟨object.metadata, shows_eq_ok_iff.mpr ⟨object, stands, rfl⟩,
    plain⟩, trivial⟩⟩

section Walk

variable {followLast : Bool} {follow : Path → List String → Except IoErrorKind Path}

/-- What stands below a directory without links is found by going down. -/
theorem walk_append {back : List String} (walkable : Walkable tree.shows current front) :
    tree.walk followLast follow current (front ++ back) =
      tree.walk followLast follow (current ++ front) back := by
  induction front generalizing current with
  | nil => simp
  | cons component rest ih =>
      obtain ⟨⟨metadata, shown, other⟩, later⟩ := walkable
      obtain ⟨object, stands, rfl⟩ := shows_eq_ok_iff.mp shown
      obtain ⟨name, directory, above, kind⟩ := tree.parent _ _ _ stands
      have enters : tree.isDirectory current = true := by simp [isDirectory, above, kind]
      have step : tree.walk followLast follow current (component :: (rest ++ back)) =
          tree.walk followLast follow (current ++ [component]) (rest ++ back) := by
        rw [walk]
        simp only [enters, name.nonempty, name.notHere, name.notAbove, or_self, if_false, stands,
          Bool.true_eq_false]
        split
        next absolute target linked =>
          exact absurd (by rw [Object.metadata, linked]; rfl) other
        · rfl
      rw [List.cons_append, step, ih later, List.append_assoc, List.singleton_append]

theorem walk_of_walkable (walkable : Walkable tree.shows current components) :
    tree.walk followLast follow current components = .ok (current ++ components) := by
  have down : tree.walk followLast follow current (components ++ []) = _ := walk_append walkable
  rw [List.append_nil] at down
  rw [down, walk]

/-- The last step of a way that does not follow a link at its end. -/
theorem walk_name {name : String} {result : Path} (isName : IsName name)
    (found : tree.walk false follow current [name] = .ok result) : result = current ++ [name] := by
  rw [walk] at found
  split at found
  · cases found
  simp only [isName.nonempty, isName.notHere, isName.notAbove, or_self, if_false] at found
  split at found
  · cases found
  · split at found
    · rw [if_pos (by simp)] at found
      cases found
      rfl
    · rw [walk] at found
      cases found
      rfl

/-- A way that follows links only to canonical paths ends at a canonical path. -/
theorem canonical_of_walk {result : Path} (canonical : tree.Canonical current)
    (follows : ∀ current components result, tree.Canonical current →
      follow current components = .ok result → tree.Canonical result)
    (found : tree.walk true follow current components = .ok result) : tree.Canonical result := by
  induction components generalizing current with
  | nil =>
      cases found
      exact canonical
  | cons component rest ih =>
      rw [walk] at found
      split at found
      · cases found
      split at found
      · exact ih canonical found
      split at found
      · exact ih canonical.dropLast found
      split at found
      · cases found
      next object stands =>
        split at found
        next absolute target linked =>
          rw [if_neg fun last => Bool.noConfusion last.2] at found
          refine follows _ _ _ ?_ found
          split
          · exact canonical_nil
          · exact canonical
        next plain =>
          refine ih (canonical.concat stands ?_) found
          intro linked
          cases content : object.content with
          | symlink absolute target => exact plain absolute target content
          | _ => simp [content, Content.fileType] at linked

end Walk

theorem resolve_eq_walk (followLast : Bool) (links : Nat) :
    ∃ follow, tree.resolve followLast links = tree.walk followLast follow := by
  cases links with
  | zero => exact ⟨_, rfl⟩
  | succ links => exact ⟨_, rfl⟩

theorem resolve_of_walkable {followLast : Bool} {links : Nat}
    (walkable : Walkable tree.shows current components) :
    tree.resolve followLast links current components = .ok (current ++ components) := by
  obtain ⟨follow, same⟩ := tree.resolve_eq_walk followLast links
  rw [same, walk_of_walkable walkable]

theorem Canonical.realpath (canonical : tree.Canonical path) : tree.realpath path = .ok path :=
  resolve_of_walkable canonical

/-- Following links ends at a canonical path. -/
theorem canonical_of_resolve {links : Nat} {result : Path} (canonical : tree.Canonical current)
    (found : tree.resolve true links current components = .ok result) :
    tree.Canonical result := by
  induction links generalizing current components result with
  | zero =>
      refine canonical_of_walk canonical ?_ found
      intro _ _ _ _ refused
      cases refused
  | succ links ih => exact canonical_of_walk canonical (fun _ _ _ => ih) found

theorem canonical_of_realpath {result : Path} (found : tree.realpath path = .ok result) :
    tree.Canonical result :=
  canonical_of_resolve canonical_nil found

/-- `lstat` of an entry of a canonical directory is about what stands there. -/
theorem shows_of_lstat {name : String} {metadata : Metadata} (canonical : tree.Canonical path)
    (isName : IsName name) (shown : tree.lstat (path ++ [name]) = .ok metadata) :
    tree.shows (path ++ [name]) = .ok metadata := by
  obtain ⟨⟨⟩, -, shown⟩ := bind_eq_ok_iff.mp shown
  obtain ⟨found, resolves, shown⟩ := bind_eq_ok_iff.mp shown
  obtain ⟨follow, same⟩ := tree.resolve_eq_walk false tree.maxLinks
  rw [same, walk_append canonical, List.nil_append] at resolves
  rwa [walk_name isName resolves] at shown

/-- A walk by `lstat` down from a canonical directory meets what stands there. -/
theorem canonical_of_walkable {names : List String} (canonical : tree.Canonical path)
    (isNames : ∀ name ∈ names, IsName name) (walkable : Walkable tree.lstat path names) :
    tree.Canonical (path ++ names) := by
  induction names generalizing path with
  | nil =>
      rw [List.append_nil]
      exact canonical
  | cons name rest ih =>
      obtain ⟨⟨metadata, shown, plain⟩, later⟩ := walkable
      rw [List.forall_mem_cons] at isNames
      obtain ⟨object, stands, rfl⟩ := shows_eq_ok_iff.mp (shows_of_lstat canonical isNames.1 shown)
      have entered := canonical.concat stands plain
      rw [List.append_cons]
      exact ih entered isNames.2 later

/-- `lstat` of a canonical path is about what stands there. -/
theorem Canonical.shows_of_lstat {metadata : Metadata} (canonical : tree.Canonical path)
    (shown : tree.lstat path = .ok metadata) : tree.shows path = .ok metadata := by
  obtain ⟨⟨⟩, -, shown⟩ := bind_eq_ok_iff.mp shown
  have straight : tree.resolve false tree.maxLinks [] path = .ok path :=
    resolve_of_walkable canonical
  rwa [straight] at shown

/-- What is read at a canonical path is the content of the file that stands there. -/
theorem Canonical.file_of_readToEnd {bytes : Bytes} (canonical : tree.Canonical path)
    (held : tree.readToEnd path = .ok bytes) :
    ∃ object, tree.object path = some object ∧ object.content = .file bytes := by
  obtain ⟨⟨⟩, -, held⟩ := bind_eq_ok_iff.mp held
  simp only [canonical.realpath] at held
  obtain ⟨_, same, held⟩ := bind_eq_ok_iff.mp held
  cases same
  split at held
  next bytes' found =>
    cases held
    exact Option.map_eq_some_iff.mp found
  · cases held

/-- What is listed at a canonical path are the entries of the directory there. -/
theorem Canonical.directory_of_readDirectory {entries : List (Except IoErrorKind ListedEntry)}
    (canonical : tree.Canonical path) (listed : tree.readDirectory path = .ok entries) :
    ∃ object, tree.object path = some object ∧ object.content = .directory entries := by
  obtain ⟨⟨⟩, -, listed⟩ := bind_eq_ok_iff.mp listed
  simp only [canonical.realpath] at listed
  obtain ⟨_, same, listed⟩ := bind_eq_ok_iff.mp listed
  cases same
  split at listed
  next entries' found =>
    cases listed
    exact Option.map_eq_some_iff.mp found
  · cases listed

/-- The calls below a canonical root. -/
def below (root : Path) (canonical : tree.Canonical root) : Tree root where
  symlinkMetadata := tree.lstat
  canonicalize := tree.realpath
  opens := tree.openRead
  content := tree.readToEnd
  entries := tree.readDirectory
  canonical _ isNames walkable := (canonical_of_walkable canonical isNames walkable).realpath

end FileTree

end Kernel
