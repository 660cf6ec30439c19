import Rerun.Disk.Path

/-!
# Files and Directories

A model of a file system: a tree of directories and files below one root, and
the working directory in it. It is what the commands are reasoned about with,
and it fails the way a file system fails: a missing file, a file where a
directory is needed, a directory where a file is needed, a name that is too
long.

A file is only ever replaced as a whole. Its new content is first written to
a temporary file in the destination's directory, which is no part of the tree,
and then put in its place by renaming. The two steps that depend on the tree
are `Disk.stage` and `Disk.destination`.

A tree has no symbolic links. What is said of trees here does not cover
reading through a link, or renaming a file over one.

## Main definitions

* `Fault`: Why the file system refused something.
* `Place`: Where something stands.
* `Node`, `Disk`: The tree and the working directory.
* `Disk.node?`: What stands at a place.
* `Disk.locate`: What a sequence of names leads to.
* `Disk.read`, `Disk.mode`: What is known of the file that a path leads to.
* `Disk.stage`, `Disk.destination`: Where a file can be written and renamed to.
* `Disk.put`, `Disk.makeFolder`, `Disk.erase`, `Disk.entries`: Building,
  changing and listing a tree.

## Theorems

* `Disk.node?_put`: What stands at a place after a node was put somewhere.
-/

namespace Rerun

/-- Why the file system refused something. -/
inductive Fault where
  | notFound
  | busy
  | notDirectory
  | isDirectory
  | invalid
  | nameTooLong
  | nulByte
  /-- A failure that this model does not know, in the words of the system. -/
  | other (text : String)
deriving DecidableEq, Repr

namespace Fault

/-- The fault in the words of the system. -/
def text : Fault → String
  | notFound => "No such file or directory (os error 2)"
  | busy => "Device or resource busy (os error 16)"
  | notDirectory => "Not a directory (os error 20)"
  | isDirectory => "Is a directory (os error 21)"
  | invalid => "Invalid argument (os error 22)"
  | nameTooLong => "File name too long (os error 36)"
  | nulByte => "file name contained an unexpected NUL byte"
  | other text => text

end Fault

/-- A place in the tree: the names that lead to it from the root. -/
abbrev Place := List (List Char)

namespace Place

/-- The name that leads from a directory to the one above it. -/
def up : List Char := ['.', '.']

/-- The place that a name leads to from another one. The root stands above
    itself. -/
def enter (place : Place) (name : List Char) : Place :=
  if name = ['.'] then place
  else if name = up then place.dropLast
  else place ++ [name]

end Place

/-- What can stand at a place. -/
inductive Node where
  | folder
  | file (mode : Nat) (bytes : List UInt8)
deriving DecidableEq, Repr

namespace Node

/-- The permission bits of a node. Directories have the usual ones. -/
def mode : Node → Nat
  | folder => 0o755
  | file mode _ => mode

end Node

/-- The tree and the working directory. -/
structure Disk where
  /-- The working directory. -/
  home : Place
  nodes : List (Place × Node)
deriving DecidableEq, Repr

namespace Disk

/-- A tree with nothing in it but the working directory. -/
def empty : Disk := ⟨["work".toList], []⟩

/-- What stands at a place. The working directory and those above it are
    always there. -/
def node? (disk : Disk) (place : Place) : Option Node :=
  if place.isPrefixOf disk.home then some .folder else disk.nodes.lookup place

/-- Puts a node at a place, instead of what may stand there. -/
def put (disk : Disk) (place : Place) (node : Node) : Disk :=
  { disk with nodes := (place, node) :: disk.nodes.filter fun entry => entry.1 != place }

/-- What stands at a place after a node was put somewhere. -/
theorem node?_put (disk : Disk) (place other : Place) (node : Node)
    (h : other.isPrefixOf disk.home = false) :
    (disk.put place node).node? other = if other = place then some node else disk.node? other := by
  simp only [node?, put, h, Bool.false_eq_true, if_false, List.lookup_cons]
  by_cases heq : other = place
  · -- The new node stands in front.
    simp [heq]
  · -- Any other entry is found in the filtered list as it was before.
    have hne : (other == place) = false := by simpa using heq
    rw [hne]
    simp only [heq, if_false]
    induction disk.nodes with
    | nil => rfl
    | cons entry entries ih =>
      obtain ⟨at_, there⟩ := entry
      by_cases hat : at_ = place
      · simp only [List.filter_cons, hat, bne_self_eq_false, Bool.false_eq_true, if_false,
          List.lookup_cons, hne, ih]
      · simp only [List.filter_cons, bne_iff_ne, ne_eq, hat, not_false_eq_true, if_true,
          List.lookup_cons, ih]

/-- The place that a path starts from. -/
def origin (disk : Disk) (path : String) : Place :=
  if Path.isAbsolute path then [] else disk.home

/-- Follows names from a place. A name is looked up only in a directory. -/
def locate (disk : Disk) (here : Place) : List (List Char) → Except Fault (Place × Node)
  | [] =>
    match disk.node? here with
    | some node => .ok (here, node)
    | none => .error .notFound
  | name :: rest =>
    match disk.node? here with
    | none => .error .notFound
    | some (.file ..) => .error .notDirectory
    | some .folder =>
      if Path.isLongName name then .error .nameTooLong
      else disk.locate (here.enter name) rest

/-- What a path leads to. The empty path leads nowhere. -/
def resolve (disk : Disk) (path : String) : Except Fault (Place × Node) :=
  if Path.hasNul path then .error .nulByte
  else if path.isEmpty then .error .notFound
  else if Path.isTooLong path then .error .nameTooLong
  else
    match disk.locate (disk.origin path) (Path.names path) with
    | .ok (place, .file mode bytes) =>
      if Path.wantsFolder path then .error .notDirectory else .ok (place, .file mode bytes)
    | other => other

/-- The bytes of a file. -/
def read (disk : Disk) (path : String) : Except Fault (List UInt8) :=
  match disk.resolve path with
  | .ok (_, .file _ bytes) => .ok bytes
  | .ok (_, .folder) => .error .isDirectory
  | .error fault => .error fault

/-- The permission bits of what a path leads to. -/
def mode (disk : Disk) (path : String) : Except Fault Nat :=
  match disk.resolve path with
  | .ok (_, node) => .ok node.mode
  | .error fault => .error fault

/-- Whether a temporary file can be made in the directory that holds a path. -/
def stage (disk : Disk) (path : String) : Except Fault Unit :=
  let parent := Path.parent path
  if parent.any (·.contains '\x00') then .error .nulByte
  else if Path.isSpareTooLong path then .error .nameTooLong
  else
    match disk.locate (disk.origin path) parent with
    | .ok (_, .folder) => .ok ()
    | .ok (_, .file ..) => .error .notDirectory
    | .error fault => .error fault

/-- The place that a file can be renamed to under a path. Nothing can be
    renamed to a directory's own entry in itself, to its parent's or to the
    root. -/
def destination (disk : Disk) (path : String) : Except Fault Place :=
  if Path.hasNul path then .error .invalid
  else if path.isEmpty then .error .notFound
  else if Path.isTooLong path then .error .nameTooLong
  else
    match (Path.names path).getLast? with
    -- A path without any name is the root.
    | none => .error .busy
    | some name =>
      match disk.locate (disk.origin path) (Path.names path).dropLast with
      | .error fault => .error fault
      | .ok (_, .file ..) => .error .notDirectory
      | .ok (folder, .folder) =>
        if name = ['.'] ∨ name = Place.up then .error .busy
        else if Path.isLongName name then .error .nameTooLong
        else if Path.wantsFolder path then .error .notDirectory
        else if disk.node? (folder ++ [name]) = some .folder then .error .isDirectory
        else .ok (folder ++ [name])

/-- The permission bits of a new file, unless others are asked for. -/
def defaultMode : Nat := 0o600

/-- The place that a path names when no name in it is looked up. -/
def placeOf (disk : Disk) (path : String) : Place :=
  (Path.names path).foldl Place.enter (disk.origin path)

/-- The places that the names of a path lead through before the last one. -/
def placesBefore (disk : Disk) (path : String) : List Place :=
  let names := Path.names path
  (List.range names.length).map fun count =>
    (names.take count).foldl Place.enter (disk.origin path)

/-- Makes the directories that a path leads through where nothing stands
    yet. -/
def makeAncestors (disk : Disk) (path : String) : Disk :=
  (disk.placesBefore path).foldl
    (fun disk above => if (disk.node? above).isSome then disk else disk.put above .folder) disk

/-- Makes a directory, and those above it. -/
def makeFolder (disk : Disk) (path : String) : Disk :=
  let place := disk.placeOf path
  let disk := disk.makeAncestors path
  if (disk.node? place).isSome then disk else disk.put place .folder

/-- The permission bits of a mode: three for the owner, three for the group
    and three for the others. -/
def permissions (mode : Nat) : Nat :=
  mode % 0o1000

/-- Writes a file, making the directories above it. -/
def write (disk : Disk) (path : String) (mode : Nat) (bytes : List UInt8) : Disk :=
  (disk.makeAncestors path).put (disk.placeOf path) (.file (permissions mode) bytes)

/-- Removes a file, or a directory with all that is in it. -/
def erase (disk : Disk) (path : String) : Disk :=
  let place := disk.placeOf path
  { disk with nodes := disk.nodes.filter fun entry => !place.isPrefixOf entry.1 }

/-- A place below the working directory, written as a path. -/
def pathOf (disk : Disk) (place : Place) : String :=
  String.ofList (['/'].intercalate (place.drop disk.home.length))

/-- Whether a place is below the working directory. -/
def isBelow (disk : Disk) (place : Place) : Bool :=
  disk.home.isPrefixOf place && disk.home.length < place.length

/-- Whether a list of bytes comes before another in a directory listing. -/
def bytesLe : List UInt8 → List UInt8 → Bool
  | [], _ => true
  | _ :: _, [] => false
  | a :: as, b :: bs => a < b || (a == b && bytesLe as bs)

/-- All there is below the working directory, in the order of the bytes of
    the paths. -/
def entries (disk : Disk) : List (String × Node) :=
  let inside := disk.nodes.filter fun entry => disk.isBelow entry.1
  (inside.map fun entry => (disk.pathOf entry.1, entry.2)).mergeSort fun a b =>
    bytesLe (Utf8.encode a.1.toList) (Utf8.encode b.1.toList)

end Disk

end Rerun
