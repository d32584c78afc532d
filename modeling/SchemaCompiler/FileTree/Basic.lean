import SchemaCompiler.Entries
import SchemaCompiler.FileTree.FileSystem

/-!
# File trees

Files and directories as a value.  Paths are followed part by part: each part but the last must lead
to a directory.  A path that starts with a slash is followed from the root, any other one from the
working directory.

The working directory has the empty name.  As empty parts of a path mean nothing, no path leads into
it from above: a run does not know where it takes place.
-/

namespace SchemaCompiler

/-- A file or a directory. -/
inductive Node where
  | file (content : ByteArray)
  | directory (entries : List (String × Node))

namespace Node

/-- Whether this is a file or a directory. -/
def kind : Node → FileKind
  | file _ => .file
  | directory _ => .directory

/-- What there is in a directory; there is nothing in a file. -/
def entries : Node → Entries Node
  | file _ => []
  | directory entries => entries

/-- Puts a new node where names lead to.  All names but the last must lead to directories. -/
def put : Node → List String → Node → Node
  | _, [], new => new
  | file content, _ :: _, _ => file content
  | directory entries, name :: rest, new =>
    match Entries.get? entries name, rest with
    | none, _ :: _ => directory entries
    | none, [] => directory (Entries.insert entries name new)
    | some child, rest => directory (Entries.insert entries name (child.put rest new))

mutual

/-- The files below a node, by the names that lead to them. -/
def files : Node → List (List String × ByteArray)
  | file content => [([], content)]
  | directory entries => entryFiles entries

/-- The files in the entries of a directory. -/
def entryFiles : List (String × Node) → List (List String × ByteArray)
  | [] => []
  | (name, node) :: rest => node.files.map (fun f => (name :: f.1, f.2)) ++ entryFiles rest

end

end Node

/-- Files and directories. -/
structure FileTree where
  root : Node
  /-- The names that lead to the working directory. -/
  home : List String

namespace FileTree

/-- The tree with an empty working directory among the temporary files.  Elsewhere there is only the
file that is always empty. -/
def empty : FileTree :=
  ⟨.directory [("tmp", .directory [("", .directory [])]),
    ("dev", .directory [("null", .file ByteArray.empty)])], ["tmp", ""]⟩

/-! ### Paths -/

/-- The most bytes that a path may have. -/
def maxPathBytes : Nat := 4095

/-- The most bytes that a name may have. -/
def maxNameBytes : Nat := 255

/-- Refuses a text that cannot be a path. -/
def checkPath (path : String) : Except OsError Unit :=
  if path.toList.contains '\x00' then .error .zeroInPath
  else if maxPathBytes < path.utf8ByteSize then .error .nameTooLong
  else if path = "" then .error .noEntry
  else .ok ()

/-- The way from the root to a node, the node itself first.  The root is not on it. -/
abbrev Trail := List (String × Node)

/-- The names along a way, from the root on. -/
def Trail.names (trail : Trail) : List String :=
  (trail.map Prod.fst).reverse

/-- The node that a way leads to. -/
def last (t : FileTree) (trail : Trail) : Node :=
  (trail.head?.map Prod.snd).getD t.root

/-- What there is in the directory that a way leads to. -/
def directoryAt (t : FileTree) (trail : Trail) : Except OsError (Entries Node) :=
  match t.last trail with
  | .file _ => .error .notDirectory
  | .directory entries => .ok entries

/-- What there is in a directory under a name. -/
def child (entries : Entries Node) (name : String) : Except OsError (Option Node) :=
  if maxNameBytes < name.utf8ByteSize then .error .nameTooLong else .ok (entries.get? name)

/-- One part further.  The way must lead to a directory. -/
def enter (t : FileTree) (trail : Trail) (part : String) : Except OsError Trail := do
  let entries ← t.directoryAt trail
  if part = "" ∨ part = "." then return trail
  else if part = ".." then return trail.tail
  else
    match ← child entries part with
    | some node => return (part, node) :: trail
    | none => .error .noEntry

/-- One name further down, the name taken as it is. -/
def descend (t : FileTree) (trail : Trail) (name : String) : Except OsError Trail :=
  match (t.last trail).entries.get? name with
  | some node => .ok ((name, node) :: trail)
  | none => .error .noEntry

/-- The way to the working directory, which may be gone. -/
def homeTrail (t : FileTree) : Except OsError Trail :=
  t.home.foldlM t.descend []

/-- Where a path is followed from: the root or the working directory. -/
def start (t : FileTree) (path : String) : Except OsError Trail :=
  if Path.isAbsolute path then .ok [] else t.homeTrail

/-- The way that the parts of a path lead. -/
def follow (t : FileTree) (path : String) (parts : List String) : Except OsError Trail := do
  parts.foldlM t.enter (← t.start path)

/-- What a path leads to. -/
def lookup (t : FileTree) (path : String) : Except OsError Node := do
  checkPath path
  return t.last (← t.follow path (Path.parts path))

/-- The last part of a path that is not empty, the parts before it, and whether a slash follows it.
-/
def splitLast (path : String) : List String × String × Bool :=
  let reversed := (Path.parts path).reverse
  match reversed.dropWhile fun part => part = "" with
  | [] => ([], "", true)
  | last :: before => (before.reverse, last, reversed.head? = some "")

/-- Whether a part of a path is a name, and no step to the same or the upper directory. -/
def isName (part : String) : Bool :=
  part ≠ "" && part ≠ "." && part ≠ ".."

/-! ### Operations -/

/-- The content of a file. -/
def read (t : FileTree) (path : String) : Except OsError ByteArray := do
  match ← t.lookup path with
  | .file content => return content
  | .directory _ => .error .isDirectory

/-- What a path leads to. -/
def kind? (t : FileTree) (path : String) : Option FileKind :=
  match t.lookup path with
  | .ok node => some node.kind
  | .error _ => none

/-- What there is in a directory, the working directory apart. -/
def list (t : FileTree) (path : String) : Except OsError (List (String × FileKind)) := do
  match ← t.lookup path with
  | .file _ => .error .notDirectory
  | .directory entries =>
    return (entries.filter fun e => e.1 ≠ "").map fun e => (e.1, e.2.kind)

/-- Puts a node under a name at the end of a way. -/
def put (t : FileTree) (trail : Trail) (name : String) (node : Node) : FileTree :=
  { t with root := t.root.put (trail.names ++ [name]) node }

/-- Makes a directory in an existing one. -/
def makeDirectory (t : FileTree) (path : String) : Except OsError FileTree := do
  checkPath path
  let (before, name, _) := splitLast path
  let trail ← t.follow path before
  let entries ← t.directoryAt trail
  if !isName name then .error .exists
  else
    match ← child entries name with
    | some _ => .error .exists
    | none => return t.put trail name (.directory [])

/-- Makes a file or replaces its content.  A path that ends with a slash is refused before its last
name is looked at. -/
def write (t : FileTree) (path : String) (content : ByteArray) : Except OsError FileTree := do
  checkPath path
  let (before, name, slash) := splitLast path
  let trail ← t.follow path before
  let entries ← t.directoryAt trail
  if !isName name || slash then .error .isDirectory
  else
    match ← child entries name with
    | some (.directory _) => .error .isDirectory
    | _ => return t.put trail name (.file content)

/-- Runs an operation that changes the tree unless it fails. -/
def change (operation : FileTree → Except OsError FileTree) :
    StateM FileTree (Except OsError Unit) :=
  fun t =>
    match operation t with
    | .ok changed => (.ok (), changed)
    | .error e => (.error e, t)

instance : FileSystem (StateM FileTree) where
  read path := fun t => (t.read path, t)
  kind? path := fun t => (t.kind? path, t)
  list path := fun t => (t.list path, t)
  makeDirectory path := change fun t => t.makeDirectory path
  write path content := change fun t => t.write path content

/-! ### Comparison -/

/-- The files below the working directory, by their relative paths. -/
def files (t : FileTree) : List (String × ByteArray) :=
  match t.homeTrail with
  | .ok trail => (t.last trail).files.map fun f => (Path.ofParts f.1, f.2)
  | .error _ => []

/-- The files that are not in an earlier tree, or not with the same content, sorted by path. -/
def changedSince (t earlier : FileTree) : List (String × ByteArray) :=
  let before := earlier.files
  (t.files.filter fun f => !before.contains f).mergeSort fun f g => f.1 ≤ g.1

end FileTree

end SchemaCompiler
