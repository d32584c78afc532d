import SchemaCompiler.FileTree.Path

/-!
# File systems

What a run needs of a file system, as a class, so that the same program works on the files of the
computer and on a `FileTree`, about which theorems can be proved.
-/

namespace SchemaCompiler

/-- Why an operation on files fails. -/
inductive OsError where
  | noEntry
  | exists
  | notDirectory
  | isDirectory
  | nameTooLong
  /-- The path holds a character with the code zero, which ends a text for the system. -/
  | zeroInPath
  | other (code : Nat) (text : String)
deriving DecidableEq, Repr

/-- The wording of a failure, with its number. -/
def OsError.message : OsError → String
  | .noEntry => "No such file or directory (os error 2)"
  | .exists => "File exists (os error 17)"
  | .notDirectory => "Not a directory (os error 20)"
  | .isDirectory => "Is a directory (os error 21)"
  | .nameTooLong => "File name too long (os error 36)"
  | .zeroInPath => "file name contained an unexpected NUL byte"
  | .other code text => s!"{text} (os error {code})"

/-- What a path can lead to. -/
inductive FileKind where
  | file
  | directory
deriving DecidableEq, Repr

/-- The operations on files. -/
class FileSystem (m : Type → Type) where
  /-- The content of a file. -/
  read : String → m (Except OsError ByteArray)
  /-- What a path leads to, if it leads anywhere. -/
  kind? : String → m (Option FileKind)
  /-- The names in a directory, in any order, with what they lead to. -/
  list : String → m (Except OsError (List (String × FileKind)))
  /-- Makes a directory in an existing one. -/
  makeDirectory : String → m (Except OsError Unit)
  /-- Makes a file or replaces its content. -/
  write : String → ByteArray → m (Except OsError Unit)

/-- A computation that may fail for other reasons uses the same files. -/
instance {ε : Type} {m : Type → Type} [Monad m] [FileSystem m] : FileSystem (ExceptT ε m) where
  read path := ExceptT.lift (FileSystem.read path)
  kind? path := ExceptT.lift (FileSystem.kind? path)
  list path := ExceptT.lift (FileSystem.list path)
  makeDirectory path := ExceptT.lift (FileSystem.makeDirectory path)
  write path content := ExceptT.lift (FileSystem.write path content)

namespace FileSystem

variable {m : Type → Type} [Monad m] [FileSystem m]

/-- Makes a directory unless it is there. -/
def ensureDirectory (path : String) : m (Except OsError Unit) := do
  match ← makeDirectory path with
  | .ok () => return .ok ()
  | .error e =>
    if (← kind? path) == some .directory then return .ok () else return .error e

/-- Makes a directory and the directories that it needs, at most `fuel` of them. -/
def makeDirectoriesUpTo : Nat → String → m (Except OsError Unit)
  | 0, _ => return .ok ()
  | fuel + 1, path => do
    if path = "" then return .ok ()
    match ← ensureDirectory path, Path.parent? path with
    | .error .noEntry, some parent =>
      match ← makeDirectoriesUpTo fuel parent with
      | .ok () => ensureDirectory path
      | .error e => return .error e
    | result, _ => return result

/-- Makes a directory and the directories that it needs; those that are there are left alone. -/
def makeDirectories (path : String) : m (Except OsError Unit) :=
  makeDirectoriesUpTo (path.length + 1) path

end FileSystem

end SchemaCompiler
