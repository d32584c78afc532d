import SchemaCompiler.Text.Pieces

/-!
# File paths

A path is a text; its parts stand between slashes.  Empty parts mean nothing, and neither does a
dot, except as the first part of a relative path.  What `Path.parent?` gives is a piece of the
path's own text, so that messages show it as it was written.
-/

namespace SchemaCompiler.Path

/-- The parts of a path, empty ones included. -/
def parts (path : String) : List String :=
  (Text.cut '/' path.toList).map String.ofList

/-- Whether a path starts at the root. -/
def isAbsolute (path : String) : Bool :=
  path.toList.head? == some '/'

/-- Leaves out the parts at the end that mean nothing.  A dot means something only where `leading`
holds, which is at the start of a relative path. -/
def trimmed (leading : Bool) : List String → List String
  | [] => []
  | part :: rest =>
    match trimmed false rest with
    | [] => if part = "" ∨ (part = "." ∧ !leading) then [] else [part]
    | kept => part :: kept

/-- The path of a list of parts. -/
def ofParts (ps : List String) : String :=
  String.intercalate "/" ps

/-- The path without its last meaningful part; none if there is no such part. -/
def parent? (path : String) : Option String :=
  if isAbsolute path then
    match trimmed false (parts path).tail with
    | [] => none
    | body => some ("/" ++ ofParts (trimmed false body.dropLast))
  else
    match trimmed true (parts path) with
    | [] => none
    | body => some (ofParts (trimmed true body.dropLast))

/-- The last part of a path. -/
def fileName (path : String) : String :=
  (parts path).getLastD ""

/-- A path inside a directory. -/
def join (directory name : String) : String :=
  if directory = "" then name
  else if directory.toList.getLast? == some '/' then directory ++ name
  else directory ++ "/" ++ name

/-- Whether a path is the current directory. -/
def isCurrent (path : String) : Bool :=
  !isAbsolute path && trimmed true (parts path) == ["."]

end SchemaCompiler.Path
