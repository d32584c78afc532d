import SchemaCompiler.FileTree.FileSystem
import SchemaCompiler.Glob.Pattern

/-!
# Finding files by a pattern

A path pattern is a list of patterns, one for each part.  The search goes down the directories depth
first, the names of a directory in order; a part without special characters is followed without
listing the directory.
-/

namespace SchemaCompiler.Glob

/-- Why a search fails. -/
inductive GlobError where
  | pattern (error : PatternError)
  | unlistable (path : String) (error : OsError)

/-- The wording of a failed search. -/
def GlobError.message : GlobError → String
  | .pattern e => e.message
  | .unlistable path e => s!"attempting to read `{path}` resulted in an error: {e.message}"

/-- A path that the search has reached. -/
structure Candidate where
  path : String
  isDirectory : Bool

/-- A candidate and the patterns that it still has to match, its own name first. -/
structure Pending where
  candidate : Candidate
  /-- None if the candidate is known to match. -/
  patterns : List Pattern

variable {m : Type → Type} [Monad m] [FileSystem m]

/-- The candidate at a path. -/
def candidateAt (path : String) : m Candidate := do
  return ⟨path, (← FileSystem.kind? path) == some .directory⟩

/-- The candidates for the first of the patterns in a directory, in order. -/
def children (directory : Candidate) : List Pattern → ExceptT GlobError m (List Pending)
  | [] => return [⟨directory, []⟩]
  | p :: ps => do
    match p.literal? with
    | some name =>
      let path := if Path.isCurrent directory.path then name else Path.join directory.path name
      let known ← if name = "." ∨ name = ".." then pure directory.isDirectory
        else Option.isSome <$> FileSystem.kind? path
      if known then children (← candidateAt path) ps else return []
    | none =>
      if !directory.isDirectory then return []
      match ← FileSystem.list directory.path with
      | .error e => throw (.unlistable directory.path e)
      | .ok found =>
        let entries := (found.mergeSort fun a b => a.1 ≤ b.1).map fun (name, kind) =>
          let path := if Path.isCurrent directory.path then name else Path.join directory.path name
          Pending.mk ⟨path, kind == .directory⟩ (p :: ps)
        -- the directory itself and the one above it match only a pattern with a plain dot in front
        let special (name : String) : ExceptT GlobError m (List Pending) := do
          if p.startsWithDot && p.matches name then
            children (← candidateAt (Path.join directory.path name)) ps
          else return []
        return (← special "..") ++ (← special ".") ++ entries

/-- The paths that come of the candidates in a directory, in order, given those that come of each
candidate. -/
def inside (results : Pending → ExceptT GlobError m (List String)) (directory : Candidate)
    (patterns : List Pattern) : ExceptT GlobError m (List String) := do
  return (← (← children directory patterns).mapM results).flatten

/-- The paths that come of a candidate whose name has to match the first of the patterns. -/
def byName (onlyDirectories : Bool) (results : Pending → ExceptT GlobError m (List String))
    (candidate : Candidate) (patterns : List Pattern) : ExceptT GlobError m (List String) :=
  let accepted := if onlyDirectories && !candidate.isDirectory then [] else [candidate.path]
  match patterns with
  | [] => return accepted
  | p :: ps =>
    if !p.matches (Path.fileName candidate.path) then return []
    else if ps.isEmpty then return accepted
    else inside results candidate ps

/-- The paths that come of a candidate, in order; the search goes at most `fuel` steps down. -/
def resultsUpTo (onlyDirectories : Bool) : Nat → Pending → ExceptT GlobError m (List String)
  | 0, _ => return []
  | fuel + 1, ⟨candidate, patterns⟩ => do
    let results := resultsUpTo onlyDirectories fuel
    match patterns.span Pattern.isAnyDepth with
    | ([], patterns) => byName onlyDirectories results candidate patterns
    | (depth :: _, rest) =>
      let own ← match rest with
        | [] => pure (if candidate.isDirectory then [candidate.path] else [])
        | rest => byName onlyDirectories results candidate rest
      let deeper ← if candidate.isDirectory then inside results candidate (depth :: rest)
        else pure []
      return own ++ deeper

/-- How deep a search goes: paths have at most 4096 bytes. -/
def maxDepth : Nat := 4096

/-- The pieces between slashes, without an empty one at the end. -/
def patternParts (cs : List Char) : List String :=
  let pieces := Text.cut '/' cs
  (if pieces.getLast? = some [] then pieces.dropLast else pieces).map String.ofList

/-- The pattern that a text spells. -/
def parsed (text : String) : ExceptT GlobError m Pattern :=
  match Pattern.ofText? text with
  | .ok p => pure p
  | .error e => throw (.pattern e)

/-- The paths that match a path pattern, in order. -/
def search (pattern : String) : ExceptT GlobError m (List String) := do
  let _ ← parsed pattern
  let absolute := Path.isAbsolute pattern
  let patterns ← (patternParts (pattern.toList.drop (if absolute then 1 else 0))).mapM parsed
  if patterns.isEmpty then return []
  let onlyDirectories := pattern.toList.getLast? == some '/'
  let start ← candidateAt (if absolute then "/" else ".")
  inside (resultsUpTo onlyDirectories maxDepth) start patterns

/-- Whether an input is a pattern and not the path of a file. -/
def isPattern (input : String) : Bool :=
  input.toList.any fun c => c == '*' || c == '?' || c == '[' || c == '\x7b'

end SchemaCompiler.Glob
