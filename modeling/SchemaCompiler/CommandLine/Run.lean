import SchemaCompiler.CommandLine.Command
import SchemaCompiler.Compile
import SchemaCompiler.Glob.Search
import SchemaCompiler.Log
import SchemaCompiler.Schema.Document

/-!
# Running a command

A run first gathers: it finds the input files, reads and merges them, and makes the text.  Only then
does it deliver the text to a file or to the output.  Whatever goes wrong while gathering, no file
has been touched.
-/

namespace SchemaCompiler

/-- Why a run fails. -/
inductive RunError where
  | badPattern (error : Glob.GlobError)
  | noMatch (pattern : String)
  | unreadable (path : String) (error : OsError)
  | notText (path : String)
  | badDocument (path : String) (error : Error)
  | failed (error : Error)
  | cannotCreate (directory : String) (error : OsError)
  | cannotWrite (path : String) (error : OsError)

namespace RunError

/-- The wording of a failure, the outermost context first. -/
def message : RunError → String
  | badPattern e => s!"failed to resolve input file paths: {e.message}"
  | noMatch pattern =>
    s!"failed to resolve input file paths: glob pattern matched no files: {pattern}"
  | unreadable path e => s!"failed to read {path}: {e.message}"
  | notText path => s!"failed to read {path}: stream did not contain valid UTF-8"
  | badDocument path e => s!"failed to load {path}: {e.message}"
  | failed e => e.message
  | cannotCreate directory e => s!"failed to create {directory}: {e.message}"
  | cannotWrite path e => s!"failed to write {path}: {e.message}"

/-- The error of the compilation behind a failure, if there is one. -/
def cause? : RunError → Option Error
  | badDocument _ e | failed e => some e
  | _ => none

end RunError

/-- What a run leaves behind, files apart. -/
structure Outcome where
  failure : Option RunError
  stdout : String
  stderr : String
  events : List Event

/-- What a process reports when it ends. -/
structure ExitReport where
  code : Nat
  stdout : String
  stderr : String

/-- The report of a run: a failure is shown and gives the code one. -/
def Outcome.report (o : Outcome) : ExitReport :=
  match o.failure with
  | none => ⟨0, o.stdout, o.stderr⟩
  | some e => ⟨1, o.stdout, o.stderr ++ s!"error: {e.message}\n"⟩

/-- The text that a command makes of a schema. -/
def Command.text (c : Command) (s : Schema) : Except Error String :=
  match c with
  | .rust _ space _ _ => (s.compile ⟨.rust, some space⟩).map SourceFile.text
  | .cpp _ space dumpMacro _ _ => (s.compile ⟨.cpp dumpMacro, some space⟩).map SourceFile.text
  | .order _ _ => s.emissionOrder.map Text.unlines

/-- The events of making the text of a command. -/
def Command.textEvents (c : Command) (s : Schema) : List Event :=
  match c with
  | .order _ _ => s.orderEvents
  | _ => s.planEvents

namespace Inputs

variable {m : Type → Type} [Monad m] [FileSystem m]

/-- The files that an input stands for. -/
def filesOf (input : String) : m (Except RunError (List String)) := do
  if Glob.isPattern input then
    match ← (Glob.search input).run with
    | .error e => return .error (.badPattern e)
    | .ok [] => return .error (.noMatch input)
    | .ok paths => return .ok paths
  else return .ok [input]

/-- The files that inputs stand for, in order. -/
def resolve : List String → m (Except RunError (List String))
  | [] => return .ok []
  | input :: rest => do
    match ← filesOf input with
    | .error e => return .error e
    | .ok paths =>
      match ← resolve rest with
      | .error e => return .error e
      | .ok more => return .ok (paths ++ more)

/-- The records of one file. -/
def loadFile (pointer : Option String) (path : String) : m (Except RunError Schema) := do
  match ← FileSystem.read path with
  | .error e => return .error (.unreadable path e)
  | .ok bytes =>
    match String.fromUTF8? bytes with
    | none => return .error (.notText path)
    | some text => return (Schema.ofDocument text pointer).mapError (.badDocument path)

/-- Adds the records of files to a schema, one file after the other. -/
def loadFiles (pointer : Option String) (s : Schema) :
    List String → m (List Event × Except RunError Schema)
  | [] => return ([], .ok s)
  | path :: rest => do
    match ← loadFile pointer path with
    | .error e => return ([], .error e)
    | .ok document =>
      let event := Event.loaded path document.size
      match s.merge document with
      | (_, .error e) => return ([event], .error (.failed e))
      | (merged, .ok ()) =>
        let (events, result) ← loadFiles pointer merged rest
        return (event :: events, result)

/-- The records of all inputs.  All patterns are resolved before any file is read. -/
def load (i : Inputs) : m (List Event × Except RunError Schema) := do
  match ← resolve i.patterns with
  | .error e => return ([], .error e)
  | .ok paths => loadFiles i.pointer Schema.empty paths

end Inputs

namespace Command

variable {m : Type → Type} [Monad m] [FileSystem m]

/-- Finds and reads the inputs and makes the text. -/
def gather (c : Command) : m (List Event × Except RunError String) := do
  match ← c.inputs.load with
  | (events, .error e) => return (events, .error e)
  | (events, .ok s) => return (events ++ c.textEvents s, (c.text s).mapError .failed)

/-- Writes a text to a file, in directories that are made where they are missing. -/
def deliver (path text : String) : m (Except RunError Unit) := do
  let made ← match Path.parent? path with
    | none => pure (.ok ())
    | some parent =>
      Except.mapError (RunError.cannotCreate parent) <$> FileSystem.makeDirectories parent
  match made with
  | .error e => return .error e
  | .ok () => Except.mapError (RunError.cannotWrite path) <$> FileSystem.write path text.toUTF8

/-- Runs a command. -/
def run (c : Command) : m Outcome := do
  if c.noOp then return ⟨none, "", Text.unlines c.shown, []⟩
  else
    match ← c.gather with
    | (events, .error e) => return ⟨some e, "", "", events⟩
    | (events, .ok text) =>
      match c.out with
      | none => return ⟨none, text, "", events⟩
      | some path =>
        match ← deliver path text with
        | .error e => return ⟨some e, "", "", events⟩
        | .ok () => return ⟨none, "", "", events⟩

end Command

end SchemaCompiler
