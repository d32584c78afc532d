import SchemaCompiler.CommandLine.Arguments
import SchemaCompiler.CommandLine.Run

/-!
# The program

Reads the arguments, runs the command on the files of the computer, and reports.
-/

namespace SchemaCompiler

/-- The failure with a given number, which some operations report with a minus sign. -/
def OsError.ofCode (code : UInt32) (text : String) : OsError :=
  match (min code (0 - code)).toNat with
  | 2 => .noEntry
  | 17 => .exists
  | 20 => .notDirectory
  | 21 => .isDirectory
  | 36 => .nameTooLong
  | n => .other n text

/-- The failure behind an exception. -/
def OsError.ofException : IO.Error → OsError
  | .noFileOrDirectory _ code text => .ofCode code text
  | .alreadyExists _ code text => .ofCode code text
  | .inappropriateType _ code text => .ofCode code text
  | .permissionDenied _ code text => .ofCode code text
  | .resourceExhausted _ code text => .ofCode code text
  | .invalidArgument _ code text => .ofCode code text
  | .otherError code text => .ofCode code text
  | e => .other 5 (toString e)

/-- Runs an operation and turns an exception into a failure. -/
def attempt {α : Type} (action : IO α) : IO (Except OsError α) := do
  match ← action.toBaseIO with
  | .ok a => return .ok a
  | .error e => return .error (OsError.ofException e)

/-- What a path leads to on the computer. -/
def kindOnDisk? (path : String) : IO (Option FileKind) := do
  if path.isEmpty then return none
  let place := System.mkFilePath [path]
  if ← place.isDir then return some .directory
  else if ← place.pathExists then return some .file
  else return none

instance : FileSystem IO where
  read path := attempt do
    if path.isEmpty then throw (IO.Error.noFileOrDirectory path 2 "No such file or directory")
    if (← kindOnDisk? path) == some .directory then
      throw (IO.Error.inappropriateType path 21 "Is a directory")
    IO.FS.readBinFile path
  kind? := kindOnDisk?
  list path := attempt do
    (← (System.mkFilePath [path]).readDir).toList.mapM fun entry => do
      return (entry.fileName, if ← entry.path.isDir then .directory else .file)
  makeDirectory path := attempt (IO.FS.createDir path)
  write path content := attempt (IO.FS.writeBinFile path content)

/-- The wording of a usage error. -/
def UsageError.message : UsageError → String
  | .missingCommand => "a command is required: rust, cpp or order"
  | .help => "usage: (rust | cpp | order) --input <INPUT>... [OPTIONS]"
  | .unknownCommand => "unrecognized subcommand"
  | .unknownArgument => "unexpected argument"
  | .invalidValue => "a value is required"
  | .conflict => "an argument cannot be used multiple times"
  | .unexpectedValue => "unexpected value"
  | .missingInput => "--input <INPUT>... was not provided"

/-- Runs the program on its arguments. -/
def runProgram (arguments : List String) : IO UInt32 := do
  match Command.ofArguments arguments with
  | .error .help =>
    IO.println (UsageError.message .help)
    return 0
  | .error e =>
    IO.eprintln s!"error: {e.message}"
    return 2
  | .ok command =>
    let report := (← command.run).report
    IO.print report.stdout
    IO.eprint report.stderr
    return report.code.toUInt32

end SchemaCompiler

/-- The program. -/
def main (arguments : List String) : IO UInt32 :=
  SchemaCompiler.runProgram arguments
