import SchemaCompiler.CommandLine.Command
import SchemaCompiler.Target.Basic

/-!
# Reading the arguments

Arguments are read from left to right.  An option collects the values after it; they are settled,
that is counted, checked for a conflict and stored, when the next option of the command starts or
when the arguments end.  An argument that nobody understands is refused at once, so that it is
reported before anything that is wrong with values not yet settled.
-/

namespace SchemaCompiler

/-- Why arguments are not a command. -/
inductive UsageError where
  | missingCommand
  | help
  | unknownCommand
  | unknownArgument
  | invalidValue
  | conflict
  | unexpectedValue
  | missingInput
deriving DecidableEq, Repr

namespace Arguments

/-- The names of the commands. -/
inductive CommandName where
  | rust
  | cpp
  | order
deriving DecidableEq, Repr

/-- The command of a given name. -/
def CommandName.ofString? : String → Option CommandName
  | "rust" => some .rust
  | "cpp" => some .cpp
  | "order" => some .order
  | _ => none

/-- Options with values. -/
inductive ValueOption where
  | input
  | out
  | pointer
  | space
  | dumpMacro
deriving DecidableEq, Repr

/-- The options of the commands. -/
inductive CommandOption where
  | value (o : ValueOption)
  | noOp
  | help
deriving DecidableEq, Repr

/-- Whether a command has an option. -/
def CommandName.accepts : CommandName → CommandOption → Bool
  | .rust, .value .dumpMacro => false
  | .order, .value .dumpMacro => false
  | .order, .value .space => false
  | .order, .noOp => false
  | _, _ => true

/-- The option of a given long name. -/
def longOption? : String → Option CommandOption
  | "input" => some (.value .input)
  | "out" => some (.value .out)
  | "json-pointer" => some (.value .pointer)
  | "namespace" => some (.value .space)
  | "dump-macro" => some (.value .dumpMacro)
  | "no-op" => some .noOp
  | "help" => some .help
  | _ => none

/-- The option of a given letter. -/
def shortOption? : Char → Option CommandOption
  | 'i' => some (.value .input)
  | 'o' => some (.value .out)
  | 'h' => some .help
  | _ => none

/-- What an argument looks like. -/
inductive Argument where
  /-- `--`: no options follow. -/
  | separator
  /-- `--name` or `--name=value`. -/
  | long (name : String) (value : Option String)
  /-- `-letter`, and what is attached to it. -/
  | short (letter : Char) (attached : List Char)
  /-- Anything else, a lone hyphen included. -/
  | plain (text : String)

/-- What an argument looks like. -/
def Argument.ofString (s : String) : Argument :=
  match s.toList with
  | ['-', '-'] => .separator
  | '-' :: '-' :: rest =>
    .long (String.ofList (rest.takeWhile (· ≠ '='))) <|
      match rest.dropWhile (· ≠ '=') with
      | [] => none
      | _ :: value => some (String.ofList value)
  | '-' :: letter :: attached => .short letter attached
  | _ => .plain s

/-- The values of options that have been settled. -/
structure Settled where
  input : List String := []
  out : Option String := none
  pointer : Option String := none
  space : Option String := none
  dumpMacro : Option String := none
  noOp : Bool := false

/-- What has been read. -/
structure State where
  settled : Settled := {}
  /-- The option whose values are being collected, and these. -/
  pending : Option (ValueOption × List String) := none
  /-- Whether the pending option takes further values. -/
  collecting : Bool := false

namespace Settled

/-- Stores the value of an option that may be given once. -/
def once (current : Option String) (value : String) : Except UsageError (Option String) :=
  if current.isSome then .error .conflict else .ok (some value)

/-- Stores the values of an option: at least one, and an output path is never empty. -/
def store (s : Settled) (option : ValueOption) (values : List String) :
    Except UsageError Settled := do
  match values with
  | [] => .error .invalidValue
  | value :: _ =>
    match option with
    | .input => return { s with input := s.input ++ values }
    | .out =>
      let out ← once s.out value
      if value = "" then .error .invalidValue else return { s with out := out }
    | .pointer => return { s with pointer := ← once s.pointer value }
    | .space => return { s with space := ← once s.space value }
    | .dumpMacro => return { s with dumpMacro := ← once s.dumpMacro value }

end Settled

namespace State

/-- Settles the pending option. -/
def settle (s : State) : Except UsageError Settled :=
  match s.pending with
  | none => .ok s.settled
  | some (option, values) => s.settled.store option values

/-- An option starts: flags take effect, an attached value is stored, and an option without one
waits for its values. -/
def start (s : State) (option : CommandOption) (attached : Option String) :
    Except UsageError State := do
  match option, attached with
  | .value option, none =>
    return { settled := ← s.settle, pending := some (option, []), collecting := true }
  | .value option, some value => return { settled := ← (← s.settle).store option [value] }
  | .noOp, _ =>
    let settled ← s.settle
    if settled.noOp then .error .conflict else return { settled := { settled with noOp := true } }
  | .help, _ =>
    let _ ← s.settle
    .error .help

/-- A plain argument is a value of the pending option. -/
def collect (s : State) (value : String) : Except UsageError State :=
  match s.pending, s.collecting with
  | some (option, values), true =>
    .ok { s with pending := some (option, values ++ [value]), collecting := option == .input }
  | _, _ => .error .unknownArgument

end State

/-- The value attached to a letter, the equals sign apart. -/
def attachedValue : List Char → Option String
  | [] => none
  | '=' :: value => some (String.ofList value)
  | value => some (String.ofList value)

/-- Reads the arguments after the name of the command. -/
def readOptions (name : CommandName) (s : State) : List String → Except UsageError Settled
  | [] => s.settle
  | argument :: rest =>
    match Argument.ofString argument with
    | .separator => if rest.isEmpty then s.settle else .error .unknownArgument
    | .plain value => do readOptions name (← s.collect value) rest
    | .long long value => do
      match longOption? long with
      | none => .error .unknownArgument
      | some option =>
        if !name.accepts option then .error .unknownArgument
        else
          match option, value with
          | .noOp, some _ | .help, some _ => .error .unexpectedValue
          | option, value => readOptions name (← s.start option value) rest
    | .short letter attached => do
      match shortOption? letter with
      | none => .error .unknownArgument
      | some option => readOptions name (← s.start option (attachedValue attached)) rest

/-- The command of a name and settled options. -/
def command (name : CommandName) (s : Settled) : Except UsageError Command :=
  if s.input.isEmpty then .error .missingInput
  else
    let inputs : Inputs := ⟨s.pointer, s.input⟩
    .ok <| match name with
      | .rust => .rust inputs (s.space.getD Target.rust.defaultSpace) s.out s.noOp
      | .cpp =>
        .cpp inputs (s.space.getD (Target.cpp s.dumpMacro).defaultSpace) s.dumpMacro s.out s.noOp
      | .order => .order inputs s.out

/-- Whether a text names a command or asks for help on one. -/
def isCommandName (s : String) : Bool :=
  (CommandName.ofString? s).isSome || s == "help"

/-- Why arguments that ask for help are not a command: help is given on at most one command. -/
def helpError : List String → UsageError
  | [] => .help
  | [name] => if isCommandName name then .help else .unknownCommand
  | _ => .unknownCommand

/-- Why arguments that start with no name of a command are not a command. -/
def noCommandError (argument : String) (rest : List String) : UsageError :=
  match Argument.ofString argument, rest with
  | .separator, [] => .missingCommand
  | .separator, next :: _ => if isCommandName next then .unknownArgument else .unknownCommand
  | .long "help" none, _ => .help
  | .long "help" (some _), _ => .unexpectedValue
  | .long _ _, _ => .unknownArgument
  | .short 'h' _, _ => .help
  | .short _ _, _ => .unknownArgument
  | .plain _, _ => .unknownCommand

end Arguments

open Arguments in
/-- The command that the arguments ask for. -/
def Command.ofArguments : List String → Except UsageError Command
  | [] => .error .missingCommand
  | argument :: rest =>
    match CommandName.ofString? argument with
    | some name => do command name (← readOptions name {} rest)
    | none =>
      if argument = "help" then .error (helpError rest)
      else .error (noCommandError argument rest)

end SchemaCompiler
