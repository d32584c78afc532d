import SchemaCompiler.Text.Quoted

/-!
# Commands

What the command line asks for: to emit a source file for one of the targets, or to list the order
of emission.  A command to emit may ask to be shown and not run.
-/

namespace SchemaCompiler

/-- Where the records come from. -/
structure Inputs where
  /-- The place of the records in each document, if it is not to be detected. -/
  pointer : Option String
  /-- Paths and path patterns, in order. -/
  patterns : List String
deriving DecidableEq, Repr

/-- A command. -/
inductive Command where
  | rust (inputs : Inputs) (space : String) (out : Option String) (noOp : Bool)
  | cpp (inputs : Inputs) (space : String) (dumpMacro out : Option String) (noOp : Bool)
  | order (inputs : Inputs) (out : Option String)
deriving DecidableEq, Repr

namespace Command

/-- Where the records come from. -/
def inputs : Command → Inputs
  | rust inputs _ _ _ => inputs
  | cpp inputs _ _ _ _ => inputs
  | order inputs _ => inputs

/-- The file to write; the text is printed if there is none. -/
def out : Command → Option String
  | rust _ _ out _ => out
  | cpp _ _ _ out _ => out
  | order _ out => out

/-- Whether the command is shown and not run. -/
def noOp : Command → Bool
  | rust _ _ _ noOp => noOp
  | cpp _ _ _ _ noOp => noOp
  | order _ _ => false

/-! ### Showing a command -/

/-- Lines one level further in. -/
def indented (lines : List String) : List String :=
  lines.map ("    " ++ ·)

/-- Lines between an opening and a closing one. -/
def block (opening : String) (lines : List String) (closing : String) : List String :=
  opening :: indented lines ++ [closing]

/-- A field with a value on one line. -/
def shownField (name value : String) : List String :=
  [name ++ ": " ++ value ++ ","]

/-- A field that may be missing. -/
def shownOption (name : String) : Option String → List String
  | none => shownField name "None"
  | some value => block (name ++ ": Some(") [value ++ ","] "),"

/-- The inputs, as a field. -/
def shownInputs (i : Inputs) : List String :=
  block "input_settings: InputSettings \x7b"
    (shownOption "json_pointer" (i.pointer.map Text.shown) ++
      block "input: [" (i.patterns.map fun p => Text.shown p ++ ",") "],")
    "\x7d,"

/-- A flag, as a field. -/
def shownFlag (name : String) (flag : Bool) : List String :=
  shownField name (if flag then "true" else "false")

/-- The name of a command, the name of its settings, and these. -/
def settings : Command → String × String × List String
  | rust inputs space out noOp =>
    ("Rust", "RustOut", shownInputs inputs ++ shownField "namespace" (Text.shown space) ++
      shownOption "out" (out.map Text.shown) ++ shownFlag "no_op" noOp)
  | cpp inputs space dumpMacro out noOp =>
    ("Cpp", "CppOut", shownInputs inputs ++ shownField "namespace" (Text.shown space) ++
      shownOption "dump_macro" (dumpMacro.map Text.shown) ++
      shownOption "out" (out.map Text.shown) ++ shownFlag "no_op" noOp)
  | order inputs out =>
    ("Order", "OrderOut", shownInputs inputs ++ shownOption "out" (out.map Text.shown))

/-- The lines that show a command. -/
def shown (c : Command) : List String :=
  let (name, kind, lines) := c.settings
  block "CommandLineInterface \x7b"
    (block ("cmd: " ++ name ++ "(") (block (kind ++ " \x7b") lines "\x7d,") "),")
    "\x7d"

end Command

end SchemaCompiler
