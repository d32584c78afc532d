import SchemaCompiler.Record.Normalize
import SchemaCompiler.Schema.Order
import SchemaCompiler.Sink

/-!
# Compilation

From a schema to source text: the records are ordered, normalised one by one and emitted.  The first
failure ends the compilation, and nothing is written unless every record compiles.
-/

namespace SchemaCompiler

/-- What to generate. -/
structure Options where
  target : Target
  /-- The namespace, if not the default of the target. -/
  space : Option String
deriving DecidableEq, Repr

/-- The namespace of the generated file. -/
def Options.spaceName (o : Options) : String :=
  o.space.getD o.target.defaultSpace

namespace Schema

/-- All records, in the order of emission. -/
def plan (s : Schema) : Except Error (List Record) := do
  (← s.emissionOrder).mapM s.record

/-- The source file of a schema. -/
def compile (s : Schema) (o : Options) : Except Error SourceFile := do
  o.target.emit o.spaceName (← s.plan)

/-- Compiles a schema and writes the file to a sink. -/
def generate (s : Schema) (o : Options) (sink : Sink) : Sink × Except Error Unit :=
  match s.compile o with
  | .error e => (sink, .error e)
  | .ok file => sink.write file.chunks

end Schema

end SchemaCompiler
