import SchemaCompiler.Entries
import SchemaCompiler.Naming
import SchemaCompiler.Text.Quoted
import SchemaCompiler.Decimal.Shortest
import SchemaCompiler.Json.Printer
import SchemaCompiler.Json.Skip
import SchemaCompiler.Json.Pointer
import SchemaCompiler.Schema.Order
import SchemaCompiler.Schema.Progress
import SchemaCompiler.Log
import SchemaCompiler.Compile
import SchemaCompiler.Schema.Document
import SchemaCompiler.FileTree.Basic
import SchemaCompiler.Glob.Search
import SchemaCompiler.CommandLine.Arguments
import SchemaCompiler.CommandLine.Run
import SchemaCompiler.Main
import SchemaCompiler.Proofs.Schema.Order
import SchemaCompiler.Proofs.Compile
import SchemaCompiler.Proofs.DeclarationOrder
import SchemaCompiler.Proofs.Sink
import SchemaCompiler.Proofs.Collision
import SchemaCompiler.Proofs.FileTree.Places
import SchemaCompiler.Proofs.FileTree.Changes
import SchemaCompiler.Proofs.FileTree.ReadOnly
import SchemaCompiler.Proofs.CommandLine.Inputs
import SchemaCompiler.Proofs.CommandLine.Run
import SchemaCompiler.Proofs.FirstOccurrence
import SchemaCompiler.Proofs.Schema.Unfolding
import SchemaCompiler.Proofs.Schema.Calls
import SchemaCompiler.Proofs.FieldType
import SchemaCompiler.Proofs.Record.Composition
import SchemaCompiler.Proofs.Spelling
import SchemaCompiler.Proofs.Record.Grammar
import SchemaCompiler.Proofs.Record.Bases
import SchemaCompiler.Proofs.Target.KeyLiteral
import SchemaCompiler.Proofs.Target.RecordText
import SchemaCompiler.Proofs.Text.CaseMapping
import SchemaCompiler.Proofs.Target.Identifiers
import SchemaCompiler.Proofs.Target.TypeSpelling
import SchemaCompiler.Proofs.Target.Splices
import SchemaCompiler.Proofs.Json.Reader
import SchemaCompiler.Proofs.Json.Continuation
import SchemaCompiler.Proofs.Json.Grammar
import SchemaCompiler.Proofs.Json.Skip
import SchemaCompiler.Proofs.Schema.Document
