import SchemaCompiler.Json.Basic

/-!
# References

A reference is a string under the key `$ref`.  It names its target either by one of the two places
where records are kept, or verbatim.
-/

namespace SchemaCompiler

namespace Reference

/-- The places where records are kept. -/
def places : List String :=
  ["#/definitions/", "#/components/schemas/"]

/-- The record that a reference names: what follows one of the places, if that is not empty and
stays on one line; otherwise the whole reference. -/
def target (reference : String) : String :=
  let names := places.filterMap fun place => place.toList.isPrefixOf? reference.toList
  match names.find? fun name => !name.isEmpty && !name.contains '\n' with
  | some name => String.ofList name
  | none => reference

end Reference

namespace Json

/-- The record that a definition refers to, if it is a reference. -/
def reference? (definition : Json) : Option String :=
  (definition.getString? "$ref").map Reference.target

/-- The reference that an entry is by itself. -/
def entryReference (key : String) : Json → List String
  | .str s => if key = "$ref" then [Reference.target s] else []
  | _ => []

mutual

/-- The targets of all references in a value, wherever they stand, in document order. -/
def references : Json → List String
  | arr items => itemReferences items
  | obj entries => entryReferences entries
  | _ => []

/-- The targets of all references in the items of an array. -/
def itemReferences : List Json → List String
  | [] => []
  | j :: rest => references j ++ itemReferences rest

/-- The targets of all references in the entries of an object, the entries themselves included. -/
def entryReferences : Entries Json → List String
  | [] => []
  | (key, j) :: rest => entryReference key j ++ references j ++ entryReferences rest

end

end Json

end SchemaCompiler
