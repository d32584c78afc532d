import SchemaCompiler.Schema.Order

/-!
# A traversal that keeps its progress

`Schema.visit` is given the trail and gives back what is done.  Here the same traversal has one
state, `Progress`, which every call changes and hands on to the next one: a visit puts the record on
the trail, walks through its definition and takes it off again, wherever it then stands.

A walk leads down into a value, but a visit leads from anywhere to the top of another definition, and
nothing in the calls themselves says that this comes to an end.  So `Schema.perform` makes a call with
a limit on how many calls are within each other, and has no result beyond it.  What calls come to
without a limit, `Schema.ComesTo`, is the result that they have with every limit large enough.
-/

namespace SchemaCompiler.Schema

/-- How far a traversal has come. -/
structure Progress where
  /-- The records that have been entered and not completed, as they were entered. -/
  trail : List String
  /-- The records that are complete, as they were completed. -/
  done : List String
deriving DecidableEq, Repr

/-- What a traversal is to do next. -/
inductive Call where
  /-- To complete every record that the value refers to. -/
  | walk (j : Json)
  /-- To complete the record. -/
  | visit (name : String)

namespace Progress

/-- Before anything is done. -/
def start : Progress :=
  ⟨[], []⟩

/-- The names with one more at the end, unless it is there. -/
def addName (names : List String) (name : String) : List String :=
  if name ∈ names then names else names ++ [name]

/-- A record is entered. -/
def enter (p : Progress) (name : String) : Progress where
  trail := addName p.trail name
  done := p.done

/-- A record is complete: it is taken off the trail. -/
def leave (p : Progress) (name : String) : Progress where
  trail := p.trail.erase name
  done := addName p.done name

theorem enter_of_notMem {p : Progress} {name : String} (h : name ∉ p.trail) :
    p.enter name = ⟨p.trail ++ [name], p.done⟩ := by
  simp [enter, addName, h]

/-- To leave undoes the entering if the trail is otherwise as it was. -/
theorem leave_concat {trail done : List String} {name : String} (ht : name ∉ trail)
    (hd : name ∉ done) : leave ⟨trail ++ [name], done⟩ name = ⟨trail, done ++ [name]⟩ := by
  simp [leave, addName, hd, List.erase_append_right [name] ht]

end Progress

namespace Call

/-- What an entry of an object calls for. -/
def ofEntry : String × Json → Option Call
  | (_, .obj entries) => some (walk (.obj entries))
  | (_, .arr items) => some (walk (.arr items))
  | (key, .str r) => if key = "$ref" then some (visit (Reference.target r)) else none
  | _ => none

/-- What a value calls for, in document order. -/
def within : Json → List Call
  | .obj entries => entries.filterMap ofEntry
  | .arr items => items.map walk
  | _ => []

end Call

/-- Makes a call and all that it calls for, if that takes no more than `depth` calls within each
other. -/
def perform (s : Schema) : (depth : Nat) → Progress → Call → ExceptT Error Option Progress
  | 0, _, _ => ExceptT.mk none
  | depth + 1, p, .walk j => (Call.within j).foldlM (fun p call => perform s depth p call) p
  | depth + 1, p, .visit name =>
    if name ∈ p.done then pure p
    else if name ∈ p.trail then
      throw (.referenceCycle (p.trail.dropWhile (fun other => other ≠ name) ++ [name]))
    else do
      let definition ← liftM (s.resolve name)
      let p ← perform s depth (p.enter name) (.walk definition)
      return p.leave name

/-- Makes calls one after the other. -/
def performAll (s : Schema) (depth : Nat) (p : Progress) (calls : List Call) :
    ExceptT Error Option Progress :=
  calls.foldlM (fun p call => s.perform depth p call) p

/-- What calls come to, however many of them are within each other. -/
def ComesTo (s : Schema) (p : Progress) (calls : List Call) (r : Except Error Progress) : Prop :=
  ∃ enough, ∀ depth, enough ≤ depth → (s.performAll depth p calls).run = some r

/-- The calls that the traversal of a schema starts with: every definition is walked through. -/
def calls (s : Schema) : List Call :=
  s.records.map fun record => .walk record.2

end SchemaCompiler.Schema
