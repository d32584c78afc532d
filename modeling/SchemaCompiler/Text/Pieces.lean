/-!
# Text in pieces

Generated text is put together from lines, each of which is ended by a line feed.  Pointers and file
paths are cut at their slashes.
-/

namespace SchemaCompiler.Text

/-- Ends each line with a line feed and joins them. -/
def unlines : List String → String
  | [] => ""
  | line :: rest => line ++ "\n" ++ unlines rest

/-- Joins texts one after the other. -/
def concat : List String → String
  | [] => ""
  | s :: rest => s ++ concat rest

theorem concat_append (xs ys : List String) : concat (xs ++ ys) = concat xs ++ concat ys := by
  induction xs with
  | nil => rw [List.nil_append, concat, String.empty_append]
  | cons s rest ih => rw [List.cons_append, concat, concat, ih, String.append_assoc]

theorem concat_singleton (s : String) : concat [s] = s := by
  rw [concat, concat, String.append_empty]

/-- To append texts one by one is to append them joined. -/
theorem foldl_append {α : Type} (text : α → String) (out : String) (xs : List α) :
    xs.foldl (fun out x => out ++ text x) out = out ++ concat (xs.map text) := by
  induction xs generalizing out with
  | nil => rw [List.foldl_nil, List.map_nil, concat, String.append_empty]
  | cons x rest ih => rw [List.foldl_cons, ih, List.map_cons, concat, String.append_assoc]

/-- Cuts a text at each `sep`: there is one piece more than there are separators. -/
def cut (sep : Char) : List Char → List (List Char)
  | [] => [[]]
  | c :: rest =>
    match cut sep rest with
    | [] => [[c]]
    | piece :: pieces => if c = sep then [] :: piece :: pieces else (c :: piece) :: pieces

end SchemaCompiler.Text
