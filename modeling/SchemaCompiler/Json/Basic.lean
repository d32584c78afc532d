import SchemaCompiler.Decimal.Binary64
import SchemaCompiler.Entries

/-!
# JSON values

The values that definitions are made of.  Objects keep their entries in order.  Integers that fit in
64 bits stay exact, all other numbers are double-precision binary numbers.

A text may repeat a key of an object; `Json.unrepeated` leaves of such entries the first position
and the last value.  Equality of values is decidable; `Json.sameValue` is equality up to the order
of object entries.
-/

namespace SchemaCompiler

/-- A number of a document. -/
inductive Number where
  | int (value : Int)
  | float (value : Binary64)
deriving DecidableEq, Repr

/-- Equality of numbers: an integer never equals a number with a fraction part or an exponent. -/
def Number.sameNumber : Number → Number → Bool
  | .int a, .int b => a == b
  | .float a, .float b => a.sameNumber b
  | _, _ => false

/-- A JSON value. -/
inductive Json where
  | null
  | bool (value : Bool)
  | num (value : Number)
  | str (value : String)
  | arr (items : List Json)
  | obj (entries : List (String × Json))
deriving Inhabited

namespace Json

/-! ### Views -/

/-- The value under a key, if this is an object that has the key. -/
def get? : Json → String → Option Json
  | obj entries, key => Entries.get? entries key
  | _, _ => none

/-- The text of a string. -/
def asString? : Json → Option String
  | str s => some s
  | _ => none

/-- The items of an array. -/
def asArray? : Json → Option (List Json)
  | arr items => some items
  | _ => none

/-- The entries of an object. -/
def asObject? : Json → Option (Entries Json)
  | obj entries => some entries
  | _ => none

/-- The string under a key. -/
def getString? (j : Json) (key : String) : Option String :=
  (j.get? key).bind asString?

/-- The object under a key. -/
def getObject? (j : Json) (key : String) : Option (Entries Json) :=
  (j.get? key).bind asObject?

/-- The array under a key. -/
def getArray? (j : Json) (key : String) : Option (List Json) :=
  (j.get? key).bind asArray?

/-- An item of an array is smaller than the array. -/
theorem sizeOf_lt_arr {items : List Json} {item : Json} (h : item ∈ items) :
    sizeOf item < sizeOf (arr items) := by
  have hlt := List.sizeOf_lt_of_mem h
  simp only [arr.sizeOf_spec]
  omega

/-- The value of an entry is smaller than the object. -/
theorem sizeOf_lt_obj {entries : List (String × Json)} {e : String × Json} (h : e ∈ entries) :
    sizeOf e.2 < sizeOf (obj entries) := by
  have hlt := List.sizeOf_lt_of_mem h
  obtain ⟨key, value⟩ := e
  simp only [Prod.mk.sizeOf_spec, obj.sizeOf_spec] at hlt ⊢
  omega

/-- A value found under a key is smaller than the object it was found in. -/
theorem sizeOf_lt_of_get? {j v : Json} {key : String} (h : j.get? key = some v) :
    sizeOf v < sizeOf j := by
  cases j with
  | obj entries => exact sizeOf_lt_obj (Entries.mem_of_get?_eq_some h)
  | _ => simp [get?] at h

/-! ### Repeated keys -/

mutual

/-- The value in which no object repeats a key: a key that does keeps its first position and its
last value. -/
def unrepeated : Json → Json
  | arr items => arr (unrepeatedItems items)
  | obj entries => obj (Entries.ofList (unrepeatedEntries entries))
  | j => j

/-- Leaves out repeated keys in each item. -/
def unrepeatedItems : List Json → List Json
  | [] => []
  | j :: rest => unrepeated j :: unrepeatedItems rest

/-- Leaves out repeated keys in the value of each entry. -/
def unrepeatedEntries : Entries Json → Entries Json
  | [] => []
  | (key, j) :: rest => (key, unrepeated j) :: unrepeatedEntries rest

end

/-! ### Equality -/

mutual

/-- Decides whether two values are the same, the order of object entries included. -/
def decEq : (a b : Json) → Decidable (a = b)
  | null, null => isTrue rfl
  | bool a, bool b => decidable_of_iff (a = b) (by rw [bool.injEq])
  | num a, num b => decidable_of_iff (a = b) (by rw [num.injEq])
  | str a, str b => decidable_of_iff (a = b) (by rw [str.injEq])
  | arr a, arr b =>
    have := decEqItems a b
    decidable_of_iff (a = b) (by rw [arr.injEq])
  | obj a, obj b =>
    have := decEqEntries a b
    decidable_of_iff (a = b) (by rw [obj.injEq])
  | null, bool _ | null, num _ | null, str _ | null, arr _ | null, obj _
  | bool _, null | bool _, num _ | bool _, str _ | bool _, arr _ | bool _, obj _
  | num _, null | num _, bool _ | num _, str _ | num _, arr _ | num _, obj _
  | str _, null | str _, bool _ | str _, num _ | str _, arr _ | str _, obj _
  | arr _, null | arr _, bool _ | arr _, num _ | arr _, str _ | arr _, obj _
  | obj _, null | obj _, bool _ | obj _, num _ | obj _, str _ | obj _, arr _ => isFalse (by simp)

/-- Decides whether two arrays are the same, item by item. -/
def decEqItems : (as bs : List Json) → Decidable (as = bs)
  | [], [] => isTrue rfl
  | [], _ :: _ | _ :: _, [] => isFalse (by simp)
  | a :: as, b :: bs =>
    have := decEq a b
    have := decEqItems as bs
    decidable_of_iff (a = b ∧ as = bs) (by rw [List.cons.injEq])

/-- Decides whether two objects are the same, entry by entry. -/
def decEqEntries : (as bs : List (String × Json)) → Decidable (as = bs)
  | [], [] => isTrue rfl
  | [], _ :: _ | _ :: _, [] => isFalse (by simp)
  | (key, a) :: as, (key', b) :: bs =>
    have := decEq a b
    have := decEqEntries as bs
    decidable_of_iff ((key = key' ∧ a = b) ∧ as = bs) (by rw [List.cons.injEq, Prod.mk.injEq])

end

instance : DecidableEq Json :=
  decEq

/-! ### Equality up to the order of entries -/

mutual

/-- Equality of values, the order of object entries apart. -/
def sameValue : Json → Json → Bool
  | null, null => true
  | bool a, bool b => a == b
  | num a, num b => a.sameNumber b
  | str a, str b => a == b
  | arr a, arr b => sameItems a b
  | obj a, obj b => a.length == b.length && sameEntries a b
  | _, _ => false

/-- Equality of arrays, item by item. -/
def sameItems : List Json → List Json → Bool
  | [], [] => true
  | a :: as, b :: bs => sameValue a b && sameItems as bs
  | _, _ => false

/-- Whether every entry of the first list has its like in the second. -/
def sameEntries : Entries Json → Entries Json → Bool
  | [], _ => true
  | (key, a) :: rest, others =>
    (match Entries.get? others key with
      | some b => sameValue a b
      | none => false) && sameEntries rest others

end

end Json

end SchemaCompiler
