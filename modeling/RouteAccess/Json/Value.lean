/-
RouteAccess/Json/Value.lean

JSON values.  Whole numbers and floating-point numbers are kept apart, as the
way they are written tells; the fields of an object keep their order, and a
name occurs once.
-/
import RouteAccess.Number.Binary64
import RouteAccess.Text.Surrogate

namespace RouteAccess

/-- A JSON value. -/
inductive Json
  | null
  | bool (b : Bool)
  | int (n : Int)
  | float (x : Binary64)
  | str (s : String)
  | arr (items : List Json)
  | obj (fields : List (String × Json))

namespace Json

instance : Inhabited Json := ⟨null⟩

/-! ### Fields -/

/-- The fields with `name` set to `value`: in its place if the name is there,
else at the end. -/
def put (fields : List (String × Json)) (name : String) (value : Json) : List (String × Json) :=
  match fields with
  | [] => [(name, value)]
  | (n, v) :: rest => if n = name then (n, value) :: rest else (n, v) :: put rest name value

/-- The value of a field of an object. -/
def get? : Json → String → Option Json
  | obj fields, name => fields.lookup name
  | _, _ => none

/-- The object with these fields, the last of two values of one name counting. -/
def ofFields (fields : List (String × Json)) : Json :=
  obj (fields.foldl (fun acc f => put acc f.1 f.2) [])

/-! ### Reading off one kind of value -/

/-- The text of a text value. -/
def text? : Json → Option String
  | str s => some s
  | _ => none

/-- The truth value of a truth value. -/
def bool? : Json → Option Bool
  | bool b => some b
  | _ => none

/-- The number of a whole number. -/
def int? : Json → Option Int
  | int n => some n
  | _ => none

/-- The items of an array. -/
def items? : Json → Option (List Json)
  | arr items => some items
  | _ => none

/-- The fields of an object. -/
def fields? : Json → Option (List (String × Json))
  | obj fields => some fields
  | _ => none

/-- Whether a value is null. -/
def isNull : Json → Bool
  | null => true
  | _ => false

/-- Whether a value stands for nothing: null, false, zero, or what is empty. -/
def isNothing : Json → Bool
  | null => true
  | bool b => !b
  | int n => n == 0
  | float x => x.isZero
  | str s => s == ""
  | arr items => items.isEmpty
  | obj fields => fields.isEmpty

/-- A text or null. -/
def ofText? : Option String → Json
  | some s => str s
  | none => null

/-- An array of texts. -/
def ofTexts (texts : List String) : Json :=
  arr (texts.map str)

/-! ### Finite numbers -/

mutual

/-- Whether all numbers in a value are finite. -/
def allFinite : Json → Bool
  | .float x => x.truncate?.isSome
  | .arr items => itemsFinite items
  | .obj fields => fieldsFinite fields
  | _ => true

/-- Whether all numbers in the items are finite. -/
def itemsFinite : List Json → Bool
  | [] => true
  | item :: rest => item.allFinite && itemsFinite rest

/-- Whether all numbers in the fields are finite. -/
def fieldsFinite : List (String × Json) → Bool
  | [] => true
  | (_, value) :: rest => value.allFinite && fieldsFinite rest

end

/-! ### Whole texts -/

mutual

/-- Whether a text in a value has half of a pair of surrogates. -/
def hasHalf : Json → Bool
  | .str s => Surrogate.hasHalf s
  | .arr items => itemsHaveHalf items
  | .obj fields => fieldsHaveHalf fields
  | _ => false

/-- Whether a text in the items has half of a pair of surrogates. -/
def itemsHaveHalf : List Json → Bool
  | [] => false
  | item :: rest => item.hasHalf || itemsHaveHalf rest

/-- Whether a text in the fields has half of a pair of surrogates. -/
def fieldsHaveHalf : List (String × Json) → Bool
  | [] => false
  | (name, value) :: rest => Surrogate.hasHalf name || value.hasHalf || fieldsHaveHalf rest

end

end Json

end RouteAccess
