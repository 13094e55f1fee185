/-
RouteAccess/Form.lean

Values that should have a certain form.  Every part is checked, so that all
faults are found, each with the way that leads to it.
-/
import RouteAccess.Json.Value

namespace RouteAccess

/-! ### Faults -/

/-- One step on the way to a part of a value. -/
inductive FormStep
  | key (name : String)
  | index (n : Nat)
deriving DecidableEq, Repr

/-- What is wrong with a part of a value. -/
inductive FormKind
  | missing
  | notText
  | notList
  | notObject
  | notRecord
  | notTable
  | notJson
  | notMoment
  | momentRange
  | momentText
  | notBool
  | boolText
  | notInt
  | intText
  | intSize
  | intFraction
  | notFinite
deriving DecidableEq, Repr

/-- The word for what is wrong. -/
def FormKind.word : FormKind → String
  | missing => "missing"
  | notText => "string_type"
  | notList => "list_type"
  | notObject => "model_type"
  | notRecord => "model_attributes_type"
  | notTable => "dict_type"
  | notJson => "json_invalid"
  | notMoment => "datetime_type"
  | momentRange => "datetime_parsing"
  | momentText => "datetime_from_date_parsing"
  | notBool => "bool_type"
  | boolText => "bool_parsing"
  | notInt => "int_type"
  | intText => "int_parsing"
  | intSize => "int_parsing_size"
  | intFraction => "int_from_float"
  | notFinite => "finite_number"

/-- A fault and the way to it. -/
structure FormFault where
  path : List FormStep
  kind : FormKind
deriving DecidableEq, Repr

/-! ### Checked values -/

/-- A value of the right form, or all that is wrong with it. -/
inductive Form (α : Type)
  | valid (a : α)
  | faulty (faults : List FormFault)

namespace Form

variable {α β γ : Type}

/-- The faults, if there are any. -/
def faults : Form α → List FormFault
  | valid _ => []
  | faulty fs => fs

/-- One fault, right here. -/
def fault (kind : FormKind) : Form α :=
  faulty [⟨[], kind⟩]

/-- The value with a function applied to it. -/
def map (f : α → β) : Form α → Form β
  | valid a => valid (f a)
  | faulty fs => faulty fs

/-- A function with its argument; the faults of both add up. -/
def ap : Form (α → β) → Form α → Form β
  | valid f, valid a => valid (f a)
  | valid _, faulty fs => faulty fs
  | faulty fs, valid _ => faulty fs
  | faulty fs, faulty gs => faulty (fs ++ gs)

/-- A part, reached by one step. -/
def below (step : FormStep) : Form α → Form α
  | valid a => valid a
  | faulty fs => faulty (fs.map fun f => { f with path := step :: f.path })

/-- The items of a list, from an index on. -/
def each (check : Json → Form α) : Nat → List Json → Form (List α)
  | _, [] => valid []
  | n, item :: rest =>
    (((check item).below (.index n)).map List.cons).ap (each check (n + 1) rest)

/-! ### Simple values -/

/-- A text. -/
def text : Json → Form String
  | .str s => valid s
  | _ => fault .notText

/-- A text or null. -/
def textOrNull : Json → Form (Option String)
  | .null => valid none
  | .str s => valid (some s)
  | _ => fault .notText

/-- A list of values of one form. -/
def list (check : Json → Form α) : Json → Form (List α)
  | .arr items => each check 0 items
  | _ => fault .notList

/-! ### Fields -/

/-- A field that has to be there, under the first of its names that occurs. -/
def required (names : List String) (check : Json → Form α) (fields : List (String × Json)) :
    Form α :=
  match names.findSome? fun n => (fields.lookup n).map (n, ·) with
  | some (n, v) => (check v).below (.key n)
  | none => (fault .missing : Form α).below (.key (names.headD ""))

/-- A field that may be missing, under the first of its names that occurs. -/
def optional (names : List String) (default : α) (check : Json → Form α)
    (fields : List (String × Json)) : Form α :=
  match names.findSome? fun n => (fields.lookup n).map (n, ·) with
  | some (n, v) => (check v).below (.key n)
  | none => valid default

/-- A value whose fields are checked. -/
def object (check : List (String × Json) → Form α) : Json → Form α
  | .obj fields => check fields
  | _ => fault .notObject

end Form

end RouteAccess
