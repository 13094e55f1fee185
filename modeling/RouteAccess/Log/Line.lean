/-
RouteAccess/Log/Line.lean

From a call of a logger to the line that is written: the level decides whether
there is one; the name of the logger and the severity are set; the values are
filled into the event; and the context is added.
-/
import RouteAccess.Log.Context
import RouteAccess.Log.Level
import RouteAccess.Log.Template

namespace RouteAccess

/-- A call of a logger. -/
structure LogCall where
  severity : Severity
  event : Option Json
  values : List Json := []
  fields : List (String × Json) := []

/-- Why a call fails. -/
inductive LogFault
  /-- a field has a name that the call uses itself -/
  | reservedField
  /-- values, but no event to fill them into -/
  | noEvent
  /-- values, but an event that is no text -/
  | eventNotText
  /-- a field of values that has no length -/
  | noLength
  /-- a field of values with one name, and so without a first value -/
  | noFirst
  /-- a field of a record that is none -/
  | noRecord
  | template (fault : Template.Fault)
  | logger (fault : LoggerFault)
deriving DecidableEq, Repr

/-- A logger as it is set up. -/
structure Logger where
  level : Nat
  name : String
  context : LogContext := {}
  span : Option TraceSpan := none

namespace Logger

/-- The names that no field may have. -/
def reserved : List String := ["self", "event", "method_name"]

/-- The fields that are taken out of a line: marks that ask for more about the
place of the call. -/
def marks : List String := ["exc_info", "stack_info"]

/-- The name that a logger writes; the one without a name is the root of all. -/
def shownName (l : Logger) : String :=
  if l.name = "" then "root" else l.name

/-- The fields of a call with its event. -/
def withEvent (fields : List (String × Json)) : Option Json → List (String × Json)
  | none => fields
  | some e => Json.put fields "event" e

/-- The name of the field that may hold the values of a call that has none. -/
def valuesField : String := "positional_args"

/-- The name of the field for a record that names its logger; only null may stand
there. -/
def recordField : String := "_record"

/-- The values of a call: its own ones, or else those in their field. -/
def valuesOf (values : List Json) (fields : List (String × Json)) :
    Except LogFault (Option Template.Values) :=
  if !values.isEmpty then .ok (some (.each values))
  else
    match fields.lookup valuesField with
    | none => .ok none
    | some value =>
      if value.isNothing then .ok none
      else
        match value with
        | .str _ => .ok (some (.one value))
        | .arr _ => .ok (some (.one value))
        -- one field is taken for one value, and the first of its values is asked for in vain
        | .obj [_] => .error .noFirst
        | .obj _ => .ok (some (.one value))
        | _ => .error .noLength

/-- The fields without the field of values, unless that holds null and the call
has no values. -/
def dropValues (values : List Json) (fields : List (String × Json)) : List (String × Json) :=
  fields.filter fun f => f.1 ≠ valuesField || (values.isEmpty && f.2.isNull)

/-- The fields with the values filled into the event, if there are values. -/
def fillEvent (values : List Json) (fields : List (String × Json)) :
    Except LogFault (List (String × Json)) := do
  let fields' := dropValues values fields
  match ← valuesOf values fields with
  | none => return fields'
  | some values =>
    match fields.lookup "event" with
    | none => .error .noEvent
    | some (.str template) =>
      match Template.fill template values with
      | .ok s => return Json.put fields' "event" (.str s)
      | .error e => .error (.template e)
    | some _ => .error .eventNotText

/-- The fields of the line of a call, without the time; a call below the level
has none. -/
def line (l : Logger) (call : LogCall) : Except LogFault (Option (List (String × Json))) :=
  if call.fields.any fun f => reserved.contains f.1 then .error .reservedField
  else if call.severity.rank < l.level then .ok none
  else if ((call.fields.lookup recordField).any (!·.isNull)) then .error .noRecord
  else do
    let fields := withEvent call.fields call.event
    let fields := Json.put fields "logger" (.str l.shownName)
    let fields := Json.put fields "level" (.str call.severity.word)
    let fields ← fillEvent call.values fields
    let fields := fields.filter fun f => !marks.contains f.1 && f.1 ≠ "timestamp"
    match l.context.enrich l.span fields with
    | .ok fields => return some fields
    | .error e => throw (.logger e)

end Logger

end RouteAccess
