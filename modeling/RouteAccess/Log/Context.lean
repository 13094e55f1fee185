/-
RouteAccess/Log/Context.lean

What the events of one request have in common, and how it is added to their
fields: the service, by the first part of the name of the logger; the trace and
span in which they happen; the number of the request; and its subjects, unless
the event speaks of subjects itself.
-/
import RouteAccess.Json.Value
import RouteAccess.Trace

namespace RouteAccess

/-- What the events of one request have in common. -/
structure LogContext where
  requestId : Option String := none
  subjects : Option String := none
deriving DecidableEq, Repr

/-- Why the service cannot be told from the logger of an event. -/
inductive LoggerFault
  /-- the logger is no text, and nothing that has parts -/
  | noText
  /-- the logger has a point among its parts but cannot be cut there -/
  | noParts
deriving DecidableEq, Repr

namespace LogContext

/-! ### Changes -/

/-- The context of a request with this number. -/
def ofRequest (c : LogContext) (id : String) : LogContext :=
  { c with requestId := some id }

/-- The context with these subjects, if there are any. -/
def withSubjects (c : LogContext) (subjects : Option String) : LogContext :=
  match subjects with
  | none => c
  | some s => if s = "" then c else { c with subjects := some s }

/-! ### Fields -/

/-- The field of a text, unless it is empty. -/
def textField (name : String) (value : Option String) (fields : List (String × Json)) :
    List (String × Json) :=
  match value with
  | none => fields
  | some s => if s = "" then fields else Json.put fields name (.str s)

/-- The fields with the service that the logger belongs to. -/
def addService (fields : List (String × Json)) : Except LoggerFault (List (String × Json)) :=
  match (fields.lookup "logger").getD (.str "") with
  | .str s =>
    if s.contains '.' then
      .ok (Json.put fields "service" (.str (String.ofList (s.toList.takeWhile (· ≠ '.')))))
    else .ok fields
  | .arr items =>
    if items.any fun item => item.text? = some "." then .error .noParts else .ok fields
  | .obj parts => if (parts.lookup ".").isSome then .error .noParts else .ok fields
  | _ => .error .noText

/-- The fields with the trace and the span, if there are any. -/
def addTrace (span : Option TraceSpan) (fields : List (String × Json)) : List (String × Json) :=
  textField "span_id" (span.bind TraceSpan.spanText?)
    (textField "trace_id" (span.bind TraceSpan.traceText?) fields)

/-- The fields with the number of the request, and with its subjects unless they
have subjects already. -/
def addRequest (c : LogContext) (fields : List (String × Json)) : List (String × Json) :=
  let fields := textField "request_id" c.requestId fields
  if (fields.lookup "subjects").isSome then fields else textField "subjects" c.subjects fields

/-- The fields with all that is added to them. -/
def enrich (c : LogContext) (span : Option TraceSpan) (fields : List (String × Json)) :
    Except LoggerFault (List (String × Json)) :=
  (addService fields).map fun fields => c.addRequest (addTrace span fields)

end LogContext

end RouteAccess
