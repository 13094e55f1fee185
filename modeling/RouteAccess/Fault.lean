/-
RouteAccess/Fault.lean

Faults that callers are told about: each has a kind, which fixes the status of
the answer, a code, a message and details.
-/
import RouteAccess.Form
import RouteAccess.Trace

namespace RouteAccess

/-! ### Kinds -/

/-- What kind of fault stopped a request or a statement. -/
inductive FaultKind
  | general
  | authentication
  | authorization
  | validation
  | ruleSyntax
  | configuration
deriving DecidableEq, Repr

namespace FaultKind

/-- The kind and all the kinds above it, up to the general one. -/
def lineage : FaultKind → List FaultKind
  | general => [general]
  | ruleSyntax => [ruleSyntax, validation, general]
  | kind => [kind, general]

/-- The status of an answer that reports a fault of this kind. -/
def status : FaultKind → Nat
  | general => 400
  | authentication => 401
  | authorization => 403
  | validation => 400
  | ruleSyntax => 400
  | configuration => 500

/-- The code of a kind; a general fault brings its own. -/
def code? : FaultKind → Option String
  | general => none
  | authentication => some "AUTHENTICATION_ERROR"
  | authorization => some "AUTHORIZATION_ERROR"
  | validation => some "VALIDATION_ERROR"
  | ruleSyntax => some "RULE_SYNTAX_ERROR"
  | configuration => some "CONFIGURATION_ERROR"

/-- The message of a fault that brings none; a general fault has to bring one. -/
def message? : FaultKind → Option String
  | general => none
  | authentication => some "Authentication failed"
  | authorization => some "Access denied"
  | validation => some "Validation failed"
  | ruleSyntax => some "Invalid guard rule"
  | configuration => some "Configuration error"

/-- Whether a fault of this kind may bring a code of its own. -/
def takesCode : FaultKind → Bool
  | general => true
  | validation => true
  | _ => false

end FaultKind

/-! ### Faults -/

/-- A fault with all that is reported about it. -/
structure Fault where
  kind : FaultKind
  code : String
  message : String
  details : List (String × Json)

namespace Fault

/-- A fault of a kind, with the code of the kind. -/
def ofKind (kind : FaultKind) (message : String) (details : List (String × Json)) : Fault :=
  ⟨kind, kind.code?.getD "", message, details⟩

/-- Details from a value: an object, or what stands for nothing. -/
def detailsForm : Json → Form (List (String × Json))
  | .obj fields => .valid fields
  | value => if value.isNothing then .valid [] else .fault .notTable

/-- A fault from the parts that are given; the kind supplies the others.  There
is none if a part is missing, or given where the kind has none of its own. -/
def assemble? (kind : FaultKind) (code message details : Option Json) : Option (Form Fault) :=
  if code.isSome && !kind.takesCode then none
  else do
    let code ← code <|> kind.code?.map .str
    let message ← message <|> kind.message?.map .str
    return ((Form.valid (Fault.mk kind)).ap ((Form.text code).below (.key "code"))
      |>.ap ((Form.text message).below (.key "message"))).ap
        ((detailsForm (details.getD .null)).below (.key "details"))

/-- The status of an answer that reports the fault. -/
def status (fault : Fault) : Nat :=
  fault.kind.status

/-- The body of an answer that reports the fault, within a span if one is
recorded. -/
def body (fault : Fault) (span : Option TraceSpan) : Json :=
  .obj [("trace_id", .ofText? (span.bind TraceSpan.traceText?)), ("code", .str fault.code),
    ("message", .str fault.message), ("details", .obj fault.details)]

end Fault

end RouteAccess
