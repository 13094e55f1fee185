/-
RouteAccess/Event.lean

Events that are logged: who reports what, how serious it is, and what belongs
to it.
-/
import RouteAccess.Json.Value

namespace RouteAccess

/-- How serious an event is. -/
inductive Severity
  | debug
  | info
  | warning
  | error
  | critical
deriving DecidableEq, Repr

namespace Severity

/-- The word for a severity. -/
def word : Severity → String
  | debug => "debug"
  | info => "info"
  | warning => "warning"
  | error => "error"
  | critical => "critical"

/-- The rank of a severity. -/
def rank : Severity → Nat
  | debug => 10
  | info => 20
  | warning => 30
  | error => 40
  | critical => 50

end Severity

/-- An event as it is logged. -/
structure Event where
  logger : String
  severity : Severity
  name : String
  fields : List (String × Json) := []

end RouteAccess
