/-
RouteAccess/Http/Route.lean

Routes: which path, by which methods, leads where.  Paths have to be equal, an
end of line after a path apart.  A path that leads nowhere, but would with the
slashes at its end taken off, or with one put on, is sent there.
-/
import RouteAccess.Http.Address
import RouteAccess.Http.Host
import RouteAccess.Http.Request

namespace RouteAccess

/-- A path with its methods and where it leads. -/
structure Route (α : Type) where
  path : String
  methods : List String
  target : α

/-- Whether a route is for a path. -/
def Route.takes {α : Type} (r : Route α) (path : String) : Bool :=
  path = r.path || path = r.path ++ "\n"

/-- Where a request leads. -/
inductive Routing (α : Type)
  | found (route : Route α)
  | wrongMethod (route : Route α)
  | moved (path : String)
  | unknown

namespace Routing

variable {α : Type}

/-- The path without the slashes at its end, or with one if there is none. -/
def slashTwin (path : String) : String :=
  let cs := path.toList
  if cs.getLast? = some '/' then
    String.ofList (cs.reverse.dropWhile (· = '/')).reverse
  else String.ofList (cs ++ ['/'])

/-- Where a request with a method and a path leads. -/
def find (routes : List (Route α)) (method path : String) : Routing α :=
  match routes.find? fun r => r.takes path && r.methods.contains method with
  | some route => .found route
  | none =>
    match routes.find? fun r => r.takes path with
    | some route => .wrongMethod route
    | none =>
      -- the root has no twin
      if path ≠ "/" && routes.any fun r => r.takes (slashTwin path) then .moved (slashTwin path)
      else .unknown

end Routing

namespace Request

/-- The host of the requests that name none. -/
def defaultHost : String := "testserver"

/-- The host of a request. -/
def host (r : Request) : String :=
  match r.header? "host" with
  | some name => if Host.isHost name then name else defaultHost
  | none => defaultHost

/-- The address of another path on the host of a request. -/
def addressOf (r : Request) (path : String) : String :=
  let query := if r.query = "" then "" else "?" ++ r.query
  Address.quoted ("http://" ++ r.host ++ path ++ query)

end Request

end RouteAccess
