/-
RouteAccess/Service/Session.lean

Sessions with a service: requests, one after the other, and changes of files
between them.

A request meets the guard first.  What the guard does not answer itself is led
to its endpoint, and then counted and logged; a breakdown on the way is
answered with an internal error, and neither counted nor logged as a request.
-/
import RouteAccess.Service.Endpoint

namespace RouteAccess

/-- What came of a request: the reply, what was logged, and what broke down. -/
structure Exchange where
  reply : Reply
  events : List Event
  broken : Option Breakdown := none

namespace Service

/-! ### Leading a request to its endpoint -/

/-- What a service makes of a request that the guard lets pass. -/
def route (s : Service) (store : FileStore) (r : Request) : Handled :=
  match Routing.find s.routes r.method r.path with
  | .found route => s.handle store r route.target
  | .wrongMethod route =>
    .ok (s, { Reply.ofDetail 405 "Method Not Allowed" with allow := route.methods }, [])
  | .moved path => .ok (s, ⟨307, .nothing, some (r.addressOf path), []⟩, [])
  | .unknown => .ok (s, .ofDetail 404 "Not Found", [])

/-- The label under which a request is counted: the path of its route, or the
path that was asked for if there is no route. -/
def endpointLabel (s : Service) (r : Request) : String :=
  match Routing.find s.routes r.method r.path with
  | .found route => route.path
  | .wrongMethod route => route.path
  | _ => r.seenPath

/-- The event about an answered request. -/
def requestEvent (s : Service) (r : Request) (subjects : Option String) (status : Nat) : Event :=
  ⟨s.name, .info, "HTTP request",
    [("method", .str r.method), ("path", .str r.seenPath), ("status_code", .int status),
      ("subjects", .ofText? subjects)]⟩

/-- The service with an answered request counted. -/
def count (s : Service) (r : Request) (label : String) (status : Nat) : Service :=
  { s with metrics := s.metrics.recordRequest r.method label (toString status) instantly }

/-- The answer to a request that nobody could deal with. -/
def breakDown (s : Service) (events : List Event) (b : Breakdown) : Service × Exchange :=
  (s, ⟨.internal, events ++ [⟨s.name, .error, "Unhandled exception", []⟩], some b⟩)

/-- The answer to a request that the guard lets pass with these subjects. -/
def serve (s : Service) (store : FileStore) (r : Request) (subjects : Option String)
    (before : List Event) : Service × Exchange :=
  match s.route store r with
  | .error b => s.breakDown before b
  | .ok (s', reply, events) =>
    match reply.unsendable? with
    | some fault => s'.breakDown (before ++ events) (.reply fault)
    -- only what is sent is counted, by the status that it is sent with
    | none =>
      (s'.count r (s.endpointLabel r) reply.status,
        ⟨reply, before ++ events ++ [s.requestEvent r subjects reply.status], none⟩)

/-! ### Answering -/

/-- The service with the decision of its guard counted. -/
def recordVerdict (s : Service) (r : Request) (v : Verdict) : Service :=
  { s with metrics := v.record r instantly s.metrics }

/-- The answer to a request. -/
def answer (s : Service) (store : FileStore) (now : Clock) (r : Request) : Service × Exchange :=
  match s.desk with
  | none => s.serve store r none []
  | some desk =>
    let v := desk.guard.judge desk.guardian.current.rules now r
    let s := s.recordVerdict r v
    match v.outcome r with
    | .forwarded subjects => s.serve store r subjects v.events
    | .answered reply => (s, ⟨reply, v.events, none⟩)
    | .stopped stop => s.breakDown v.events (.resolver stop)
    | .unsendable fault => s.breakDown v.events (.reply fault)

/-! ### Sessions -/

/-- One step of a session. -/
inductive Step
  /-- a request at an instant, with what the clocks show then -/
  | request (now : Clock) (r : Request)
  /-- other files -/
  | files (store : FileStore)
  /-- another access file -/
  | accessFile (name : Option String)

/-- A service with the files that it sees. -/
structure Site where
  service : Service
  store : FileStore

namespace Site

/-- The service with another access file. -/
def withAccessFile (service : Service) (name : Option String) : Service :=
  { service with
    desk := service.desk.map fun desk =>
      { desk with guardian := { desk.guardian with accessFile := name } } }

/-- A site after one step, and what came of a request. -/
def step (site : Site) : Step → Site × Option Exchange
  | .request now r =>
    let (service, exchange) := site.service.answer site.store now r
    ({ site with service := service }, some exchange)
  | .files store => ({ site with store := store }, none)
  | .accessFile name => ({ site with service := withAccessFile site.service name }, none)

/-- A site after the steps of a session, and what came of each of them. -/
def run (site : Site) : List Step → Site × List (Option Exchange)
  | [] => (site, [])
  | s :: rest =>
    let (site, exchange) := site.step s
    let (site, exchanges) := run site rest
    (site, exchange :: exchanges)

end Site

end Service

end RouteAccess
