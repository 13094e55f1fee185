/-
RouteAccess/Service/Endpoint.lean

What a service does when it is asked for one of its endpoints.  Only two of
them change anything: a question about access counts a decision, and a reload
may put new rules into force.
-/
import RouteAccess.Metrics.Exposition
import RouteAccess.Service.Basic
import RouteAccess.Service.Query

namespace RouteAccess

/-- Why a request cannot be dealt with. -/
inductive Breakdown
  | resolver (stop : ResolverStop)
  | path (fault : PathFault)
  /-- the reply cannot be sent -/
  | reply (fault : Unsendable)

/-- What an endpoint makes of a request: the service as it is then, the reply,
and what is logged. -/
abbrev Handled := Except Breakdown (Service × Reply × List Event)

namespace Service

/-- The duration that is recorded where none is measured. -/
def instantly : Binary64 := .zero

/-! ### Health -/

/-- What is said about a name that cannot be looked up. -/
def lookupError (fault : PathFault) (name : String) : String :=
  let reason := match fault with
    | .refused => "[Errno 13] Permission denied: "
    | _ => "[Errno 36] File name too long: "
  reason ++ Text.quoted (FileStore.normal name)

/-- What the service depends on, and whether it is there. -/
def dependencies (s : Service) (store : FileStore) : Except String (List (String × Json)) :=
  match s.desk with
  | none => .ok []
  | some _ =>
    match store.isFile s.settings.accessFile with
    | .ok true => .ok [("access_file", .str "ok")]
    | .ok false => .ok [("access_file", .str "missing")]
    | .error fault => .error (lookupError fault s.settings.accessFile)

/-- The state of the service. -/
def health (s : Service) (store : FileStore) : Handled :=
  match s.dependencies store with
  | .ok found =>
    .ok ({ s with metrics := s.metrics.recordHealthCheck "ok" },
      .ofJson 200
        [("service", .str s.name), ("status", .str "ok"), ("dependencies", .obj found),
          ("version", .str Metrics.version), ("commit", .str "unknown")],
      [])
  | .error e =>
    .ok ({ s with metrics := s.metrics.recordHealthCheck "error" },
      .ofJson 503 [("service", .str s.name), ("status", .str "error"), ("error", .str e)],
      [⟨s.name, .error, "Health check failed", [("error", .str e)]⟩])

/-! ### Access -/

/-- What the service is for. -/
def about (s : Service) : Handled :=
  .ok (s,
    .ofJson 200
      [("service", .str deskName), ("message", .str "Route Guardian - Decision Service"),
        ("version", .str Metrics.version), ("guarded_path", .str s.settings.guardedPath),
        ("capabilities",
          .ofTexts ["rule_engine", "jwt_subjects", "api_key_subjects", "hot_reload"])],
    [])

/-- A rule as it is listed. -/
def ruleJson (r : Rule) : Json :=
  .obj [("policy", .str r.policy.word), ("verb", .str r.verb), ("path", .str r.path),
    ("subject", .str r.subject)]

/-- A decision as it is told. -/
def decisionFields (d : Decision) : List (String × Json) :=
  [("granted", .bool d.granted), ("reason", .str d.reason.text), ("tier", .str d.tier.word),
    ("matched_rules", .arr (d.matched.map ruleJson))]

/-- The answer to a question about access.  Without subjects it is about the
anonymous subject. -/
def check (s : Service) (desk : Desk) (r : Request) : Handled :=
  match AccessQuery.ofRequest r with
  | .error .unreadable => .ok (s, .ofDetail 400 "There was an error parsing the body", [])
  | .error (.faulty report) => .ok (s, .ofJson 422 [("detail", report)], [])
  | .ok q =>
    let subjects := q.subjects.getD s.settings.anonymousSubject
    let decision := desk.guardian.evaluate (some q.verb) (some q.path) (some subjects)
    .ok ({ s with metrics := s.metrics.recordDecision q.verb decision.granted instantly },
      .ofJson 200 (decisionFields decision), [])

/-- The rules in force. -/
def listing (s : Service) (desk : Desk) : Handled :=
  let rules := desk.guardian.current.rules
  .ok (s,
    .ofJson 200
      [("default_policy", .str rules.default.word), ("rules", .arr (rules.rules.map ruleJson)),
        ("total", .int rules.size)],
    [])

/-- The fault of a service that has no access file. -/
def noAccessFile : Fault :=
  .ofKind .configuration "No access file configured" []

/-- A reply that reports a fault, and the event about it. -/
def refuse (s : Service) (fault : Fault) : Handled :=
  .ok (s, .ofFault fault,
    [⟨s.name, .error, "Route guardian error",
      [("code", .str fault.code), ("message", .str fault.message),
        ("details", .obj fault.details)]⟩])

/-- The rules read anew. -/
def reload (s : Service) (desk : Desk) (store : FileStore) : Handled :=
  match desk.guardian.accessFile with
  | none => s.refuse noAccessFile
  | some name =>
    if name = "" then s.refuse noAccessFile
    else
      match desk.guardian.reload store with
      | .error e => .error (.path e)
      | .ok (reloaded, guardian, notices) =>
        .ok ({ s with
            metrics := s.metrics.recordRuleLoad (if reloaded then "ok" else "unchanged")
            desk := some { desk with guardian := guardian } },
          .ofJson 200
            ([("reloaded", .bool reloaded), ("access_file", .str name)] ++ guardian.figures),
          notices.map LoadNotice.event)

/-! ### All endpoints -/

/-- What a service does with a request for an endpoint. -/
def handle (s : Service) (store : FileStore) (r : Request) : Endpoint → Handled
  | .page => .ok (s, ⟨200, .nothing, none, []⟩, [])
  | .health => s.health store
  | .metrics => .ok (s, ⟨200, .lines s.metrics.exposition, none, []⟩, [])
  | .root => s.about
  | endpoint =>
    -- without a desk there are none of the routes below
    match s.desk with
    | none => .ok (s, .ofDetail 404 "Not Found", [])
    | some desk =>
      match endpoint with
      | .check => s.check desk r
      | .rules => s.listing desk
      | .reload => s.reload desk store
      | _ => .ok (s, .ofDetail 404 "Not Found", [])

end Service

end RouteAccess
