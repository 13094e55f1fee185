/-
RouteAccess/Guard.lean

The guard before an application.  It looks at requests whose path starts with
one of its prefixes, asks its resolvers in order until one of them knows who
sends the request, and lets the request pass if the rules in force grant it.
A request of nobody known, and one that is denied, is answered by the guard.
-/
import RouteAccess.Guardian
import RouteAccess.Http.Reply
import RouteAccess.Log.Context
import RouteAccess.Metrics.Basic
import RouteAccess.Subject.Resolver

namespace RouteAccess

/-- A guard: the prefixes of the paths it looks at, and whom it asks. -/
structure Guard where
  prefixes : List String
  resolvers : List Resolver

/-! ### Verdicts -/

/-- What becomes of a request. -/
inductive Passage
  /-- no prefix fits: the request passes without being looked at -/
  | unguarded
  /-- the request is granted to these subjects -/
  | granted (subjects : String)
  /-- the request is denied to these subjects -/
  | denied (subjects : String)
  /-- nobody knows who sends the request -/
  | nobody
  /-- a resolver came to a stop -/
  | stopped (stop : ResolverStop)

/-- What becomes of a request, what is logged, and how many resolvers were
asked. -/
structure Verdict where
  passage : Passage
  events : List Event
  asked : Nat

/-- What comes of a request at a guard. -/
inductive Outcome
  /-- the application is called, with these subjects in the state of the request -/
  | forwarded (subjects : Option String)
  /-- the guard answers -/
  | answered (reply : Reply)
  /-- a resolver came to a stop -/
  | stopped (stop : ResolverStop)
  /-- the answer of the guard cannot be sent -/
  | unsendable (fault : Unsendable)

/-- What comes of a request that a guard answers with a reply. -/
def Outcome.ofReply (reply : Reply) : Outcome :=
  match reply.unsendable? with
  | none => .answered reply
  | some fault => .unsendable fault

namespace Verdict

/-- The subjects that a request passes with. -/
def subjects? (v : Verdict) : Option String :=
  match v.passage with
  | .granted subjects => some subjects
  | _ => none

/-- The context of the events that follow. -/
def context (v : Verdict) : LogContext :=
  match v.passage with
  | .granted subjects => ({} : LogContext).withSubjects (some subjects)
  | .denied subjects => ({} : LogContext).withSubjects (some subjects)
  | _ => {}

/-- The fault that a request is answered with. -/
def fault? (v : Verdict) (r : Request) : Option Fault :=
  let details := [("method", Json.str r.method), ("path", .str r.seenPath)]
  match v.passage with
  | .nobody =>
    some (.ofKind .authentication "Authentication failed (not authenticated)" details)
  | .denied subjects =>
    some (.ofKind .authorization "Access denied" (details ++ [("subjects", .str subjects)]))
  | _ => none

/-- What comes of a request. -/
def outcome (v : Verdict) (r : Request) : Outcome :=
  match v.passage with
  | .stopped stop => .stopped stop
  | _ =>
    match v.fault? r with
    | none => .forwarded v.subjects?
    | some fault => .ofReply (.ofFault fault)

/-- The metrics with the decision about a request, if there was one. -/
def record (v : Verdict) (r : Request) (seconds : Binary64) (m : Metrics) : Metrics :=
  match v.passage with
  | .granted _ => m.recordDecision r.method true seconds
  | .denied _ => m.recordDecision r.method false seconds
  | _ => m

end Verdict

namespace Guard

/-! ### Judging -/

/-- The name under which guards report. -/
def logger : String := "guardian.middleware"

/-- Whether a guard looks at a path. -/
def guards (g : Guard) (path : String) : Bool :=
  g.prefixes.any fun p => p.toList.isPrefixOf path.toList

/-- A notice about a request. -/
def notice (name : String) (r : Request) (more : List (String × Json)) : Event :=
  ⟨logger, .warning, name, [("method", .str r.method), ("path", .str r.seenPath)] ++ more⟩

/-- What becomes of a request whose sender is known. -/
def decide (rules : RuleSet) (r : Request) (subjects : String) : Verdict :=
  if (rules.evaluate (some r.method) (some r.seenPath) (some subjects)).granted then
    ⟨.granted subjects, [], 0⟩
  else
    -- the word is for the notice; the decision is about no subjects
    let shown := if subjects = "" then "missing" else subjects
    ⟨.denied subjects, [notice "Unauthorized - access denied" r [("subjects", .str shown)]], 0⟩

/-- What becomes of a request, by the resolvers that are still to be asked. -/
def ask (rules : RuleSet) (now : Clock) (r : Request) : List Resolver → Verdict
  | [] => ⟨.nobody, [notice "Forbidden - not authenticated" r []], 0⟩
  | resolver :: rest =>
    match resolver.resolve now r with
    | .error stop => ⟨.stopped stop, [], 1⟩
    | .ok found =>
      let v :=
        match found.subjects with
        | some subjects => decide rules r subjects
        | none => ask rules now r rest
      ⟨v.passage, found.events ++ v.events, v.asked + 1⟩

/-- What becomes of a request. -/
def judge (g : Guard) (rules : RuleSet) (now : Clock) (r : Request) : Verdict :=
  if g.guards r.seenPath then ask rules now r g.resolvers else ⟨.unguarded, [], 0⟩

end Guard

end RouteAccess
