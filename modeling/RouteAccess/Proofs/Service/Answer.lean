/-
RouteAccess/Proofs/Service/Answer.lean

What an answered request makes of a service, and what its reply tells of the
rules.  A request gets to an endpoint if the guard admits it and its route is
there (`Service.reached?`).  Besides the metrics, only a reload changes anything:
the guardian takes over the document of its access file, if there is one
(`Desk.after`).  And three endpoints alone tell of the rules: a question is
answered with a decision, the listing shows the rules in force, and a reload
reports its success (`Told`).  Both hold of every answer (`settled_answer`):

    Settled s desk store r (s.reached? now r)
      (s.answer store now r).1 (s.answer store now r).2.reply.
-/
import RouteAccess.Proofs.Guard.Admission
import RouteAccess.Proofs.Guardian.Reload
import RouteAccess.Service.Session

namespace RouteAccess

/-! ### Fields of replies -/

namespace Reply

/-- A field of the object that a reply holds. -/
def field? (reply : Reply) (name : String) : Option Json :=
  match reply.content with
  | .json value => value.get? name
  | _ => none

/-- The fields that tell of the rules: a decision by them, the rules themselves, and
whether they were read anew. -/
def telling : List String := ["granted", "rules", "reloaded"]

/-- Whether a reply tells nothing of the rules. -/
def IsQuiet (reply : Reply) : Prop :=
  ∀ name ∈ telling, reply.field? name = none

/-- A reply made of other fields tells nothing of the rules. -/
theorem isQuiet_ofJson (names : List String) {fields : List (String × Json)}
    (hnames : fields.map (·.1) = names) (h : ∀ name ∈ telling, name ∉ names) (status : Nat) :
    (ofJson status fields).IsQuiet := by
  intro name hname
  refine List.lookup_eq_none_iff.mpr fun f hf => bne_iff_ne.mpr ?_
  rintro rfl
  exact h _ hname (hnames ▸ List.mem_map_of_mem hf)

theorem isQuiet_ofFault (fault : Fault) : (ofFault fault).IsQuiet :=
  isQuiet_ofJson ["trace_id", "code", "message", "details"] rfl (by decide) fault.status

theorem isQuiet_internal : internal.IsQuiet :=
  isQuiet_ofJson ["code", "message", "details"] rfl (by decide) 500

theorem isQuiet_ofDetail (status : Nat) (detail : String) : (ofDetail status detail).IsQuiet :=
  isQuiet_ofJson ["detail"] rfl (by decide) status

end Reply

namespace Verdict

/-- What a guard answers itself tells nothing of the rules. -/
theorem isQuiet_of_answered {v : Verdict} {r : Request} {reply : Reply}
    (h : v.outcome r = .answered reply) : reply.IsQuiet := by
  rw [outcome] at h
  -- a request that was stopped or forwarded has no answer of the guard itself
  split at h
  · simp at h
  · split at h
    · simp at h
    · rename_i fault _
      rw [Outcome.ofReply] at h
      split at h
      · obtain rfl := Outcome.answered.inj h
        exact Reply.isQuiet_ofFault fault
      · simp at h

end Verdict

/-- The desk after a request that got to an endpoint: a reload takes over the document
of the access file. -/
def Desk.after (desk : Desk) (store : FileStore) : Option Service.Endpoint → Desk
  | some .reload => { desk with guardian := desk.guardian.adopt (desk.guardian.document? store) }
  | _ => desk

/-- Only a reload changes what lies on the desk. -/
theorem Desk.after_of_ne {reached : Option Service.Endpoint} (h : reached ≠ some .reload)
    (desk : Desk) (store : FileStore) : desk.after store reached = desk := by
  unfold after
  split
  · exact absurd rfl h
  · rfl

/-- A reload that finds no document leaves the desk. -/
theorem Desk.after_reload_of_none {desk : Desk} {store : FileStore}
    (h : desk.guardian.document? store = none) : desk.after store (some .reload) = desk := by
  rw [after, h, Guardian.adopt]

namespace Service

variable {s s' : Service} {desk : Desk} {store : FileStore} {now : Clock} {r : Request}
  {reply : Reply} {events : List Event} {e : Endpoint} {reached : Option Endpoint}

/-! ### Getting to an endpoint -/

/-- Whether the guard of a service lets a request pass. -/
def admits (s : Service) (now : Clock) (r : Request) : Bool :=
  match s.desk with
  | none => true
  | some desk =>
    match (desk.guard.judge desk.guardian.current.rules now r).outcome r with
    | .forwarded _ => true
    | _ => false

/-- The endpoint that the route of a request leads to. -/
def endpoint? (s : Service) (r : Request) : Option Endpoint :=
  match Routing.find s.routes r.method r.path with
  | .found route => some route.target
  | _ => none

/-- The endpoint that a request gets to. -/
def reached? (s : Service) (now : Clock) (r : Request) : Option Endpoint :=
  if s.admits now r then s.endpoint? r else none

/-- The endpoint that a request gets to is that of its route, and the guard has let it through. -/
theorem reached?_eq_some (h : s.reached? now r = some e) :
    s.admits now r = true ∧ s.endpoint? r = some e := by
  rw [reached?] at h
  split at h
  · rename_i hadmits
    exact ⟨hadmits, h⟩
  · cases h

/-- The endpoint of a request is what its route leads to. -/
theorem endpoint?_eq_some (h : s.endpoint? r = some e) :
    ∃ route, Routing.find s.routes r.method r.path = .found route ∧ route.target = e := by
  rw [endpoint?] at h
  split at h
  · rename_i route hfind
    exact ⟨route, hfind, Option.some.inj h⟩
  · cases h

/-- A request that the guard looks at passes exactly if its sender is known and the
rules in force grant it. -/
theorem admits_iff_grants (hdesk : s.desk = some desk)
    (hguards : desk.guard.guards r.seenPath = true) :
    s.admits now r = true ↔
      ∃ subjects, desk.guard.Knows now r subjects ∧
        desk.guardian.current.rules.Grants r subjects := by
  rw [← Guard.forwarded_iff_grants hguards]
  simp only [admits, hdesk]
  cases (desk.guard.judge desk.guardian.current.rules now r).outcome r <;> simp

/-- What the guard does not look at gets through. -/
theorem admits_of_not_guards (hdesk : s.desk = some desk)
    (hguards : desk.guard.guards r.seenPath = false) : s.admits now r = true := by
  have hjudge : desk.guard.judge desk.guardian.current.rules now r = ⟨.unguarded, [], 0⟩ :=
    if_neg (Bool.eq_false_iff.mp hguards)
  simp only [admits, hdesk, hjudge]
  rfl

/-- The endpoints of the desk are at their paths. -/
theorem endpoint?_of_mem (hdesk : s.desk = some desk) {route : Route Endpoint}
    (hroute : route ∈ deskRoutes) (hmethod : r.method ∈ route.methods)
    (hpath : r.path = route.path) : s.endpoint? r = some route.target := by
  have hroutes : s.routes = s.pages ++ commonRoutes ++ deskRoutes := by
    rw [routes, hdesk]
    rfl
  rw [endpoint?, hroutes, hpath, pages]
  simp only [deskRoutes, List.mem_cons, List.not_mem_nil, or_false] at hroute
  rcases hroute with rfl | rfl | rfl | rfl <;>
    rw [List.mem_singleton.mp hmethod] <;>
    cases s.settings.isLocal <;> decide +kernel

/-- Where the guard does not look, every request gets to the endpoint that it is for. -/
theorem reached?_of_not_guards (hdesk : s.desk = some desk)
    (hguards : desk.guard.guards r.seenPath = false) {route : Route Endpoint}
    (hroute : route ∈ deskRoutes) (hmethod : r.method ∈ route.methods)
    (hpath : r.path = route.path) : s.reached? now r = some route.target := by
  rw [reached?, if_pos (admits_of_not_guards hdesk hguards)]
  exact endpoint?_of_mem hdesk hroute hmethod hpath

/-! ### Telling of the rules -/

/-- The decision about a question. -/
def decision (s : Service) (desk : Desk) (q : AccessQuery) : Decision :=
  desk.guardian.evaluate (some q.verb) (some q.path)
    (some (q.subjects.getD s.settings.anonymousSubject))

/-- The reply that tells a decision. -/
def decided (d : Decision) : Reply :=
  .ofJson 200 (decisionFields d)

/-- The reply that lists rules. -/
def listed (rules : RuleSet) : Reply :=
  .ofJson 200
    [("default_policy", .str rules.default.word), ("rules", .arr (rules.rules.map ruleJson)),
      ("total", .int rules.size)]

/-- The reply about a reload. -/
def reloaded (flag : Bool) (name : String) (g : Guardian) : Reply :=
  .ofJson 200 ([("reloaded", .bool flag), ("access_file", .str name)] ++ g.figures)

/-- What the reply to a request tells of the rules, by the endpoint that the request
got to. -/
inductive Told (s : Service) (desk : Desk) (store : FileStore) (r : Request) :
    Option Endpoint → Reply → Prop
  | quiet {reached : Option Endpoint} {reply : Reply} :
      reply.IsQuiet → Told s desk store r reached reply
  | decision {q : AccessQuery} :
      AccessQuery.ofRequest r = .ok q →
        Told s desk store r (some .check) (decided (s.decision desk q))
  | listing : Told s desk store r (some .rules) (listed desk.guardian.current.rules)
  | reload {name : String} {flag : Bool} {g : Guardian} {notices : List LoadNotice} :
      desk.guardian.reload store = .ok (flag, g, notices) →
        Told s desk store r (some .reload) (reloaded flag name g)

/-- A decision is told by the rules in force, about the question that is asked. -/
theorem Told.eq_decided (h : Told s desk store r reached reply)
    (htells : reply.field? "granted" ≠ none) :
    ∃ q, AccessQuery.ofRequest r = .ok q ∧ reply = decided (s.decision desk q) := by
  cases h with
  | quiet hquiet => exact absurd (hquiet "granted" (by decide)) htells
  | decision hq => exact ⟨_, hq, rfl⟩
  | listing => exact absurd rfl htells
  | reload _ => exact absurd rfl htells

/-- Only the listing shows rules, those in force. -/
theorem Told.eq_listed (h : Told s desk store r reached reply)
    (htells : reply.field? "rules" ≠ none) :
    reached = some .rules ∧ reply = listed desk.guardian.current.rules := by
  cases h with
  | quiet hquiet => exact absurd (hquiet "rules" (by decide)) htells
  | decision _ => exact absurd rfl htells
  | listing => exact ⟨rfl, rfl⟩
  | reload _ => exact absurd rfl htells

/-- What a request that got to an endpoint makes of a service, and its reply. -/
structure Settled (s : Service) (desk : Desk) (store : FileStore) (r : Request)
    (reached : Option Endpoint) (s' : Service) (reply : Reply) : Prop where
  service : ∃ metrics, s' = { s with metrics := metrics, desk := some (desk.after store reached) }
  told : Told s desk store r reached reply

/-- Metrics are no part of what is settled. -/
theorem Settled.metrics_before {metrics : Metrics}
    (h : Settled { s with metrics := metrics } desk store r reached s' reply) :
    Settled s desk store r reached s' reply := by
  refine ⟨h.service, ?_⟩
  cases h.told with
  | quiet hquiet => exact .quiet hquiet
  | decision hq => exact .decision hq
  | listing => exact .listing
  | reload hreload => exact .reload hreload

theorem Settled.metrics_after (metrics : Metrics)
    (h : Settled s desk store r reached s' reply) :
    Settled s desk store r reached { s' with metrics := metrics } reply := by
  obtain ⟨_, rfl⟩ := h.service
  exact ⟨⟨metrics, rfl⟩, h.told⟩

/-- A reply that cannot be sent is replaced by a quiet one. -/
theorem Settled.broken (h : Settled s desk store r reached s' reply) :
    Settled s desk store r reached s' .internal :=
  ⟨h.service, .quiet Reply.isQuiet_internal⟩

/-- Where nothing is reloaded, quiet replies leave the desk. -/
theorem settled_quiet (hdesk : s.desk = some desk) (hafter : desk.after store reached = desk)
    (hquiet : reply.IsQuiet) (metrics : Metrics) :
    Settled s desk store r reached { s with metrics := metrics } reply := by
  refine ⟨⟨metrics, ?_⟩, .quiet hquiet⟩
  rw [hafter, ← hdesk]

/-! ### Endpoints -/

/-- A check answers with the decision, and leaves the desk. -/
theorem settled_check (hdesk : s.desk = some desk)
    (h : s.check desk r = .ok (s', reply, events)) :
    Settled s desk store r (some .check) s' reply := by
  rw [check] at h
  split at h
  · -- a body that cannot be read
    obtain ⟨rfl, rfl, -⟩ := Except.ok.inj h
    exact settled_quiet hdesk rfl (Reply.isQuiet_ofDetail 400 _) s.metrics
  · -- a body with faults, which are reported
    obtain ⟨rfl, rfl, -⟩ := Except.ok.inj h
    exact settled_quiet hdesk rfl (Reply.isQuiet_ofJson ["detail"] rfl (by decide) 422) s.metrics
  · rename_i q hq
    obtain ⟨rfl, rfl, -⟩ := Except.ok.inj h
    exact ⟨⟨_, by rw [desk.after_of_ne (by simp), ← hdesk]⟩, .decision hq⟩

/-- A reload answers whether the rules were read anew, and then they are those of the access
file. -/
theorem settled_reload (hdesk : s.desk = some desk)
    (h : s.reload desk store = .ok (s', reply, events)) :
    Settled s desk store r (some .reload) s' reply := by
  rw [reload] at h
  split at h
  · rename_i hfile
    obtain ⟨rfl, rfl, -⟩ := Except.ok.inj h
    refine settled_quiet hdesk (Desk.after_reload_of_none ?_)
      (Reply.isQuiet_ofFault noAccessFile) s.metrics
    -- without an access file there is no document, so nothing would be taken over
    rw [Guardian.document?, hfile]
  · rename_i name hfile
    split at h
    · rename_i hempty
      obtain ⟨rfl, rfl, -⟩ := Except.ok.inj h
      refine settled_quiet hdesk (Desk.after_reload_of_none ?_)
        (Reply.isQuiet_ofFault noAccessFile) s.metrics
      rw [Guardian.document?, hfile]
      exact if_pos hempty
    · split at h
      · simp at h
      · rename_i flag g notices hreload
        obtain ⟨rfl, rfl, -⟩ := Except.ok.inj h
        -- a reload that returns has taken over the document of the access file, if there is one
        exact ⟨⟨_, by rw [Desk.after, Guardian.reload_adopt hreload]⟩, .reload hreload⟩

/-- Whatever handles a request, it leaves the desk or reloads it, and tells what it may. -/
theorem settled_handle (hdesk : s.desk = some desk)
    (h : s.handle store r e = .ok (s', reply, events)) :
    Settled s desk store r (some e) s' reply := by
  cases e with
  | page =>
    obtain ⟨rfl, rfl, -⟩ := Except.ok.inj h
    exact settled_quiet hdesk rfl (fun _ _ => rfl) s.metrics
  | health =>
    simp only [handle, health] at h
    -- a report of the health has none of the telling fields, whether it is good or bad
    split at h
    · obtain ⟨rfl, rfl, -⟩ := Except.ok.inj h
      exact settled_quiet hdesk rfl (Reply.isQuiet_ofJson
        ["service", "status", "dependencies", "version", "commit"] rfl (by decide) 200) _
    · obtain ⟨rfl, rfl, -⟩ := Except.ok.inj h
      exact settled_quiet hdesk rfl
        (Reply.isQuiet_ofJson ["service", "status", "error"] rfl (by decide) 503) _
  | metrics =>
    obtain ⟨rfl, rfl, -⟩ := Except.ok.inj h
    exact settled_quiet hdesk rfl (fun _ _ => rfl) s.metrics
  | root =>
    obtain ⟨rfl, rfl, -⟩ := Except.ok.inj h
    exact settled_quiet hdesk rfl (Reply.isQuiet_ofJson
      ["service", "message", "version", "guarded_path", "capabilities"] rfl (by decide) 200)
      s.metrics
  | check =>
    simp only [handle, hdesk] at h
    exact settled_check hdesk h
  | rules =>
    simp only [handle, hdesk] at h
    obtain ⟨rfl, rfl, -⟩ := Except.ok.inj h
    exact ⟨⟨s.metrics, by rw [desk.after_of_ne (by simp), ← hdesk]⟩, .listing⟩
  | reload =>
    simp only [handle, hdesk] at h
    exact settled_reload hdesk h

/-- Nothing but a reload fails, and then it finds no document. -/
theorem after_of_handle_error {b : Breakdown} (hdesk : s.desk = some desk)
    (h : s.handle store r e = .error b) : desk.after store (some e) = desk := by
  cases e with
  | reload =>
    -- a reload without an access file is refused, one with a file may break down on its name
    simp only [handle, hdesk, reload] at h
    split at h
    · simp [refuse] at h
    · split at h
      · simp [refuse] at h
      · split at h
        · rename_i hreload
          exact Desk.after_reload_of_none (Guardian.document?_of_reload_error hreload)
        · simp at h
  | _ => rfl

/-! ### Answers -/

/-- A request that takes no route is answered without the desk. -/
theorem settled_route (hdesk : s.desk = some desk)
    (h : s.route store r = .ok (s', reply, events)) :
    Settled s desk store r (s.endpoint? r) s' reply := by
  cases hfind : Routing.find s.routes r.method r.path with
  | found target =>
    simp only [route, endpoint?, hfind] at h ⊢
    exact settled_handle hdesk h
  | wrongMethod other =>
    simp only [route, endpoint?, hfind] at h ⊢
    obtain ⟨rfl, rfl, -⟩ := Except.ok.inj h
    refine settled_quiet hdesk rfl ?_ s.metrics
    exact Reply.isQuiet_ofDetail 405 _
  | moved path =>
    simp only [route, endpoint?, hfind] at h ⊢
    obtain ⟨rfl, rfl, -⟩ := Except.ok.inj h
    exact settled_quiet hdesk rfl (fun _ _ => rfl) s.metrics
  | unknown =>
    simp only [route, endpoint?, hfind] at h ⊢
    obtain ⟨rfl, rfl, -⟩ := Except.ok.inj h
    exact settled_quiet hdesk rfl (Reply.isQuiet_ofDetail 404 _) s.metrics

/-- A breakdown on the way leaves the desk. -/
theorem after_of_route_error {b : Breakdown} (hdesk : s.desk = some desk)
    (h : s.route store r = .error b) : desk.after store (s.endpoint? r) = desk := by
  cases hfind : Routing.find s.routes r.method r.path with
  | found target =>
    simp only [route, endpoint?, hfind] at h ⊢
    exact after_of_handle_error hdesk h
  | _ =>
    simp only [endpoint?, hfind]
    rfl

/-- A request that the guard has let through is settled by the endpoint of its route, be it that
the reply cannot be sent. -/
theorem settled_serve (hdesk : s.desk = some desk) (store : FileStore) (r : Request)
    (subjects : Option String) (before : List Event) :
    Settled s desk store r (s.endpoint? r) (s.serve store r subjects before).1
      (s.serve store r subjects before).2.reply := by
  rw [serve]
  cases hroute : s.route store r with
  | error b =>
    exact settled_quiet hdesk (after_of_route_error hdesk hroute) Reply.isQuiet_internal s.metrics
  | ok done =>
    have hsettled := settled_route hdesk hroute
    dsimp only
    cases done.2.1.unsendable? with
    | none => exact hsettled.metrics_after _
    | some fault => exact hsettled.broken

/-- What an answer makes of a service, and what its reply tells, by the endpoint that
the request got to. -/
theorem settled_answer (hdesk : s.desk = some desk) (store : FileStore) (now : Clock)
    (r : Request) :
    Settled s desk store r (s.reached? now r) (s.answer store now r).1
      (s.answer store now r).2.reply := by
  -- what the guard answers itself is quiet, and what it forwards is settled by the routes
  let v := desk.guard.judge desk.guardian.current.rules now r
  cases houtcome : v.outcome r with
  | forwarded subjects =>
    have hrecorded : (s.recordVerdict r v).desk = some desk := hdesk
    have hserve := settled_serve hrecorded store r subjects v.events
    simp only [reached?, admits, answer, hdesk, v, houtcome] at hserve ⊢
    exact hserve.metrics_before
  | answered reply =>
    simp only [reached?, admits, answer, hdesk, v, houtcome]
    exact settled_quiet hdesk rfl (Verdict.isQuiet_of_answered houtcome) _
  | stopped stop =>
    simp only [reached?, admits, answer, hdesk, v, houtcome]
    exact settled_quiet hdesk rfl Reply.isQuiet_internal _
  | unsendable fault =>
    simp only [reached?, admits, answer, hdesk, v, houtcome]
    exact settled_quiet hdesk rfl Reply.isQuiet_internal _

end Service

end RouteAccess
