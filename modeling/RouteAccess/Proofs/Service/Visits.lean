/-
RouteAccess/Proofs/Service/Visits.lean

The requests of a session.  A visit is a request together with the site that it meets
(`Site.visits`), so that what comes of it can be told without the rest of the session.
Nothing but a visit changes metrics, so what every visit keeps holds after the session
(`visits_induction`).  While a service stands as it was started, its metrics are
therefore a record of its visits: the tally of decisions has one entry for each decision
that a visit calls for (`decided_run`), and the tally of requests one for each visit that
is served (`requests_run`):

    (site.run steps).1.service.metrics.requests
      = site.service.metrics.requests.addAll (served visits).map requestRow.
-/
import RouteAccess.Proofs.Service.Recording
import RouteAccess.Proofs.Service.Run

namespace RouteAccess

namespace Service

/-- A request with the site that it meets. -/
structure Visit where
  site : Site
  now : Clock
  request : Request

namespace Visit

variable (v : Visit)

/-- The service that is visited. -/
def service : Service :=
  v.site.service

/-- The service after the visit. -/
def after : Service :=
  (v.service.answer v.site.store v.now v.request).1

/-- What came of the request. -/
def exchange : Exchange :=
  (v.service.answer v.site.store v.now v.request).2

/-- The decisions that the request calls for. -/
def decisions : List (String × Bool) :=
  v.service.decisions v.now v.request

/-- Whether the request is answered, and not because something broke down. -/
def isAnswered : Bool :=
  v.exchange.isAnswered

/-- Whether the guard lets the request pass, and it is answered. -/
def isServed : Bool :=
  v.service.admits v.now v.request && v.isAnswered

/-- The labels of the request: its endpoint, its method and the status of the reply. -/
def requestRow : List String :=
  [v.service.endpointLabel v.request, v.request.method, toString v.exchange.reply.status]

end Visit

variable {settings : Settings} {guard : Guard} {v : Visit}

/-! ### One visit -/

/-- What a visit adds to the decisions is what the guard and the check have decided. -/
theorem decided_after (h : v.service.Stands settings guard) :
    v.after.metrics.decided
      = (v.service.metrics.recordDecisions instantly v.decisions).decided := by
  obtain ⟨desk, hdesk, -⟩ := h.desk
  obtain ⟨m, ⟨_, _, rfl⟩, hanswer⟩ := metrics_answer hdesk v.site.store v.now v.request
  rw [Visit.after, hanswer, withRequest]
  split
  · split <;> rfl
  · rfl

/-- What a visit adds to the requests is its own row, if it was served. -/
theorem requests_after (h : v.service.Stands settings guard) :
    v.after.metrics.requests
      = v.service.metrics.requests.addAll (if v.isServed then [v.requestRow] else []) := by
  obtain ⟨desk, hdesk, -⟩ := h.desk
  obtain ⟨m, ⟨_, _, rfl⟩, hanswer⟩ := metrics_answer hdesk v.site.store v.now v.request
  rw [Visit.after, hanswer, withRequest, Visit.isServed, Visit.isAnswered, Visit.exchange]
  cases v.service.admits v.now v.request with
  | false => exact Metrics.requests_recordDecisions
  | true =>
    cases (v.service.answer v.site.store v.now v.request).2.isAnswered with
    | false => exact Metrics.requests_recordDecisions
    | true => exact congrArg (Tally.add · _) Metrics.requests_recordDecisions

/-! ### Sessions -/

namespace Site

variable {site : Site} {steps : List Step}

/-- The request of a step, if it is one. -/
def visit? (site : Site) : Step → Option Visit
  | .request now r => some ⟨site, now, r⟩
  | _ => none

/-- The requests of a session, each with the site that it meets. -/
def visits (site : Site) : List Step → List Visit
  | [] => []
  | step :: rest => (site.visit? step).toList ++ visits (site.step step).1 rest

/-- The visit of a step meets the site before the step. -/
theorem service_of_visit? {step : Step} (h : site.visit? step = some v) :
    v.service = site.service := by
  cases step with
  | request now r =>
    obtain rfl := Option.some.inj h
    rfl
  | _ => cases h

/-- Only visits change metrics. -/
theorem metrics_step (site : Site) (step : Step) :
    (site.step step).1.service.metrics
      = (site.visit? step).elim site.service.metrics fun v => v.after.metrics := by
  cases step <;> rfl

/-- Every visit of a session finds the service as it was started. -/
theorem stands_of_mem_visits (h : site.service.Stands settings guard)
    (hv : v ∈ site.visits steps) : v.service.Stands settings guard := by
  induction steps generalizing site with
  | nil => cases hv
  | cons step rest ih =>
    rcases List.mem_append.mp hv with hv | hv
    · rw [service_of_visit? (Option.mem_toList.mp hv)]
      exact h
    · exact ih (h.step step) hv

/-- What holds of the metrics at first, and is kept by every visit, holds of the metrics
after a session and of its visits. -/
theorem visits_induction {P : Metrics → List Visit → Prop}
    (hvisit : ∀ v vs, v.service.Stands settings guard → P v.service.metrics vs →
      P v.after.metrics (vs ++ [v]))
    (h : site.service.Stands settings guard) (hfirst : P site.service.metrics [])
    (steps : List Step) : P (site.run steps).1.service.metrics (site.visits steps) := by
  -- some visits have been paid before
  suffices hpaid : ∀ vs, P site.service.metrics vs →
      P (site.run steps).1.service.metrics (vs ++ site.visits steps) from hpaid [] hfirst
  clear hfirst
  induction steps generalizing site with
  | nil =>
    intro vs hvs
    rw [visits, List.append_nil]
    exact hvs
  | cons step rest ih =>
    intro vs hvs
    rw [run_cons, visits, ← List.append_assoc]
    refine ih (h.step step) _ ?_
    rw [metrics_step]
    cases hstep : site.visit? step with
    | none =>
      rw [Option.toList_none, List.append_nil]
      exact hvs
    | some v =>
      have hsite := service_of_visit? hstep
      exact hvisit v vs (hsite ▸ h) (hsite ▸ hvs)

/-- The decisions of a session are those that its requests call for. -/
theorem decided_run (site : Site) (h : site.service.Stands settings guard) (steps : List Step) :
    (site.run steps).1.service.metrics.decided
      = (site.service.metrics.recordDecisions instantly
          ((site.visits steps).flatMap Visit.decisions)).decided := by
  -- the invariant ties the decisions measured so far to the visits so far
  let P (m : Metrics) (vs : List Visit) : Prop :=
    m.decided
      = (site.service.metrics.recordDecisions instantly (vs.flatMap Visit.decisions)).decided
  have hvisit (v : Visit) (vs : List Visit) (hstands : v.service.Stands settings guard)
      (hvs : P v.service.metrics vs) : P v.after.metrics (vs ++ [v]) := by
    show v.after.metrics.decided = _
    rw [decided_after hstands, List.flatMap_append, List.flatMap_singleton,
      Metrics.recordDecisions_append]
    exact Metrics.decided_recordDecisions hvs
  exact visits_induction hvisit h rfl steps

/-- The requests that a session has counted are those that were served. -/
theorem requests_run (site : Site) (h : site.service.Stands settings guard) (steps : List Step) :
    (site.run steps).1.service.metrics.requests
      = site.service.metrics.requests.addAll
          (((site.visits steps).filter Visit.isServed).map Visit.requestRow) := by
  -- the invariant ties the requests counted so far to the visits so far
  let P (m : Metrics) (vs : List Visit) : Prop :=
    m.requests
      = site.service.metrics.requests.addAll ((vs.filter Visit.isServed).map Visit.requestRow)
  have hvisit (v : Visit) (vs : List Visit) (hstands : v.service.Stands settings guard)
      (hvs : P v.service.metrics vs) : P v.after.metrics (vs ++ [v]) := by
    show v.after.metrics.requests = _
    rw [requests_after hstands, hvs, List.filter_append, List.map_append, Tally.addAll_append]
    cases hserved : v.isServed <;> simp [hserved]
  exact visits_induction hvisit h rfl steps

end Site

/-! ### Started services -/

/-- A service starts with nothing measured. -/
theorem metrics_of_start {store : FileStore} {rules : Option RuleSet} {service : Service}
    {events : List Event} (h : start store settings rules = .ok (service, events)) :
    service.metrics = { service := deskName } := by
  unfold start at h
  obtain ⟨plain, hplain, h⟩ := bind_eq_ok.mp h
  obtain ⟨_, -, h⟩ := bind_eq_ok.mp h
  obtain ⟨_, -, h⟩ := bind_eq_ok.mp h
  obtain ⟨_, -, h⟩ := bind_eq_ok.mp h
  cases h
  rw [bare] at hplain
  split at hplain
  · cases hplain
  · cases hplain
    rfl

end Service

end RouteAccess
