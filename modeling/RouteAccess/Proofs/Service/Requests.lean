/-
RouteAccess/Proofs/Service/Requests.lean

What the metrics of a service tell about requests.  The guard stands before the counter:
what it refuses is answered with 401 or 403, and never counted (`Visit.IsRefused`).  All
else that is answered is counted, whatever the answer.  So after any session with a started
service, the refused requests apart, the counter of requests tells how many requests were
answered, in all and for every method and status (`requests_counted`):

    requests.total + visits.countP (·.IsRefused) = visits.countP (·.isAnswered).

A request is counted under the path of its route, which keeps what stands for an id in the
path out of the labels.  A request that the guard lets pass and that no route takes
(`Visit.IsStray`) is counted too, but under its own path.  So there can be as many more
endpoints among the labels than routes as there were such requests (`endpoints_acquired`):

    endpoints.toFinset.card ≤ service.routes.length + visits.countP (·.IsStray).
-/
import Mathlib.Data.Finset.Card
import RouteAccess.Proofs.Service.Visits

namespace RouteAccess

/-- Different statuses have different label values. -/
theorem Metrics.statusText_inj {m n : Nat} : toString m = toString n ↔ m = n := by
  refine ⟨fun h => ?_, congrArg toString⟩
  have hdigits : Nat.toDigits 10 m = Nat.toDigits 10 n := by
    simpa only [Nat.toString_eq_repr, Nat.toList_repr] using congrArg String.toList h
  calc m
    _ = Nat.ofDigitChars 10 (Nat.toDigits 10 m) 0 := Nat.ofDigitChars_ten_toDigits.symm
    _ = Nat.ofDigitChars 10 (Nat.toDigits 10 n) 0 := by rw [hdigits]
    _ = n := Nat.ofDigitChars_ten_toDigits

/-- A guard answers with 401 or 403. -/
theorem Verdict.status_of_answered {v : Verdict} {r : Request} {reply : Reply}
    (h : v.outcome r = .answered reply) : reply.status = 401 ∨ reply.status = 403 := by
  cases hpassage : v.passage with
  | unguarded => simp [outcome_of_unguarded hpassage] at h
  | granted subjects => simp [outcome_of_granted hpassage] at h
  | denied subjects =>
    rw [outcome_of_denied hpassage] at h
    split at h
    · cases h
    · obtain rfl := Outcome.answered.inj h
      exact .inr rfl
  | nobody =>
    rw [outcome_of_nobody hpassage] at h
    split at h
    · cases h
    · obtain rfl := Outcome.answered.inj h
      exact .inl rfl
  | stopped stop => simp [outcome, hpassage] at h

/-- A request finds a route that takes its path, or no route takes it. -/
theorem Routing.find_cases {α : Type} (routes : List (Route α)) (method path : String) :
    (∃ route ∈ routes, route.takes path = true ∧
        (find routes method path = .found route ∨ find routes method path = .wrongMethod route)) ∨
      (∀ route ∈ routes, route.takes path = false) ∧
        (find routes method path = .unknown ∨ ∃ twin, find routes method path = .moved twin) := by
  unfold find
  cases hfound : routes.find? fun r => r.takes path && r.methods.contains method with
  -- the first route that takes path and method is found, else the first one that takes the path
  | some route =>
    have htakes := List.find?_some hfound
    rw [Bool.and_eq_true] at htakes
    exact .inl ⟨route, List.mem_of_find?_eq_some hfound, htakes.1, .inl rfl⟩
  | none =>
    cases hother : routes.find? fun r => r.takes path with
    | some route =>
      have htakes := List.find?_some hother
      exact .inl ⟨route, List.mem_of_find?_eq_some hother, htakes, .inr rfl⟩
    | none =>
      refine .inr ⟨fun route hroute => ?_, ?_⟩
      · exact Bool.eq_false_iff.mpr (List.find?_eq_none.mp hother route hroute)
      · dsimp only
        split
        · exact .inr ⟨_, rfl⟩
        · exact .inl rfl

/-- The endpoints among the labels of the requests that are counted. -/
def Metrics.endpoints (m : Metrics) : List String :=
  m.requests.keys.filterMap List.head?

namespace Service

variable {s : Service} {r : Request} {now : Clock}

/-! ### Paths that no route takes -/

/-- Whether no route of a service takes a path. -/
def IsUntaken (s : Service) (path : String) : Prop :=
  ∀ route ∈ s.routes, route.takes path = false

instance (s : Service) : DecidablePred s.IsUntaken :=
  fun path => inferInstanceAs (Decidable (∀ route ∈ s.routes, route.takes path = false))

theorem isUntaken_of_everyRoute {path : String}
    (h : ∀ route ∈ everyRoute, route.takes path = false) : s.IsUntaken path :=
  fun route hroute => h route (s.routes_subset hroute)

/-- A path that no route takes is its own label. -/
theorem endpointLabel_of_untaken (h : s.IsUntaken r.path) : s.endpointLabel r = r.seenPath := by
  rw [endpointLabel]
  rcases Routing.find_cases s.routes r.method r.path with
    ⟨route, hroute, htakes, -⟩ | ⟨-, hfind | ⟨twin, hfind⟩⟩
  · exact absurd htakes (Bool.eq_false_iff.mp (h route hroute))
  · rw [hfind]
  · rw [hfind]

/-- A path that a route takes has the path of such a route as its label. -/
theorem endpointLabel_of_taken (h : ¬ s.IsUntaken r.path) :
    ∃ route ∈ s.routes, route.takes r.path = true ∧ route.path = s.endpointLabel r := by
  rw [endpointLabel]
  rcases Routing.find_cases s.routes r.method r.path with
    ⟨route, hroute, htakes, hfind | hfind⟩ | ⟨huntaken, -⟩
  · exact ⟨route, hroute, htakes, by rw [hfind]⟩
  · exact ⟨route, hroute, htakes, by rw [hfind]⟩
  · exact absurd huntaken h

/-- A request for such a path is told so, or sent to another path. -/
theorem isAnswered_serve_of_untaken (h : s.IsUntaken r.path) (store : FileStore)
    (subjects : Option String) (before : List Event) :
    (s.serve store r subjects before).2.isAnswered = true := by
  have hsend : (Reply.ofDetail 404 "Not Found").unsendable? = none := by decide +kernel
  rcases Routing.find_cases s.routes r.method r.path with
    ⟨route, hroute, htakes, -⟩ | ⟨-, hfind | ⟨twin, hfind⟩⟩
  · exact absurd htakes (Bool.eq_false_iff.mp (h route hroute))
  · simp only [serve, route, hfind, hsend]
    rfl
  · simp only [serve, route, hfind]
    rfl

/-! ### Visits that are refused, and those that no route takes -/

namespace Visit

variable {v : Visit}

/-- The status of the reply. -/
def status (v : Visit) : Nat :=
  v.exchange.reply.status

/-- Whether the request has this method and the reply this status. -/
def shows (v : Visit) (method : String) (status : Nat) : Bool :=
  v.request.method = method && v.status = status

/-- Whether the guard answers: it looks at the request, and the rules in force grant it
to nobody whom the guard knows to be its sender. -/
def IsRefused (v : Visit) : Prop :=
  v.isAnswered = true ∧ ∃ desk, v.service.desk = some desk ∧
    desk.guard.guards v.request.seenPath = true ∧
    ∀ subjects, desk.guard.Knows v.now v.request subjects →
      ¬ desk.guardian.current.rules.Grants v.request subjects

/-- Of the answered requests, those are refused that the guard does not let through. -/
theorem isRefused_iff :
    v.IsRefused ↔ v.isAnswered = true ∧ v.service.admits v.now v.request = false := by
  rw [IsRefused]
  refine and_congr_right fun _ => ?_
  cases hdesk : v.service.desk with
  | none => simp [admits, hdesk]
  | some desk =>
    simp only [Option.some.injEq, exists_eq_left']
    by_cases hguards : desk.guard.guards v.request.seenPath = true
    · rw [← Bool.not_eq_true, admits_iff_grants hdesk hguards, not_exists]
      simp [hguards]
    · rw [admits_of_not_guards hdesk (Bool.eq_false_iff.mpr hguards)]
      simp [hguards]

instance : DecidablePred IsRefused :=
  fun _ => decidable_of_iff _ isRefused_iff.symm

/-- Of the answered requests of a kind, those that are not served are refused. -/
theorem countP_isServed (visits : List Visit) (p : Visit → Bool) :
    visits.countP (fun v => p v && v.isServed) + visits.countP (fun v => v.IsRefused ∧ p v)
      = visits.countP (fun v => v.isAnswered && p v) := by
  calc visits.countP (fun v => p v && v.isServed) + visits.countP (fun v => v.IsRefused ∧ p v)
    _ = visits.countP (fun v => v.isAnswered && p v && v.service.admits v.now v.request)
          + visits.countP (fun v => v.isAnswered && p v && !v.service.admits v.now v.request) := by
      congr 1
      · refine List.countP_congr fun v _ => ?_
        rw [isServed, Bool.and_left_comm, Bool.and_comm, Bool.and_comm (p v)]
      · refine List.countP_congr fun v _ => ?_
        simp only [isRefused_iff, decide_eq_true_eq, Bool.and_eq_true, Bool.not_eq_true']
        exact and_right_comm
    _ = visits.countP (fun v => v.isAnswered && p v) := by
      have hsplit := List.countP_eq_countP_filter_add visits (fun v => v.isAnswered && p v)
        fun v => v.service.admits v.now v.request
      rw [List.countP_filter, List.countP_filter] at hsplit
      exact hsplit.symm

/-- What is refused is answered with 401 or 403. -/
theorem status_of_isRefused (h : v.IsRefused) : v.status = 401 ∨ v.status = 403 := by
  obtain ⟨hanswered, hrefused⟩ := isRefused_iff.mp h
  cases hdesk : v.service.desk with
  | none => simp [admits, hdesk] at hrefused
  | some desk =>
    let verdict := desk.guard.judge desk.guardian.current.rules v.now v.request
    cases houtcome : verdict.outcome v.request with
    | answered reply =>
      have hreply : v.exchange.reply = reply := by
        simp only [exchange, answer, hdesk, verdict, houtcome]
      rw [status, hreply]
      exact Verdict.status_of_answered houtcome
    | forwarded subjects => simp [admits, hdesk, verdict, houtcome] at hrefused
    | _ =>
      -- there is no answer
      simp only [isAnswered, exchange, answer, hdesk, verdict, houtcome] at hanswered
      cases hanswered

/-- A request of nobody known is refused with 401, if that can be said. -/
theorem isRefused_of_nobody {desk : Desk} (hdesk : v.service.desk = some desk)
    (hnobody : (desk.guard.judge desk.guardian.current.rules v.now v.request).passage = .nobody)
    (hplain : [v.request.method, v.request.seenPath].any Surrogate.hasHalf = false) :
    v.IsRefused ∧ v.status = 401 := by
  have houtcome := Verdict.outcome_of_nobody (r := v.request) hnobody
  rw [if_neg (Bool.eq_false_iff.mp hplain)] at houtcome
  refine ⟨isRefused_iff.mpr ⟨?_, ?_⟩, ?_⟩
  · simp only [isAnswered, exchange, answer, hdesk, houtcome]
    rfl
  · simp only [admits, hdesk, houtcome]
  · simp only [status, exchange, answer, hdesk, houtcome]
    rfl

/-- Whether the guard lets the request pass, and no route takes its path. -/
def IsStray (v : Visit) : Prop :=
  v.service.admits v.now v.request = true ∧ v.service.IsUntaken v.request.path

instance : DecidablePred IsStray :=
  fun v => inferInstanceAs (Decidable (v.service.admits v.now v.request = true ∧ _))

/-- A stray request is served. -/
theorem isServed_of_isStray {settings : Settings} {guard : Guard}
    (hstands : v.service.Stands settings guard) (h : v.IsStray) : v.isServed = true := by
  -- the decision of the guard is recorded before, which leaves the routes
  obtain ⟨hadmits, huntaken⟩ := h
  obtain ⟨desk, hdesk, -⟩ := hstands.desk
  obtain ⟨verdict, subjects, events, hanswer⟩ := answer_of_admits hdesk hadmits v.site.store
  rw [isServed, hadmits, isAnswered, exchange, hanswer]
  exact isAnswered_serve_of_untaken (s := v.service.recordVerdict v.request verdict) huntaken _ _ _

end Visit

/-! ### Counting requests -/

variable {store : FileStore} {settings : Settings} {rules : Option RuleSet}
  {service : Service} {events : List Event}

/-- After any session with a started service, the counter of requests and the requests that
were refused make up all that were answered, in sum and for every method and status. -/
theorem requests_counted (hstart : start store settings rules = .ok (service, events))
    (files : FileStore) (steps : List Step) :
    let visits := Site.visits ⟨service, files⟩ steps
    let requests := (Site.run ⟨service, files⟩ steps).1.service.metrics.requests
    requests.total + visits.countP (fun v => v.IsRefused)
        = visits.countP (fun v => v.isAnswered) ∧
      (∀ method status,
        requests.totalOf (fun row => row.tail = [method, toString status])
            + visits.countP (fun v => v.IsRefused ∧ v.shows method status)
          = visits.countP (fun v => v.isAnswered && v.shows method status)) ∧
      ∀ v ∈ visits, v.IsRefused → v.status = 401 ∨ v.status = 403 := by
  intro visits requests
  obtain ⟨desk, -, hstands, -⟩ := desk_of_start hstart
  have hrun : requests = _ := Site.requests_run ⟨service, files⟩ hstands steps
  have htotal (p : List String → Bool) :
      requests.totalOf p = visits.countP (fun v => p v.requestRow && v.isServed) := by
    rw [hrun, metrics_of_start hstart, Tally.totalOf_addAll, List.countP_map, List.countP_filter]
    exact Nat.zero_add _
  -- both counts are over rows of a kind: of any, and of those with this method and status
  refine ⟨?_, fun method status => ?_, fun v _ => Visit.status_of_isRefused⟩
  · rw [← Tally.totalOf_true, htotal]
    simpa using Visit.countP_isServed visits fun _ => true
  · have hrow (v : Visit) :
        decide (v.requestRow.tail = [method, toString status]) = v.shows method status := by
      have hstatus : toString v.exchange.reply.status = toString status ↔ v.status = status :=
        Metrics.statusText_inj
      simp only [Visit.requestRow, Visit.shows, List.tail_cons, List.cons.injEq, and_true,
        hstatus, Bool.decide_and]
    simp only [htotal, hrow]
    exact Visit.countP_isServed visits fun v => v.shows method status

/-- A request that leads nowhere is counted, and one for the rules by a sender who is not
known is not: both are answered. -/
theorem requests_counted_nowhere :
    let nowhere : Request := { path := "/nowhere", peer := none }
    let listing : Request := { path := "/guardian/rules", peer := none }
    let steps : List Step := [.request .epoch nowhere, .request .epoch listing]
    ∃ service events, start .allowing (.withSecret "/api") none = .ok (service, events) ∧
      (Site.visits ⟨service, .allowing⟩ steps).countP (fun v => v.isAnswered) = 2 ∧
      (Site.visits ⟨service, .allowing⟩ steps).countP (fun v => v.IsRefused) = 1 ∧
      (Site.run ⟨service, .allowing⟩ steps).1.service.metrics.requests.total = 1 := by
  intro nowhere listing steps
  obtain ⟨service, events, g, hstart, hdesk, -⟩ := start_withSecret "/api"
  obtain ⟨first, hfirst, hstands, -⟩ := desk_of_start hstart
  obtain rfl := Option.some.inj (hdesk.symm.trans hfirst)
  let site : Site := ⟨service, .allowing⟩
  let v : Visit := ⟨site, .epoch, nowhere⟩
  let w : Visit := ⟨(site.step (.request .epoch nowhere)).1, .epoch, listing⟩
  -- the first request passes the guard, and no route takes it
  have hadmits : service.admits .epoch nowhere = true :=
    admits_of_not_guards hdesk
      (show (Guard.withSecret "/api").guards nowhere.seenPath = false by decide +kernel)
  have huntaken : service.IsUntaken nowhere.path := isUntaken_of_everyRoute (by decide +kernel)
  have hserved := Visit.isServed_of_isStray (v := v) hstands ⟨hadmits, huntaken⟩
  have hanswered : v.isAnswered = true := (Bool.and_eq_true_iff.mp hserved).2
  have hpassed : ¬ v.IsRefused := by
    rw [Visit.isRefused_iff, show v.service.admits v.now v.request = true from hadmits]
    simp
  -- the second meets the same guard
  have hkept : w.service.Stands (.withSecret "/api") (.withSecret "/api") :=
    Stands.step (show site.service.Stands _ _ from hstands) (.request .epoch nowhere)
  obtain ⟨desk, hafter, hguard, -⟩ := hkept.desk
  have hnobody : (desk.guard.judge desk.guardian.current.rules .epoch listing).passage
      = .nobody := by
    rw [hguard]
    exact Guard.knows_nobody (by decide +kernel) (by decide +kernel) _ _
  have hplain : [listing.method, listing.seenPath].any Surrogate.hasHalf = false := by
    decide +kernel
  have hrefused := (Visit.isRefused_of_nobody (v := w) hafter hnobody hplain).1
  have hvisits : Site.visits site steps = [v, w] := rfl
  have htwo : [v, w].countP (fun v => v.isAnswered) = 2 := by
    simp [hanswered, hrefused.1]
  have hone : [v, w].countP (fun v => v.IsRefused) = 1 := by
    simp [hpassed, hrefused]
  obtain ⟨hcount, -⟩ := requests_counted hstart .allowing steps
  rw [hvisits, htwo, hone] at hcount
  exact ⟨service, events, hstart, htwo, hone, Nat.succ.inj hcount⟩

/-- A request for the rules of a sender who is not known is answered with 401, and not
counted. -/
theorem refused_uncounted :
    let r : Request := { path := "/guardian/rules", peer := none }
    ∃ service events, start .allowing (.withSecret "/api") none = .ok (service, events) ∧
      let v : Visit := ⟨⟨service, .allowing⟩, .epoch, r⟩
      let site := (Site.run ⟨service, .allowing⟩ [.request .epoch r]).1
      Site.visits ⟨service, .allowing⟩ [.request .epoch r] = [v] ∧
        v.isAnswered = true ∧ v.status = 401 ∧ site.service.metrics.requests.total = 0 := by
  intro r
  obtain ⟨service, events, g, hstart, hdesk, -⟩ := start_withSecret "/api"
  obtain ⟨_, -, hstands, -⟩ := desk_of_start hstart
  let v : Visit := ⟨⟨service, .allowing⟩, .epoch, r⟩
  have hguards : (Guard.withSecret "/api").guards r.seenPath = true := by decide +kernel
  have hnobody := Guard.knows_nobody hguards (by decide +kernel) g.current.rules .epoch
  have hplain : [r.method, r.seenPath].any Surrogate.hasHalf = false := by decide +kernel
  obtain ⟨hrefused, hstatus⟩ := Visit.isRefused_of_nobody (v := v) hdesk hnobody hplain
  -- what the guard answers itself does not get to what counts
  have hserved : v.isServed = false := by
    rw [Visit.isServed, (Visit.isRefused_iff.mp hrefused).2]
    rfl
  refine ⟨service, events, hstart, rfl, hrefused.1, hstatus, ?_⟩
  rw [Site.requests_run ⟨service, .allowing⟩ hstands, metrics_of_start hstart]
  show Tally.total (Tally.addAll {} (([v].filter Visit.isServed).map Visit.requestRow)) = 0
  rw [List.filter_cons_of_neg (by simp [hserved])]
  rfl

/-! ### Endpoints among the labels -/

/-- The labels of a session are those of the requests that were served in it. -/
theorem mem_endpoints (hstart : start store settings rules = .ok (service, events))
    (files : FileStore) (steps : List Step) (label : String) :
    label ∈ (Site.run ⟨service, files⟩ steps).1.service.metrics.endpoints ↔
      ∃ v ∈ Site.visits ⟨service, files⟩ steps, v.isServed = true ∧
        v.service.endpointLabel v.request = label := by
  obtain ⟨desk, -, hstands, -⟩ := desk_of_start hstart
  rw [Metrics.endpoints, Site.requests_run ⟨service, files⟩ hstands, metrics_of_start hstart]
  simp only [List.mem_filterMap, Tally.mem_keys_addAll, List.mem_map, List.mem_filter]
  constructor
  · rintro ⟨row, hrow | ⟨v, ⟨hv, hserved⟩, rfl⟩, hlabel⟩
    · cases hrow
    · exact ⟨v, hv, hserved, Option.some.inj hlabel⟩
  · rintro ⟨v, hv, hserved, rfl⟩
    exact ⟨v.requestRow, .inr ⟨v, ⟨hv, hserved⟩, rfl⟩, rfl⟩

/-- After any session with a started service, every endpoint among the labels is the path
of a route that took a request, or the path of a request that the guard let pass and that no
route takes; each of the latter is there. -/
theorem endpoints_acquired (hstart : start store settings rules = .ok (service, events))
    (files : FileStore) (steps : List Step) :
    let visits := Site.visits ⟨service, files⟩ steps
    let endpoints := (Site.run ⟨service, files⟩ steps).1.service.metrics.endpoints
    (∀ label ∈ endpoints,
        (∃ v ∈ visits, v.isServed = true ∧
          ∃ route ∈ service.routes, route.takes v.request.path = true ∧ route.path = label) ∨
        ∃ v ∈ visits, v.IsStray ∧ v.request.seenPath = label) ∧
      (∀ v ∈ visits, v.IsStray → v.request.seenPath ∈ endpoints) ∧
      endpoints.toFinset.card ≤ service.routes.length + visits.countP (fun v => v.IsStray) := by
  intro visits endpoints
  obtain ⟨desk, -, hstands, -⟩ := desk_of_start hstart
  have hlabels : ∀ label ∈ endpoints,
      (∃ v ∈ visits, v.isServed = true ∧
        ∃ route ∈ service.routes, route.takes v.request.path = true ∧ route.path = label) ∨
      ∃ v ∈ visits, v.IsStray ∧ v.request.seenPath = label := by
    intro label hlabel
    obtain ⟨v, hv, hserved, rfl⟩ := (mem_endpoints hstart files steps label).mp hlabel
    have hvisited := Site.stands_of_mem_visits hstands hv
    by_cases huntaken : v.service.IsUntaken v.request.path
    · have hadmits := (Bool.and_eq_true_iff.mp hserved).1
      exact .inr ⟨v, hv, ⟨hadmits, huntaken⟩, (endpointLabel_of_untaken huntaken).symm⟩
    · have hroute := endpointLabel_of_taken huntaken
      rw [← hstands.routes hvisited] at hroute
      exact .inl ⟨v, hv, hserved, hroute⟩
  refine ⟨hlabels, fun v hv hstray => ?_, ?_⟩
  · -- whatever the answer is, the request is counted
    have hserved := Visit.isServed_of_isStray (Site.stands_of_mem_visits hstands hv) hstray
    exact (mem_endpoints hstart files steps _).mpr
      ⟨v, hv, hserved, endpointLabel_of_untaken hstray.2⟩
  · -- one list with the paths of all routes and of all such requests holds every label
    let paths := service.routes.map Route.path ++
      (visits.filter fun v => v.IsStray).map fun v => v.request.seenPath
    have hsubset : endpoints.toFinset ⊆ paths.toFinset := by
      intro label hlabel
      rw [List.mem_toFinset] at hlabel ⊢
      rw [List.mem_append, List.mem_map, List.mem_map]
      rcases hlabels label hlabel with ⟨_, -, -, route, hroute, -, rfl⟩ | ⟨v, hv, hstray, rfl⟩
      · exact .inl ⟨route, hroute, rfl⟩
      · exact .inr ⟨v, List.mem_filter.mpr ⟨hv, decide_eq_true hstray⟩, rfl⟩
    calc endpoints.toFinset.card
      _ ≤ paths.toFinset.card := Finset.card_le_card hsubset
      _ ≤ paths.length := List.toFinset_card_le paths
      _ = service.routes.length + visits.countP (fun v => v.IsStray) := by
        rw [List.length_append, List.length_map, List.length_map, List.countP_eq_length_filter]

/-- A path that no route takes and the guard does not look at becomes a label, the only one
that is no path of a route. -/
theorem endpoints_acquired_outside :
    let r : Request := { path := "/users/42", peer := none }
    ∃ service events, start .allowing (.withSecret "/api") none = .ok (service, events) ∧
      let site := (Site.run ⟨service, .allowing⟩ [.request .epoch r]).1
      let endpoints := site.service.metrics.endpoints
      "/users/42" ∈ endpoints ∧ endpoints.toFinset.card ≤ service.routes.length + 1 := by
  intro r
  obtain ⟨service, events, g, hstart, hdesk, -⟩ := start_withSecret "/api"
  let v : Visit := ⟨⟨service, .allowing⟩, .epoch, r⟩
  have hadmits : service.admits .epoch r = true :=
    admits_of_not_guards hdesk
      -- the guard looks at the paths below its own only
      (show (Guard.withSecret "/api").guards r.seenPath = false by decide +kernel)
  have huntaken : service.IsUntaken r.path := isUntaken_of_everyRoute (by decide +kernel)
  have hstray : v.IsStray := ⟨hadmits, huntaken⟩
  have hseen : r.seenPath = "/users/42" := by decide +kernel
  obtain ⟨-, hstrays, hcard⟩ := endpoints_acquired hstart .allowing [.request .epoch r]
  refine ⟨service, events, hstart, hseen ▸ hstrays v (List.mem_singleton_self v) hstray, ?_⟩
  have hone : [v].countP (fun v => v.IsStray) = 1 := by simp [hstray]
  exact hone ▸ hcard

/-- An id below the guarded prefix gets among the labels, if the request is granted. -/
theorem endpoints_with_id :
    let r : Request :=
      { path := "/api/users/42", peer := none, headers := [Request.adminHeader] }
    ∃ service events, start .allowing (.withSecret "/api") none = .ok (service, events) ∧
      let site := (Site.run ⟨service, .allowing⟩ [.request .epoch r]).1
      let endpoints := site.service.metrics.endpoints
      "/api/users/42" ∈ endpoints ∧ ∀ route ∈ service.routes, route.path ≠ "/api/users/42" := by
  intro r
  obtain ⟨service, events, g, hstart, hdesk, hrules⟩ := start_withSecret "/api"
  obtain ⟨_, -, hstands, -⟩ := desk_of_start hstart
  let v : Visit := ⟨⟨service, .allowing⟩, .epoch, r⟩
  have hguards : (Guard.withSecret "/api").guards r.seenPath = true := by decide +kernel
  have hknows := Guard.knows_admin (r := r) (by decide +kernel) "/api"
  have hgrants : g.current.rules.Grants r "ADMIN" := by
    rw [hrules]
    show (RuleSet.evaluate ⟨[], .allow⟩ _ _ _).granted = true
    decide +kernel
  have hadmits : service.admits .epoch r = true :=
    (admits_iff_grants hdesk hguards).mpr ⟨"ADMIN", hknows, hgrants⟩
  -- no route of any service takes the path, so its label is the path itself
  have huntaken : service.IsUntaken r.path := isUntaken_of_everyRoute (by decide +kernel)
  have hserved := Visit.isServed_of_isStray (v := v) hstands ⟨hadmits, huntaken⟩
  have hlabel : service.endpointLabel r = "/api/users/42" := by
    rw [endpointLabel_of_untaken huntaken]
    decide +kernel
  refine ⟨service, events, hstart, ?_, fun route hroute hpath => ?_⟩
  · exact (mem_endpoints hstart _ _ _).mpr ⟨v, List.mem_singleton_self v, hserved, hlabel⟩
  · have htakes := huntaken route hroute
    simp [Route.takes, hpath, r] at htakes

end Service

end RouteAccess
