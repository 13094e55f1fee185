/-
RouteAccess/Proofs/Service/Recording.lean

What an answer leaves in the metrics of a service.  It is said once, stage by stage:
the guard records its decision (`Verdict.record_eq`), of the endpoints the check
alone records one (`metrics_handle`), and a reply that goes out is recorded as an
answered request (`metrics_serve`).  Apart from health checks and loads that is all
(`metrics_answer`):

    with the decisions that the request calls for, and then, if the guard lets it
    pass and nothing breaks down, with the request under its endpoint label.

The decision of the guard is told by the rules: it makes one exactly if it looks at
the request and knows who sends it (`decision?_judge_eq_some_iff`).
-/
import RouteAccess.Proofs.Metrics.Counting
import RouteAccess.Proofs.Service.Answer

namespace RouteAccess

variable {now : Clock} {r : Request}

/-! ### Decisions of the guard -/

namespace Verdict

/-- Whether a verdict is a decision about the request, and which one. -/
def decision? (v : Verdict) : Option Bool :=
  match v.passage with
  | .granted _ => some true
  | .denied _ => some false
  | _ => none

theorem decision?_congr {v w : Verdict} (h : v.passage = w.passage) :
    v.decision? = w.decision? := by
  rw [decision?, decision?, h]

theorem record_eq (v : Verdict) (r : Request) (seconds : Binary64) (m : Metrics) :
    v.record r seconds m
      = m.recordDecisions seconds (v.decision?.map (r.method, ·)).toList := by
  rw [record, decision?]
  cases v.passage <;> rfl

end Verdict

namespace Guard

variable {g : Guard} {rules : RuleSet} {granted : Bool}

theorem decision?_decide (rules : RuleSet) (r : Request) (subjects : String) :
    (decide rules r subjects).decision?
      = some (rules.evaluate (some r.method) (some r.seenPath) (some subjects)).granted := by
  rw [Verdict.decision?, passage_decide]
  cases (rules.evaluate (some r.method) (some r.seenPath) (some subjects)).granted <;> rfl

/-- A guard decides exactly about the requests that it looks at and whose sender it
knows, and it decides by the rules. -/
theorem decision?_judge_eq_some_iff :
    (g.judge rules now r).decision? = some granted ↔
      g.guards r.seenPath = true ∧ ∃ subjects, g.Knows now r subjects ∧
        (rules.evaluate (some r.method) (some r.seenPath) (some subjects)).granted = granted := by
  constructor
  · intro hdecision
    by_cases hguards : g.guards r.seenPath = true
    · -- a decision comes of the first resolver that finds, and of nobody else
      rw [judge_of_guards rules now hguards] at hdecision
      rcases passage_ask_cases rules now r g.resolvers with
        ⟨subjects, hknows, hpassage⟩ | hpassage | ⟨stop, hpassage⟩
      · rw [Verdict.decision?_congr hpassage, decision?_decide] at hdecision
        exact ⟨hguards, subjects, hknows, Option.some.inj hdecision⟩
      · simp [Verdict.decision?, hpassage] at hdecision
      · simp [Verdict.decision?, hpassage] at hdecision
    · rw [judge, if_neg hguards] at hdecision
      cases hdecision
  · rintro ⟨hguards, subjects, hknows, rfl⟩
    rw [judge_of_guards rules now hguards,
      Verdict.decision?_congr (passage_ask_of_firstFinds rules hknows), decision?_decide]

end Guard

/-- Whether metrics differ from others in nothing but health checks and loads. -/
def Metrics.SameTraffic (m m' : Metrics) : Prop :=
  ∃ healthChecks ruleLoads,
    m' = { m with healthChecks := healthChecks, ruleLoads := ruleLoads }

@[refl] theorem Metrics.SameTraffic.refl (m : Metrics) : m.SameTraffic m :=
  ⟨m.healthChecks, m.ruleLoads, rfl⟩

/-- Whether a request was answered as it should be, and not because something broke
down. -/
def Exchange.isAnswered (x : Exchange) : Bool :=
  x.broken.isNone

namespace Service

variable {s s' : Service} {desk : Desk} {store : FileStore} {reply : Reply}
  {events : List Event} {e : Endpoint}

/-! ### Decisions that a request calls for -/

/-- The decision of the guard about a request, with its verb. -/
def guardDecision? (s : Service) (now : Clock) (r : Request) : Option (String × Bool) :=
  s.desk.bind fun desk =>
    (desk.guard.judge desk.guardian.current.rules now r).decision?.map (r.method, ·)

/-- The decision about the question that a request asks, with its verb, if the request
is led to the check. -/
def askedDecision? (s : Service) (r : Request) : Option Endpoint → Option (String × Bool)
  | some .check =>
    s.desk.bind fun desk =>
      (AccessQuery.ofRequest r).toOption.map fun q => (q.verb, (s.decision desk q).granted)
  | _ => none

/-- Only what gets to the check asks for a decision. -/
theorem askedDecision?_of_ne {reached : Option Endpoint} (h : reached ≠ some .check) :
    s.askedDecision? r reached = none := by
  unfold askedDecision?
  split
  · exact absurd rfl h
  · rfl

/-- The decisions that a request calls for: that of the guard, then that of the check. -/
def decisions (s : Service) (now : Clock) (r : Request) : List (String × Bool) :=
  (s.guardDecision? now r).toList ++ (s.askedDecision? r (s.reached? now r)).toList

/-! ### Endpoints -/

/-- A check records the decision that it was asked for, if its query can be read. -/
theorem metrics_check (hdesk : s.desk = some desk)
    (h : s.check desk r = .ok (s', reply, events)) :
    s'.metrics
      = s.metrics.recordDecisions instantly (s.askedDecision? r (some .check)).toList := by
  rw [askedDecision?, hdesk]
  rw [check] at h
  split at h
  · rename_i hunreadable
    obtain ⟨rfl, -⟩ := Except.ok.inj h
    rw [hunreadable]
    rfl
  · rename_i report hfaulty
    obtain ⟨rfl, -⟩ := Except.ok.inj h
    rw [hfaulty]
    rfl
  · rename_i q hq
    obtain ⟨rfl, -⟩ := Except.ok.inj h
    rw [hq]
    rfl

/-- A reload records no decision and no request. -/
theorem metrics_reload (h : s.reload desk store = .ok (s', reply, events)) :
    s.metrics.SameTraffic s'.metrics := by
  rw [reload] at h
  split at h
  · obtain ⟨rfl, -⟩ := Except.ok.inj h
    exact .refl _
  · split at h
    · obtain ⟨rfl, -⟩ := Except.ok.inj h
      exact .refl _
    · split at h
      · simp at h
      · -- what is recorded is the reload itself
        obtain ⟨rfl, -⟩ := Except.ok.inj h
        exact ⟨_, _, rfl⟩

/-- Of all endpoints the check alone records a decision, and none records a request. -/
theorem metrics_handle (hdesk : s.desk = some desk)
    (h : s.handle store r e = .ok (s', reply, events)) :
    (s.metrics.recordDecisions instantly (s.askedDecision? r (some e)).toList).SameTraffic
      s'.metrics := by
  cases e with
  | check =>
    simp only [handle, hdesk] at h
    rw [metrics_check hdesk h]
  | health =>
    simp only [handle, health] at h
    split at h
    · obtain ⟨rfl, -⟩ := Except.ok.inj h
      exact ⟨_, _, rfl⟩
    · obtain ⟨rfl, -⟩ := Except.ok.inj h
      exact ⟨_, _, rfl⟩
  | reload =>
    simp only [handle, hdesk] at h
    exact metrics_reload h
  | rules =>
    simp only [handle, hdesk] at h
    obtain ⟨rfl, -⟩ := Except.ok.inj h
    exact .refl _
  | _ =>
    -- what only tells something records nothing
    obtain ⟨rfl, -⟩ := Except.ok.inj h
    exact .refl _

/-- A breakdown of a handler asks for no decision. -/
theorem askedDecision?_of_handle_error {b : Breakdown} (hdesk : s.desk = some desk)
    (h : s.handle store r e = .error b) : s.askedDecision? r (some e) = none := by
  cases e with
  | check =>
    simp only [handle, hdesk, check] at h
    split at h <;> cases h
  | _ => rfl

/-! ### Answers -/

/-- A route records the decision that was asked for, and no request. -/
theorem metrics_route (hdesk : s.desk = some desk)
    (h : s.route store r = .ok (s', reply, events)) :
    (s.metrics.recordDecisions instantly
      (s.askedDecision? r (s.endpoint? r)).toList).SameTraffic s'.metrics := by
  cases hfind : Routing.find s.routes r.method r.path with
  | found target =>
    simp only [route, endpoint?, hfind] at h ⊢
    exact metrics_handle hdesk h
  | _ =>
    simp only [route, endpoint?, hfind] at h ⊢
    obtain ⟨rfl, -⟩ := Except.ok.inj h
    exact .refl _

/-- A breakdown on the way to a handler asks for no decision. -/
theorem askedDecision?_of_route_error {b : Breakdown} (hdesk : s.desk = some desk)
    (h : s.route store r = .error b) : s.askedDecision? r (s.endpoint? r) = none := by
  cases hfind : Routing.find s.routes r.method r.path with
  | found target =>
    simp only [route, endpoint?, hfind] at h ⊢
    exact askedDecision?_of_handle_error hdesk h
  | _ =>
    simp only [endpoint?, hfind]
    rfl

/-- The metrics with an answered request, if it was answered. -/
def withRequest (s : Service) (m : Metrics) (r : Request) (x : Exchange) : Metrics :=
  if x.isAnswered then
    m.recordRequest r.method (s.endpointLabel r) (toString x.reply.status) instantly
  else m

/-- What is served records the decision that was asked for, and then the request, if it was
answered. -/
theorem metrics_serve (hdesk : s.desk = some desk) (store : FileStore) (r : Request)
    (subjects : Option String) (before : List Event) :
    ∃ m, (s.metrics.recordDecisions instantly
        (s.askedDecision? r (s.endpoint? r)).toList).SameTraffic m ∧
      (s.serve store r subjects before).1.metrics
        = s.withRequest m r (s.serve store r subjects before).2 := by
  rw [serve]
  cases hroute : s.route store r with
  | error b =>
    refine ⟨s.metrics, ?_, rfl⟩
    rw [askedDecision?_of_route_error hdesk hroute]
    exact .refl _
  | ok done =>
    refine ⟨done.1.metrics, metrics_route hdesk hroute, ?_⟩
    dsimp only
    -- a reply that cannot be sent is a breakdown, and that is not counted
    cases done.2.1.unsendable? with
    | none => rfl
    | some fault => rfl

/-- What the guard lets pass is served, with its decision recorded before. -/
theorem answer_of_admits (hdesk : s.desk = some desk) (hadmits : s.admits now r = true)
    (store : FileStore) :
    ∃ v subjects events,
      s.answer store now r = (s.recordVerdict r v).serve store r subjects events := by
  let v := desk.guard.judge desk.guardian.current.rules now r
  cases houtcome : v.outcome r with
  | forwarded subjects =>
    refine ⟨v, subjects, v.events, ?_⟩
    simp only [answer, hdesk, v, houtcome]
  | _ => simp [admits, hdesk, v, houtcome] at hadmits

/-- What an answer leaves in the metrics: the decisions that the request calls for, and
the request itself, if the guard lets it pass and it is answered. -/
theorem metrics_answer (hdesk : s.desk = some desk) (store : FileStore) (now : Clock)
    (r : Request) :
    ∃ m, (s.metrics.recordDecisions instantly (s.decisions now r)).SameTraffic m ∧
      (s.answer store now r).1.metrics
        = if s.admits now r then s.withRequest m r (s.answer store now r).2 else m := by
  let v := desk.guard.judge desk.guardian.current.rules now r
  have hguard : (s.recordVerdict r v).metrics
      = s.metrics.recordDecisions instantly (s.guardDecision? now r).toList := by
    rw [guardDecision?, hdesk]
    exact v.record_eq r instantly s.metrics
  have happend : s.metrics.recordDecisions instantly (s.decisions now r)
      = (s.recordVerdict r v).metrics.recordDecisions instantly
          (s.askedDecision? r (s.reached? now r)).toList := by
    rw [hguard, decisions, Metrics.recordDecisions_append]
  rw [happend]
  cases houtcome : v.outcome r with
  | forwarded subjects =>
    have hrecorded : (s.recordVerdict r v).desk = some desk := hdesk
    have hserve := metrics_serve hrecorded store r subjects v.events
    simp only [reached?, admits, answer, hdesk, v, houtcome] at hserve ⊢
    exact hserve
  | _ =>
    -- the guard answers itself, or there is no answer
    simp only [reached?, admits, answer, hdesk, v, houtcome]
    exact ⟨_, .refl _, rfl⟩

end Service

end RouteAccess
