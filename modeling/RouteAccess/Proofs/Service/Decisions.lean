/-
RouteAccess/Proofs/Service/Decisions.lean

What the metrics of a service tell about decisions.  A visit calls for a decision of
the guard if the guard looks at the request and knows who sends it (`Visit.IsJudged`),
and for one of the check if the request gets there and asks a question
(`Visit.IsChecked`).  A check below a guarded prefix calls for both.  After any session
with a started service the counter of decisions tells, for every verb and outcome, how
many visits of either kind there were (`decisions_counted`):

    metrics.decisions.count [flagLabel granted, label]
      = visits.countP (·.IsJudged label granted) + visits.countP (·.IsChecked label granted),

there are as many durations as decisions, and no other visit changes any of this.
-/
import RouteAccess.Proofs.Service.Management
import RouteAccess.Proofs.Service.Visits

namespace RouteAccess

/-! ### Labels of decisions -/

namespace Metrics

variable {d? : Option (String × Bool)} {label : String} {granted : Bool}

theorem flagLabel_inj {a b : Bool} : flagLabel a = flagLabel b ↔ a = b := by
  cases a <;> cases b <;> decide

theorem decisionRow_eq_iff {d : String × Bool} :
    decisionRow d = [flagLabel granted, label] ↔ verbLabel d.1 = label ∧ d.2 = granted := by
  simp only [decisionRow, List.cons.injEq, flagLabel_inj, and_true]
  exact And.comm

theorem count_decisionRow (d? : Option (String × Bool)) (row : List String) :
    (d?.toList.map decisionRow).count row = if d?.map decisionRow = some row then 1 else 0 := by
  cases d? with
  | none => rfl
  | some d => simp [List.count_singleton]

/-- No decision is without labels. -/
theorem eq_none_of_decisionRow
    (h : ∀ label granted, d?.map decisionRow ≠ some [flagLabel granted, label]) : d? = none := by
  cases d? with
  | none => rfl
  | some d => exact absurd rfl (h (verbLabel d.1) d.2)

end Metrics

namespace Service

open Metrics (flagLabel verbLabel decisionRow decisionRow_eq_iff)

/-! ### Visits that call for a decision -/

namespace Visit

variable {v : Visit} {label : String} {granted : Bool}

/-- Whether the guard looks at the request and knows who sends it, the method of the
request has this label, and the rules in force decide so. -/
def IsJudged (v : Visit) (label : String) (granted : Bool) : Prop :=
  ∃ desk subjects, v.service.desk = some desk ∧
    desk.guard.guards v.request.seenPath = true ∧ desk.guard.Knows v.now v.request subjects ∧
    verbLabel v.request.method = label ∧
    (desk.guardian.current.rules.evaluate (some v.request.method) (some v.request.seenPath)
      (some subjects)).granted = granted

/-- Whether the request gets to the check and asks a question, the verb that is asked
about has this label, and the answer is this. -/
def IsChecked (v : Visit) (label : String) (granted : Bool) : Prop :=
  ∃ desk q, v.service.desk = some desk ∧ v.service.reached? v.now v.request = some .check ∧
    AccessQuery.ofRequest v.request = .ok q ∧ verbLabel q.verb = label ∧
    (v.service.decision desk q).granted = granted

/-- The decision of the guard about the request. -/
def judged? (v : Visit) : Option (String × Bool) :=
  v.service.guardDecision? v.now v.request

/-- The decision of the check about the request. -/
def checked? (v : Visit) : Option (String × Bool) :=
  v.service.askedDecision? v.request (v.service.reached? v.now v.request)

theorem decisions_eq (v : Visit) : v.decisions = v.judged?.toList ++ v.checked?.toList :=
  rfl

/-- A visit is judged exactly if the guard decides about its request. -/
theorem isJudged_iff :
    v.IsJudged label granted ↔ v.judged?.map decisionRow = some [flagLabel granted, label] := by
  rw [IsJudged, judged?, guardDecision?]
  cases v.service.desk with
  | none => simp
  | some desk =>
    simp only [Option.some.injEq, exists_and_left, exists_eq_left', Option.bind_some,
      Option.map_map, Option.map_eq_some_iff, Function.comp_apply, decisionRow_eq_iff,
      Guard.decision?_judge_eq_some_iff]
    -- the guard makes one decision, so the subjects decide what it is
    constructor
    · rintro ⟨hguards, subjects, hknows, hlabel, hgranted⟩
      exact ⟨granted, ⟨hguards, subjects, hknows, hgranted⟩, hlabel, rfl⟩
    · rintro ⟨_, ⟨hguards, subjects, hknows, hgranted⟩, hlabel, rfl⟩
      exact ⟨hguards, subjects, hknows, hlabel, hgranted⟩

/-- A visit is checked exactly if its request asks for a decision, and the query can be read. -/
theorem isChecked_iff :
    v.IsChecked label granted ↔
      v.checked?.map decisionRow = some [flagLabel granted, label] := by
  rw [IsChecked, checked?]
  by_cases hreached : v.service.reached? v.now v.request = some .check
  · rw [hreached, askedDecision?]
    cases v.service.desk with
    | none => simp
    | some desk =>
      cases AccessQuery.ofRequest v.request with
      | error report => simp [Except.toOption]
      | ok q => simp [Except.toOption, decisionRow_eq_iff]
  · rw [askedDecision?_of_ne hreached]
    simp [hreached]

instance (label : String) (granted : Bool) :
    DecidablePred fun v : Visit => v.IsJudged label granted :=
  fun _ => decidable_of_iff _ isJudged_iff.symm

instance (label : String) (granted : Bool) :
    DecidablePred fun v : Visit => v.IsChecked label granted :=
  fun _ => decidable_of_iff _ isChecked_iff.symm

/-- A visit that is of neither kind, under whatever label, calls for no decision. -/
theorem decisions_eq_nil
    (h : ∀ label granted, ¬ v.IsJudged label granted ∧ ¬ v.IsChecked label granted) :
    v.decisions = [] := by
  have hjudged : v.judged? = none :=
    Metrics.eq_none_of_decisionRow fun label granted => mt isJudged_iff.mpr (h label granted).1
  have hchecked : v.checked? = none :=
    Metrics.eq_none_of_decisionRow fun label granted => mt isChecked_iff.mpr (h label granted).2
  rw [decisions_eq, hjudged, hchecked]
  rfl

/-- Among the decisions that visits call for, each kind is found as often as there are
visits that call for it. -/
theorem count_decisions (visits : List Visit) (label : String) (granted : Bool) :
    ((visits.flatMap decisions).map decisionRow).count [flagLabel granted, label]
      = visits.countP (fun v => v.IsJudged label granted)
        + visits.countP (fun v => v.IsChecked label granted) := by
  induction visits with
  | nil => rfl
  | cons v rest ih =>
    rw [List.flatMap_cons, List.map_append, List.count_append, ih, decisions_eq, List.map_append,
      List.count_append, Metrics.count_decisionRow, Metrics.count_decisionRow, List.countP_cons,
      List.countP_cons]
    simp only [decide_eq_true_eq, isJudged_iff, isChecked_iff]
    omega

/-- What gets to the check is a `POST` that is seen under its path. -/
theorem IsChecked.request (h : v.IsChecked label granted) :
    v.request.method = "POST" ∧ v.request.seenPath = "/guardian/check" := by
  obtain ⟨desk, q, -, hreached, -⟩ := h
  obtain ⟨route, hfind, htarget⟩ := endpoint?_eq_some (reached?_eq_some hreached).2
  obtain ⟨hroute, htakes, hmethod⟩ := Routing.find_found hfind
  -- among all routes that of the check is the only one with this target
  have honly : ∀ route ∈ everyRoute, route.target = .check →
      route.path = "/guardian/check" ∧ route.methods = ["POST"] := by
    decide +kernel
  obtain ⟨hpath, hmethods⟩ := honly route (v.service.routes_subset hroute) htarget
  have hroot : route.path.toList.head? = some '/' := by
    rw [hpath]
    decide +kernel
  have hplain : route.path.toList.all (fun c => Request.addressChar c = [c]) = true := by
    rw [hpath]
    decide +kernel
  refine ⟨List.mem_singleton.mp (hmethods ▸ hmethod), ?_⟩
  rw [← hpath]
  exact Route.seenPath_of_takes htakes hroot fun c hc =>
    of_decide_eq_true (List.all_eq_true.mp hplain c hc)

end Visit

/-! ### Counting -/

variable {store : FileStore} {settings : Settings} {rules : Option RuleSet}
  {service : Service} {events : List Event}

/-- After any session with a started service, the counter of decisions tells for every label
and outcome how many visits called for such a decision, of the guard and of the check. -/
theorem decisions_counted (hstart : start store settings rules = .ok (service, events))
    (files : FileStore) (steps : List Step) :
    let visits := Site.visits ⟨service, files⟩ steps
    let metrics := (Site.run ⟨service, files⟩ steps).1.service.metrics
    (∀ label granted, metrics.decisions.count [flagLabel granted, label]
      = visits.countP (fun v => v.IsJudged label granted)
        + visits.countP (fun v => v.IsChecked label granted)) ∧
    metrics.decisionDurations.count = metrics.decisions.total ∧
    (∀ v ∈ visits, (∀ label granted, ¬ v.IsJudged label granted ∧ ¬ v.IsChecked label granted) →
      v.after.metrics.decided = v.service.metrics.decided) ∧
    ∀ v ∈ visits, ∀ label granted, v.IsChecked label granted →
      v.request.method = "POST" ∧ v.request.seenPath = "/guardian/check" := by
  intro visits metrics
  obtain ⟨desk, -, hstands, -⟩ := desk_of_start hstart
  have hnew := metrics_of_start hstart
  have hrun : metrics.decided = _ := Site.decided_run ⟨service, files⟩ hstands steps
  refine ⟨fun label granted => ?_, ?_, fun v hv hother => ?_,
    fun v _ label granted hchecked => hchecked.request⟩
  · have htally : metrics.decisions = _ := congrArg Prod.fst hrun
    rw [htally, Metrics.decided, Metrics.decisions_recordDecisions, Tally.count_addAll,
      Visit.count_decisions, hnew]
    exact Nat.zero_add _
  · -- a new histogram is as empty as the counter, and each decision is timed
    have hbalanced : service.metrics.IsBalanced := hnew ▸ Metrics.isBalanced_new deskName
    exact ((hbalanced.recordDecisions (by decide) _).of_decided hrun.symm).count
  · rw [decided_after (Site.stands_of_mem_visits hstands hv), Visit.decisions_eq_nil hother]
    rfl

/-- A check below a guarded prefix, by a sender whom a token makes known, is decided about
twice: it is granted itself, and what it asks about, with no verb, is not. -/
theorem decisions_counted_twice :
    let r : Request :=
      { method := "POST", path := "/guardian/check", peer := none,
        headers := [Request.adminHeader, ("content-type", "application/json")],
        body := "\x7b\"verb\": \"\", \"path\": \"/x\"\x7d".toUTF8 }
    ∃ service events,
      start .allowing (.withSecret "/guardian/check") none = .ok (service, events) ∧
      let metrics := (Site.run ⟨service, .allowing⟩ [.request .epoch r]).1.service.metrics
      metrics.decisions.count ["true", "POST"] = 1 ∧
      metrics.decisions.count ["false", "NONE"] = 1 ∧
      metrics.decisionDurations.count = metrics.decisions.total := by
  intro r
  obtain ⟨service, events, g, hstart, hdesk, hrules⟩ := start_withSecret "/guardian/check"
  let v : Visit := ⟨⟨service, .allowing⟩, .epoch, r⟩
  -- the guard knows the sender, and everything is allowed
  have hguards : (Guard.withSecret "/guardian/check").guards r.seenPath = true := by
    decide +kernel
  have hknows := Guard.knows_admin (r := r) (by decide +kernel) "/guardian/check"
  have hgranted : (g.current.rules.evaluate (some r.method) (some r.seenPath)
      (some "ADMIN")).granted = true := by
    rw [hrules]
    decide +kernel
  have hadmits : service.admits .epoch r = true :=
    (admits_iff_grants hdesk hguards).mpr ⟨"ADMIN", hknows, hgranted⟩
  have hreached : service.reached? .epoch r = some .check := by
    rw [reached?, if_pos hadmits]
    exact endpoint?_of_mem hdesk
      (show ⟨"/guardian/check", ["POST"], .check⟩ ∈ deskRoutes by simp [deskRoutes])
      (List.mem_singleton_self _) rfl
  -- what is asked about has no verb
  let q : AccessQuery := ⟨"", "/x", none⟩
  have hq : AccessQuery.ofRequest r = .ok q := eq_ok_of_toOption (by decide +kernel)
  have hdenied : (service.decision ⟨g, .withSecret "/guardian/check"⟩ q).granted = false := by
    rw [decision, Guardian.evaluate, hrules]
    rfl
  have hpost : verbLabel r.method = "POST" := by decide +kernel
  have hjudged : v.IsJudged "POST" true :=
    ⟨_, "ADMIN", hdesk, hguards, hknows, hpost, hgranted⟩
  have hchecked : v.IsChecked "NONE" false := ⟨_, q, hdesk, hreached, hq, rfl, hdenied⟩
  have hnotJudged : ¬ v.IsJudged "NONE" false := by
    rintro ⟨_, _, -, -, -, hlabel, -⟩
    exact absurd (hpost.symm.trans hlabel) (by decide)
  have hnotChecked : ¬ v.IsChecked "POST" true := by
    rintro ⟨_, q', -, -, hq', hlabel, -⟩
    obtain rfl := Except.ok.inj (hq.symm.trans hq')
    exact absurd hlabel (by decide)
  obtain ⟨hcounts, hdurations, -⟩ := decisions_counted hstart .allowing [.request .epoch r]
  have hpair (label : String) (granted : Bool) :
      (Site.run ⟨service, .allowing⟩ [.request .epoch r]).1.service.metrics.decisions.count
          [flagLabel granted, label]
        = [v].countP (fun v => v.IsJudged label granted)
          + [v].countP (fun v => v.IsChecked label granted) :=
    hcounts label granted
  refine ⟨service, events, hstart, (hpair "POST" true).trans ?_, (hpair "NONE" false).trans ?_,
    hdurations⟩
  · simp [hjudged, hnotChecked]
  · simp [hnotJudged, hchecked]

end Service

end RouteAccess
