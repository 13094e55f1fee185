/-
RouteAccess/Proofs/Service/LastLoad.lean

Which rules a service goes by.  Files are written, spoilt and removed while it
runs, but only a reload reads them: a request that gets to the handler of the reload
and is answered there with `reloaded` as true (`Site.reloads`).  So the rules of the
last load are told from the steps of a session alone, without a look at the
snapshots (`Site.lastLoaded`), and they are those in force (`rules_run`).
Every decision that is told, every listing, and every outcome at the guard is that
of these rules (`goesBy_lastLoaded`):

    site.service.GoesBy guard
      (Site.lastLoaded (opening store settings rules) ⟨service, files⟩ steps) now r
      (site.service.answer site.store now r).2.
-/
import RouteAccess.Proofs.Service.Run

namespace RouteAccess

/-! ### Reports of reloads -/

namespace Reply

/-- Whether a reply reports that the rules were read anew. -/
def reportsReload (reply : Reply) : Bool :=
  match reply.field? "reloaded" with
  | some (.bool flag) => flag
  | _ => false

theorem IsQuiet.not_reportsReload {reply : Reply} (h : reply.IsQuiet) :
    reply.reportsReload = false := by
  rw [reportsReload, h "reloaded" (by decide)]

end Reply

/-- Whether an endpoint answers that the rules were read anew. -/
def Handled.reportsReload : Handled → Bool
  | .ok (_, reply, _) => reply.reportsReload
  | .error _ => false

namespace Service

variable {store files : FileStore} {settings : Settings} {rules : Option RuleSet}
  {service s : Service} {events : List Event} {desk : Desk} {guard : Guard} {now : Clock}
  {r : Request} {reached : Option Endpoint} {reply : Reply}

/-- A report that the rules were read anew comes from the reload alone, which found a
document then. -/
theorem Told.document_of_reports (hnumbered : desk.guardian.current.serial < desk.guardian.next)
    (h : Told s desk store r reached reply) (hreports : reply.reportsReload = true) :
    reached = some .reload ∧ ∃ d, desk.guardian.document? store = some d := by
  cases h with
  | quiet hquiet =>
    rw [hquiet.not_reportsReload] at hreports
    cases hreports
  | decision _ => cases hreports
  | listing => cases hreports
  | @reload _ flag _ _ hreload =>
    -- the reply repeats the flag, and the flag tells whether there was a document
    have hflag : flag = true := hreports
    rw [Guardian.reload_flag hreload, Guardian.reload_adopt hreload,
      Guardian.isChanged_adopt hnumbered, Option.isSome_iff_exists] at hflag
    exact ⟨rfl, hflag⟩

/-- The handler of the reload answers that the rules were read anew exactly if the
access file holds a document. -/
theorem handle_reports_iff (hdesk : s.desk = some desk)
    (hnumbered : desk.guardian.current.serial < desk.guardian.next) :
    (s.handle store r .reload).reportsReload = true ↔
      ∃ d, desk.guardian.document? store = some d := by
  constructor
  · -- a breakdown reports nothing
    intro hreports
    cases hhandle : s.handle store r .reload with
    | error b =>
      rw [hhandle] at hreports
      cases hreports
    | ok done =>
      rw [hhandle] at hreports
      have htold := (settled_handle hdesk hhandle).told
      exact (htold.document_of_reports hnumbered hreports).2
  · rintro ⟨d, hd⟩
    obtain ⟨name, hfile, hne, hname⟩ := Guardian.document?_eq_some_iff.mp hd
    obtain ⟨notices, hload⟩ := Guardian.loadFile_of_document hname desk.guardian
    -- a document that is published is a change, whatever it says
    have hchanged : desk.guardian.isChanged (desk.guardian.publish d.ruleSet) = true :=
      Guardian.isChanged_adopt hnumbered (some d)
    have hreload : desk.guardian.reload store
        = .ok (true, desk.guardian.publish d.ruleSet, notices) := by
      rw [Guardian.reload_of_file hfile hne, hload, ← hchanged]
      rfl
    simp only [handle, hdesk, reload, hfile, if_neg hne, hreload]
    rfl

/-! ### Answers to requests -/

theorem route_of_endpoint? {e : Endpoint} (h : s.endpoint? r = some e) (store : FileStore) :
    s.route store r = s.handle store r e := by
  obtain ⟨found, hfind, rfl⟩ := endpoint?_eq_some h
  rw [Service.route, hfind]

/-- A request that gets to an endpoint is answered by it, with the decision of the guard
counted before, unless the reply cannot be sent. -/
theorem answer_of_reached (hdesk : s.desk = some desk) {e : Endpoint}
    (h : s.reached? now r = some e) (store : FileStore) :
    ∃ v, ∀ done, (s.recordVerdict r v).handle store r e = .ok done →
      match done.2.1.unsendable? with
      | none => (s.answer store now r).2.reply = done.2.1
      | some fault => (s.answer store now r).2.broken = some (.reply fault) := by
  obtain ⟨hadmits, hendpoint⟩ := reached?_eq_some h
  let v := desk.guard.judge desk.guardian.current.rules now r
  have hroute : (s.recordVerdict r v).route store r = (s.recordVerdict r v).handle store r e :=
    route_of_endpoint? (show (s.recordVerdict r v).endpoint? r = some e from hendpoint) store
  refine ⟨v, fun done hdone => ?_⟩
  simp only [admits, hdesk] at hadmits
  simp only [answer, hdesk]
  cases houtcome : (desk.guard.judge desk.guardian.current.rules now r).outcome r with
  | forwarded subjects =>
    rw [hdone] at hroute
    simp only [serve, hroute, v]
    cases done.2.1.unsendable? with
    | none => rfl
    | some fault => rfl
  | _ =>
    -- the other outcomes are not admitted
    simp [houtcome] at hadmits

/-- A question that gets to the check is answered with the decision about it, unless it
cannot be sent. -/
theorem answer_of_check (hdesk : s.desk = some desk) (h : s.reached? now r = some .check)
    {q : AccessQuery} (hq : AccessQuery.ofRequest r = .ok q) (store : FileStore) :
    match (decided (s.decision desk q)).unsendable? with
    | none => (s.answer store now r).2.reply = decided (s.decision desk q)
    | some fault => (s.answer store now r).2.broken = some (.reply fault) := by
  obtain ⟨v, hanswer⟩ := answer_of_reached hdesk h store
  obtain ⟨s', hhandle⟩ : ∃ s', (s.recordVerdict r v).handle store r .check
      = .ok (s', decided (s.decision desk q), []) := by
    have hkept : (s.recordVerdict r v).desk = some desk := hdesk
    simp only [handle, hkept, check, hq]
    exact ⟨_, rfl⟩
  exact hanswer _ hhandle

/-- To a known sender who is not granted a request, the guard answers with the denial,
unless half of a pair of surrogates keeps it from being sent. -/
theorem answer_of_not_grants (hdesk : s.desk = some desk)
    (hguards : desk.guard.guards r.seenPath = true) {subjects : String}
    (hknows : desk.guard.Knows now r subjects)
    (hgrants : ¬ desk.guardian.current.rules.Grants r subjects) (store : FileStore) :
    if [r.method, r.seenPath, subjects].any Surrogate.hasHalf then
      (s.answer store now r).2.broken = some (.reply .text)
    else (s.answer store now r).2.reply = Verdict.denial r subjects := by
  -- the guard denies, and the denial repeats the verb, the path and the subjects
  have hdenied := Guard.passage_judge_of_not_grants hguards hknows hgrants
  have houtcome := Verdict.outcome_of_denied (r := r) hdenied
  split
  · rename_i hhalf
    rw [if_pos hhalf] at houtcome
    simp [answer, hdesk, houtcome, breakDown]
  · rename_i hplain
    rw [if_neg hplain] at houtcome
    simp [answer, hdesk, houtcome]

namespace Site

variable {site : Site} {step : Step}

/-! ### Loads -/

/-- Whether a step is a request that gets to the handler of the reload and is answered
there that the rules were read anew. -/
def reloads (site : Site) : Step → Bool
  | .request now r =>
    decide (site.service.reached? now r = some .reload) &&
      (site.service.handle site.store r .reload).reportsReload
  | _ => false

/-- The rules that the access file of a site holds at the moment. -/
def fileRules? (site : Site) : Option RuleSet :=
  site.service.desk.bind fun desk =>
    (desk.guardian.document? site.store).map fun d => d.ruleSet

/-- The rules that a step loads. -/
def load? (site : Site) (step : Step) : Option RuleSet :=
  if site.reloads step then site.fileRules? else none

/-- The rules that the steps of a session load, one after the other. -/
def loads (site : Site) : List Step → List RuleSet
  | [] => []
  | step :: rest => (site.load? step).toList ++ loads (site.step step).1 rest

/-- The rules of the last load of a session, or those from before it. -/
def lastLoaded (rules : RuleSet) (site : Site) (steps : List Step) : RuleSet :=
  (site.loads steps).getLast?.getD rules

/-- Loads count in their order: those of the first step come before those of the rest. -/
theorem lastLoaded_cons (rules : RuleSet) (site : Site) (step : Step) (rest : List Step) :
    lastLoaded rules site (step :: rest)
      = lastLoaded ((site.load? step).getD rules) (site.step step).1 rest := by
  rw [lastLoaded, loads, List.getLast?_append, lastLoaded]
  cases hload : site.load? step with
  | none => simp
  | some loaded => cases (loads (site.step step).1 rest).getLast? <;> simp

/-- A request reloads exactly if it gets to the reload, and the access file holds a document. -/
theorem reloads_iff (hdesk : site.service.desk = some desk)
    (hnumbered : desk.guardian.current.serial < desk.guardian.next) :
    site.reloads (.request now r) = true ↔
      site.service.reached? now r = some .reload ∧
        ∃ d, desk.guardian.document? site.store = some d := by
  rw [reloads, Bool.and_eq_true, decide_eq_true_eq, handle_reports_iff hdesk hnumbered]

/-- A request loads the document of the access file if it gets to the reload, and else
nothing. -/
theorem load?_request (hdesk : site.service.desk = some desk)
    (hnumbered : desk.guardian.current.serial < desk.guardian.next) :
    site.load? (.request now r) =
      if site.service.reached? now r = some .reload then
        (desk.guardian.document? site.store).map fun d => d.ruleSet
      else none := by
  have hfile : site.fileRules? = (desk.guardian.document? site.store).map fun d => d.ruleSet := by
    rw [fileRules?, hdesk]
    rfl
  have hreloads : site.reloads (.request now r) = true ↔ _ := reloads_iff hdesk hnumbered
  -- elsewhere nothing is read, and no document gives no rules
  by_cases hreached : site.service.reached? now r = some .reload
  · rw [load?, hfile, if_pos hreached]
    cases hd : desk.guardian.document? site.store with
    | none => exact ite_self none
    | some d => exact if_pos (hreloads.mpr ⟨hreached, d, hd⟩)
  · rw [load?, if_neg hreached]
    exact if_neg fun h => hreached (hreloads.mp h).1

/-- Where nothing stands but the access file, a request that gets to the reload loads its rules. -/
theorem load?_lone {text : String} {rules : RuleSet} (hstore : site.store = .lone text)
    (hdesk : site.service.desk = some desk)
    (hnumbered : desk.guardian.current.serial < desk.guardian.next)
    (hfile : desk.guardian.accessFile = some "access.json")
    (hreached : site.service.reached? now r = some .reload)
    (hrules : AccessDocument.rulesOf? text = some rules) :
    site.load? (.request now r) = some rules := by
  obtain ⟨d, hd, rfl⟩ := Guardian.document?_lone hfile hrules
  rw [load?_request hdesk hnumbered, if_pos hreached, hstore, hd]
  rfl

/-- What a step loads is in force after it, and a step that loads nothing leaves the
rules. -/
theorem rules_deskAfter (hdesk : site.service.desk = some desk)
    (hnumbered : desk.guardian.current.serial < desk.guardian.next) (step : Step) :
    (site.deskAfter desk step).guardian.current.rules
      = (site.load? step).getD desk.guardian.current.rules := by
  cases step with
  | files store => rfl
  | accessFile name => rfl
  | request now r =>
    rw [load?_request hdesk hnumbered]
    by_cases hreached : site.service.reached? now r = some .reload
    · rw [deskAfter, hreached, Desk.after, Guardian.rules_adopt, if_pos rfl]
      cases desk.guardian.document? site.store <;> rfl
    · rw [deskAfter, desk.after_of_ne hreached, if_neg hreached]
      rfl

/-- The rules in force after a session are those of its last load. -/
theorem rules_run (h : site.service.Stands settings guard) (hdesk : site.service.desk = some desk)
    (steps : List Step) {desk' : Desk} (hdesk' : (site.run steps).1.service.desk = some desk') :
    desk'.guardian.current.rules = lastLoaded desk.guardian.current.rules site steps := by
  -- on the steps, with any rules in force before them
  induction steps generalizing site desk with
  | nil =>
    obtain rfl := Option.some.inj (hdesk.symm.trans hdesk')
    rfl
  | cons step rest ih =>
    rw [lastLoaded_cons, ← rules_deskAfter hdesk (h.of_desk hdesk).2]
    exact ih (h.step step) (desk_step hdesk step).1 hdesk'

/-- A client sees which reloads load rules, unless the reply cannot be sent. -/
theorem reports_of_reloads (hdesk : site.service.desk = some desk)
    (hnumbered : desk.guardian.current.serial < desk.guardian.next)
    (h : site.reloads (.request now r) = true) :
    (site.service.answer site.store now r).2.reply.reportsReload = true ∨
      ∃ fault, (site.service.answer site.store now r).2.broken = some (.reply fault) := by
  obtain ⟨hreached, hdocument⟩ := (reloads_iff hdesk hnumbered).mp h
  obtain ⟨v, hanswer⟩ := answer_of_reached hdesk hreached site.store
  -- the decision of the guard is counted before, which leaves the desk
  let s := site.service.recordVerdict r v
  have hkept : s.desk = some desk := hdesk
  have hreports : (s.handle site.store r .reload).reportsReload = true :=
    (handle_reports_iff hkept hnumbered).mpr hdocument
  cases hhandle : s.handle site.store r .reload with
  | error b =>
    rw [hhandle] at hreports
    cases hreports
  | ok done =>
    rw [hhandle] at hreports
    have hsent := hanswer done hhandle
    split at hsent
    · exact .inl (hsent ▸ hreports)
    · exact .inr ⟨_, hsent⟩

end Site

/-! ### Answers by the last load -/

/-- Whether an answer to a request goes by these rules: the decision that it tells, the
rules that it lists, who is let pass and who is denied. -/
structure GoesBy (s : Service) (guard : Guard) (rules : RuleSet) (now : Clock) (r : Request)
    (x : Exchange) : Prop where
  decision : x.reply.field? "granted" ≠ none →
    ∃ q, AccessQuery.ofRequest r = .ok q ∧
      x.reply = decided (rules.evaluate (some q.verb) (some q.path)
        (some (q.subjects.getD s.settings.anonymousSubject)))
  question : s.reached? now r = some .check → ∀ q, AccessQuery.ofRequest r = .ok q →
    let reply := decided (rules.evaluate (some q.verb) (some q.path)
      (some (q.subjects.getD s.settings.anonymousSubject)))
    match reply.unsendable? with
    | none => x.reply = reply
    | some fault => x.broken = some (.reply fault)
  listing : x.reply.field? "rules" ≠ none → x.reply = listed rules
  admission : guard.guards r.seenPath = true →
    (s.admits now r = true ↔ ∃ subjects, guard.Knows now r subjects ∧ rules.Grants r subjects)
  denial : guard.guards r.seenPath = true →
    ∀ subjects, guard.Knows now r subjects → ¬ rules.Grants r subjects →
      if [r.method, r.seenPath, subjects].any Surrogate.hasHalf then
        x.broken = some (.reply .text)
      else x.reply = Verdict.denial r subjects

theorem goesBy_current (hdesk : s.desk = some desk) (store : FileStore) (now : Clock)
    (r : Request) :
    s.GoesBy desk.guard desk.guardian.current.rules now r (s.answer store now r).2 where
  decision htells := (settled_answer hdesk store now r).told.eq_decided htells
  question hreached _ hq := answer_of_check hdesk hreached hq store
  listing hlists := ((settled_answer hdesk store now r).told.eq_listed hlists).2
  admission hguards := admits_iff_grants hdesk hguards
  denial hguards _ hknows hgrants := answer_of_not_grants hdesk hguards hknows hgrants store

/-- After any session with a service, every answer goes by the rules of the last load:
those that it was started with, or those that its access file held at the last reload
that reported success.  And what a client sees is which reloads those are: success is
reported by no other, and by each of them whose reply can be sent. -/
theorem goesBy_lastLoaded (hstart : start store settings rules = .ok (service, events))
    (files : FileStore) (steps : List Step) (now : Clock) (r : Request) :
    let site := (Site.run ⟨service, files⟩ steps).1
    let inForce := Site.lastLoaded (opening store settings rules) ⟨service, files⟩ steps
    let x := (site.service.answer site.store now r).2
    site.service.settings = settings ∧
      (∃ guard, service.desk.map Desk.guard = some guard ∧
        site.service.GoesBy guard inForce now r x) ∧
      (x.reply.reportsReload = true → site.reloads (.request now r) = true) ∧
      (site.reloads (.request now r) = true →
        x.reply.reportsReload = true ∨ ∃ fault, x.broken = some (.reply fault)) := by
  intro site inForce x
  obtain ⟨first, hfirst, hstands, -, hopening⟩ := desk_of_start hstart
  have hafter := Stands.run ⟨service, files⟩ hstands steps
  obtain ⟨desk, hdesk, hguard, hnumbered⟩ := hafter.desk
  have hrules : desk.guardian.current.rules = inForce := by
    rw [Site.rules_run hstands hfirst steps hdesk, hopening]
  refine ⟨hafter.settings, ⟨first.guard, ?_, ?_⟩, ?_, ?_⟩
  · rw [hfirst]
    rfl
  · rw [← hguard, ← hrules]
    exact goesBy_current hdesk site.store now r
  · intro hreports
    have htold := (settled_answer hdesk site.store now r).told
    exact (Site.reloads_iff hdesk hnumbered).mpr (htold.document_of_reports hnumbered hreports)
  · exact Site.reports_of_reloads hdesk hnumbered

/-- The access file of a service is rewritten from denying everything to allowing
everything: a question is answered by the old rules until the reload, and by the new
ones after it. -/
theorem goesBy_lastLoaded_rewritten :
    let settings : Settings := { Settings.usual "guardian" 8020 with guardManagement := false }
    let closed : FileStore := .lone "\x7b\"default\": \"deny\"\x7d"
    let opened : FileStore := .lone "\x7b\"default\": \"allow\"\x7d"
    let reload : Request := { method := "POST", path := "/guardian/reload", peer := none }
    let check : Request :=
      { method := "POST", path := "/guardian/check", peer := none,
        headers := [("content-type", "application/json")],
        body := "\x7b\"verb\": \"get\", \"path\": \"/api/users\"\x7d".toUTF8 }
    ∃ service events, start closed settings none = .ok (service, events) ∧
      let granted? (steps : List Step) :=
        let site := (Site.run ⟨service, closed⟩ steps).1
        (site.service.answer site.store .epoch check).2.reply.field? "granted"
      granted? [.files opened] = some (.bool false) ∧
        granted? [.files opened, .request .epoch reload] = some (.bool true) := by
  intro settings closed opened reload check
  obtain ⟨service, events, g, hstart, hdesk, hfile, hrules⟩ :=
    start_lone settings rfl rfl rfl (show tokenResolver settings = .ok [] by rfl)
      AccessDocument.rulesOf?_deny
  obtain ⟨first, hfirst, hstands, -, hopening⟩ := desk_of_start hstart
  obtain rfl := Option.some.inj (hdesk.symm.trans hfirst)
  have hnumbered := (hstands.of_desk hdesk).2
  let q : AccessQuery := ⟨"get", "/api/users", none⟩
  have hq : AccessQuery.ofRequest check = .ok q := eq_ok_of_toOption (by decide +kernel)
  -- the guard looks at neither of the requests
  have hchecked (steps : List Step) :
      (Site.run ⟨service, closed⟩ steps).1.service.reached? .epoch check = some .check :=
    (Stands.run ⟨service, closed⟩ hstands steps).reached?
      (show Guard.guards ⟨guardedPrefixes settings, []⟩ check.seenPath = false by decide +kernel)
      (show ⟨"/guardian/check", ["POST"], .check⟩ ∈ deskRoutes by simp [deskRoutes])
      (List.mem_singleton_self _) rfl .epoch
  have hreloaded : service.reached? .epoch reload = some .reload :=
    hstands.reached?
      (show Guard.guards ⟨guardedPrefixes settings, []⟩ reload.seenPath = false by decide +kernel)
      (show ⟨"/guardian/reload", ["POST"], .reload⟩ ∈ deskRoutes by simp [deskRoutes])
      (List.mem_singleton_self _) rfl .epoch
  have hload : Site.load? ⟨service, opened⟩ (.request .epoch reload) = some ⟨[], .allow⟩ :=
    Site.load?_lone rfl hdesk hnumbered hfile hreloaded AccessDocument.rulesOf?_allow
  have htold (steps : List Step) (p : Policy)
      (hlast : Site.lastLoaded (opening closed settings none) ⟨service, closed⟩ steps = ⟨[], p⟩) :
      let site := (Site.run ⟨service, closed⟩ steps).1
      (site.service.answer site.store .epoch check).2.reply.field? "granted"
        = some (.bool (p = .allow)) := by
    obtain ⟨hkept, ⟨guard, -, hgoes⟩, -⟩ :=
      goesBy_lastLoaded hstart closed steps .epoch check
    have hanswer := hgoes.question (hchecked steps) q hq
    rw [hkept, hlast] at hanswer
    let d : Decision :=
      RuleSet.evaluate ⟨[], p⟩ (some "get") (some "/api/users") (some "ANONYMOUS")
    have hsend : (decided d).unsendable? = none := by
      cases p <;> decide +kernel
    have hgranted : d.granted = decide (p = .allow) := by
      cases p <;> decide +kernel
    dsimp only at hanswer ⊢
    split at hanswer
    · rw [hanswer, ← hgranted]
      rfl
    · rename_i fault hfault
      exact absurd (hsend.symm.trans hfault) (Option.some_ne_none fault).symm
  refine ⟨service, events, hstart, htold [.files opened] .deny ?_,
    htold [.files opened, .request .epoch reload] .allow ?_⟩
  · rw [← hopening]
    exact hrules
  · rw [Site.lastLoaded_cons, Site.lastLoaded_cons]
    show Site.lastLoaded
      ((Site.load? ⟨service, opened⟩ (.request .epoch reload)).getD _) _ [] = _
    rw [hload]
    rfl

end Service

end RouteAccess
