/-
RouteAccess/Proofs/Service/Management.lean

Who manages the rules of a service that guards its management.  The guard looks at
a request under the path that it is seen under, and the routes take it under the
path that it has.  For the management paths the two agree, whatever the request
looks like (`Route.seenPath_of_takes`), so no request gets to the listing or to the
reload past the guard (`granted_of_reached`).  In every session of requests and
changes of files, therefore, a step changes the rule set in force only if it is a
request for the reload that the rules before it grant to its sender, and rules are
listed only in reply to one for the listing (`managed_only_if_granted`):

    desk'.guardian.current ≠ desk.guardian.current →
      step.IsGranted desk "POST" "/guardian/reload".
-/
import RouteAccess.Proofs.Service.Run

namespace RouteAccess

/-! ### Routes and the paths that are seen -/

/-- A route that is found is one of the table, takes the path and has the method. -/
theorem Routing.find_found {α : Type} {routes : List (Route α)} {method path : String}
    {route : Route α} (h : find routes method path = .found route) :
    route ∈ routes ∧ route.takes path = true ∧ method ∈ route.methods := by
  unfold find at h
  split at h
  · rename_i found hfound
    obtain rfl := Routing.found.inj h
    have htakes := List.find?_some hfound
    simp only [Bool.and_eq_true, List.contains_iff_mem] at htakes
    exact ⟨List.mem_of_find?_eq_some hfound, htakes⟩
  · split at h
    · simp at h
    · split at h <;> simp at h

/-- A text of characters that an address keeps is kept. -/
theorem Request.flatMap_addressChar {cs : List Char} (h : ∀ c ∈ cs, addressChar c = [c]) :
    cs.flatMap addressChar = cs := by
  induction cs with
  | nil => rfl
  | cons c cs ih =>
    obtain ⟨hc, hcs⟩ := List.forall_mem_cons.mp h
    rw [List.flatMap_cons, hc, ih hcs]
    rfl

/-- A route whose path needs no escapes takes no request but those that are seen
under this very path. -/
theorem Route.seenPath_of_takes {α : Type} {route : Route α} {r : Request}
    (h : route.takes r.path = true) (hroot : route.path.toList.head? = some '/')
    (hplain : ∀ c ∈ route.path.toList, Request.addressChar c = [c]) :
    r.seenPath = route.path := by
  obtain ⟨cs, hcs⟩ : ∃ cs, route.path.toList = '/' :: cs := List.head?_eq_some_iff.mp hroot
  have hflat := Request.flatMap_addressChar hplain
  simp only [takes, Bool.or_eq_true, decide_eq_true_eq] at h
  rcases h with hpath | hpath
  · rw [Request.seenPath, hpath]
    simp only [hcs, Request.rooted] at hflat ⊢
    rw [hflat, ← hcs, String.ofList_toList]
  · -- the end of a line after the path is not seen
    have hend : "\n".toList.flatMap Request.addressChar = [] := by decide +kernel
    rw [Request.seenPath, hpath, String.toList_append]
    simp only [hcs, Request.rooted, List.cons_append] at hflat ⊢
    rw [← List.cons_append, List.flatMap_append, hflat, hend, List.append_nil, ← hcs,
      String.ofList_toList]

namespace Service

variable {store files : FileStore} {settings : Settings} {rules : Option RuleSet}
  {service s : Service} {events : List Event} {desk : Desk} {now : Clock} {r : Request}
  {e : Endpoint} {method path : String}

/-! ### Getting to the management -/

/-- The endpoints by which the rules are managed, each with its method and path. -/
inductive Manages : Endpoint → String → String → Prop
  | rules : Manages .rules "GET" "/guardian/rules"
  | reload : Manages .reload "POST" "/guardian/reload"

theorem Manages.path_mem (h : Manages e method path) : path ∈ managementPaths := by
  cases h <;> simp [managementPaths]

theorem Manages.mem_deskRoutes (h : Manages e method path) :
    ⟨path, [method], e⟩ ∈ deskRoutes := by
  cases h <;> simp [deskRoutes]

/-- The routes of a service that lead to the management have its paths and methods. -/
theorem Manages.route {route : Route Endpoint} (h : Manages e method path)
    (hroute : route ∈ s.routes) (htarget : route.target = e) :
    route.path = path ∧ route.methods = [method] := by
  have hpages : ∀ page ∈ s.pages, page.target = .page := by
    intro page hpage
    obtain ⟨_, -, rfl⟩ := List.mem_map.mp hpage
    rfl
  simp only [routes, List.mem_append] at hroute
  -- of all routes only four lead to the management, and they are at the desk
  rcases hroute with (hroute | hroute) | hroute
  · rw [hpages route hroute] at htarget
    cases h <;> cases htarget
  · simp only [commonRoutes, List.mem_cons, List.not_mem_nil, or_false] at hroute
    rcases hroute with rfl | rfl <;> cases h <;> cases htarget
  · split at hroute
    · simp only [deskRoutes, List.mem_cons, List.not_mem_nil, or_false] at hroute
      rcases hroute with rfl | rfl | rfl | rfl <;> cases h <;> cases htarget <;> exact ⟨rfl, rfl⟩
    · cases hroute

/-- The paths of the management are kept by an address. -/
theorem Manages.plain (h : Manages e method path) :
    path.toList.head? = some '/' ∧ ∀ c ∈ path.toList, Request.addressChar c = [c] := by
  have hroot : path.toList.head? = some '/' := by
    cases h <;> decide +kernel
  have hall : path.toList.all (fun c => Request.addressChar c = [c]) = true := by
    cases h <;> decide +kernel
  exact ⟨hroot, fun c hc => of_decide_eq_true (List.all_eq_true.mp hall c hc)⟩

/-- A request that gets to the management has the method and the path for it, and is
granted to its sender, if the guard looks at the management. -/
theorem granted_of_reached (hm : Manages e method path) (hdesk : s.desk = some desk)
    (hguard : ∀ p ∈ managementPaths, p ∈ desk.guard.prefixes) (h : s.reached? now r = some e) :
    r.method = method ∧ r.seenPath = path ∧
      ∃ subjects, desk.guard.Knows now r subjects ∧
        desk.guardian.current.rules.Grants r subjects := by
  obtain ⟨hadmits, hendpoint⟩ := reached?_eq_some h
  obtain ⟨route, hfind, htarget⟩ := endpoint?_eq_some hendpoint
  obtain ⟨hroute, htakes, hmethod⟩ := Routing.find_found hfind
  obtain ⟨hpath, hmethods⟩ := hm.route hroute htarget
  obtain ⟨hroot, hplain⟩ := hm.plain
  -- a path that the route takes is seen as it is written, as an address keeps its characters
  have hseen : r.seenPath = path := by
    rw [← hpath] at hroot hplain ⊢
    exact Route.seenPath_of_takes htakes hroot hplain
  have hguards : desk.guard.guards r.seenPath = true :=
    Guard.guards_iff.mpr ⟨path, hguard path hm.path_mem, hseen ▸ List.prefix_refl _⟩
  rw [hmethods, List.mem_singleton] at hmethod
  exact ⟨hmethod, hseen, (admits_iff_grants hdesk hguards).mp hadmits⟩

/-- Conversely, who is granted the management gets to it. -/
theorem reached?_of_grants (hm : Manages e method path) (hdesk : s.desk = some desk)
    (hmethod : r.method = method) (hpath : r.path = path)
    (hguards : desk.guard.guards r.seenPath = true) {subjects : String}
    (hknows : desk.guard.Knows now r subjects)
    (hgrants : desk.guardian.current.rules.Grants r subjects) :
    s.reached? now r = some e := by
  have hadmits : s.admits now r = true :=
    (admits_iff_grants hdesk hguards).mpr ⟨subjects, hknows, hgrants⟩
  rw [reached?, if_pos hadmits]
  exact endpoint?_of_mem hdesk hm.mem_deskRoutes (hmethod ▸ List.mem_singleton_self _) hpath

/-! ### Steps that manage the rules -/

/-- Whether a step is a request by a method, for a path that begins in a certain way,
whose sender is known to the guard, and to whom the rules in force grant it. -/
def Step.IsGranted (step : Step) (desk : Desk) (method path : String) : Prop :=
  ∃ now r subjects, step = .request now r ∧ r.method = method ∧
    path.toList <+: r.seenPath.toList ∧ desk.guard.Knows now r subjects ∧
    desk.guardian.current.rules.Grants r subjects

theorem isGranted_of_reached (hm : Manages e method path) (hdesk : s.desk = some desk)
    (hguard : ∀ p ∈ managementPaths, p ∈ desk.guard.prefixes) (h : s.reached? now r = some e) :
    (Step.request now r).IsGranted desk method path := by
  obtain ⟨hmethod, hseen, subjects, hknows, hgrants⟩ := granted_of_reached hm hdesk hguard h
  exact ⟨now, r, subjects, rfl, hmethod, hseen ▸ List.prefix_refl _, hknows, hgrants⟩

/-- Only a request that gets to the reload puts another snapshot in force. -/
theorem Site.reached_of_current_ne {site : Site} {step : Step}
    (h : (site.deskAfter desk step).guardian.current ≠ desk.guardian.current) :
    ∃ now r, step = .request now r ∧ site.service.reached? now r = some .reload := by
  cases step with
  | request now r =>
    refine ⟨now, r, rfl, Decidable.by_contra fun hreached => h ?_⟩
    rw [deskAfter, desk.after_of_ne hreached]
  | files store => exact absurd rfl h
  | accessFile name => exact absurd rfl h

/-- In any session with a service that guards its management, the rule set in force
changes only by a step that is a `POST` for the reload, and rules are listed only to
a `GET` for the listing, each time by a sender whom the resolvers of the service
know and to whom the rules in force before the step grant the request. -/
theorem managed_only_if_granted
    (hstart : start store settings rules = .ok (service, events))
    (hmanaged : settings.guardManagement = true) (files : FileStore) (before : List Step)
    (step : Step) :
    let site := (Site.run ⟨service, files⟩ before).1
    ∃ desk desk', site.service.desk = some desk ∧
      (site.step step).1.service.desk = some desk' ∧
      service.desk.map Desk.guard = some desk.guard ∧
      (desk'.guardian.current ≠ desk.guardian.current →
        step.IsGranted desk "POST" "/guardian/reload") ∧
      ∀ exchange ∈ (site.step step).2, exchange.reply.field? "rules" ≠ none →
        step.IsGranted desk "GET" "/guardian/rules" := by
  intro site
  obtain ⟨first, hfirst, hstands, hguard, -⟩ := desk_of_start hstart
  -- the guard is that of the start, so it looks at the management
  obtain ⟨desk, hdesk, hsame, -⟩ := (Stands.run ⟨service, files⟩ hstands before).desk
  have hprefixes : ∀ p ∈ managementPaths, p ∈ desk.guard.prefixes := by
    intro p hp
    rw [hsame, hguard]
    simp [guardedPrefixes, hmanaged, hp]
  refine ⟨desk, site.deskAfter desk step, hdesk, (Site.desk_step hdesk step).1, ?_, ?_, ?_⟩
  · rw [hfirst, hsame]
    rfl
  · intro hchanged
    obtain ⟨now, r, rfl, hreached⟩ := Site.reached_of_current_ne hchanged
    exact isGranted_of_reached .reload hdesk hprefixes hreached
  · intro exchange hexchange hrules
    cases step with
    | request now r =>
      obtain rfl := Option.some.inj hexchange
      have htold := (settled_answer hdesk site.store now r).told
      exact isGranted_of_reached .rules hdesk hprefixes (htold.eq_listed hrules).1
    | files store => cases hexchange
    | accessFile name => cases hexchange

/-- A service starts with an access file that allows everything.  The file is rewritten
to deny everything, and put in force by a sender whom a token makes known. -/
theorem managed_by_token :
    let token := "eyJhbGciOiJIUzI1NiJ9.eyJyb2wiOiJBRE1JTiJ9." ++
      "fubvyQCvxXtVOtwBvEWcfv6cwGRkx_q4qjpvj1r7Blw"
    let r : Request :=
      { method := "POST", path := "/guardian/reload", peer := none,
        headers := [("Authorization", "Bearer " ++ token)] }
    let settings : Settings := { Settings.usual "guardian" 8020 with jwtSecret := some "k" }
    let opened : FileStore := .lone "\x7b\"default\": \"allow\"\x7d"
    let closed : FileStore := .lone "\x7b\"default\": \"deny\"\x7d"
    ∃ service events, start opened settings none = .ok (service, events) ∧
      let site := (Site.run ⟨service, opened⟩ [.files closed]).1
      ∃ desk desk', site.service.desk = some desk ∧
        (site.step (.request .epoch r)).1.service.desk = some desk' ∧
        desk.guardian.current.rules = ⟨[], .allow⟩ ∧
        desk'.guardian.current.rules = ⟨[], .deny⟩ ∧
        (Step.request .epoch r).IsGranted desk "POST" "/guardian/reload" := by
  intro token r settings opened closed
  let t : TokenResolver := ⟨{ secret := "k" }, "rol", none⟩
  have htokens : tokenResolver settings = .ok [.token t] := by rfl
  obtain ⟨service, events, g, hstart, hdesk, hfile, hrules⟩ :=
    start_lone settings rfl rfl rfl htokens AccessDocument.rulesOf?_allow
  let site : Site := ⟨service, closed⟩
  let guard : Guard := ⟨guardedPrefixes settings, [.token t]⟩
  let desk : Desk := ⟨g, guard⟩
  -- the token makes the sender known, and everything is allowed
  have hguards : guard.guards r.seenPath = true := by decide +kernel
  have hknows : guard.Knows .epoch r "ADMIN" :=
    Resolver.firstFinds_cons_of_finds (Resolver.finds_token (by decide +kernel)) []
  have hgrants : g.current.rules.Grants r "ADMIN" := by
    rw [hrules]
    show (RuleSet.evaluate ⟨[], .allow⟩ _ _ _).granted = true
    decide +kernel
  have hreached : service.reached? .epoch r = some .reload :=
    reached?_of_grants .reload hdesk rfl rfl hguards hknows hgrants
  have hafter : (site.deskAfter desk (.request .epoch r)).guardian.current.rules = ⟨[], .deny⟩ := by
    rw [Site.deskAfter, hreached]
    exact Desk.rules_after_lone hfile AccessDocument.rulesOf?_deny
  obtain ⟨desk₁, desk₂, hdesk₁, hdesk₂, -, honly, -⟩ :=
    managed_only_if_granted hstart rfl opened [.files closed] (.request .epoch r)
  obtain rfl : desk = desk₁ := Option.some.inj (hdesk.symm.trans hdesk₁)
  obtain rfl : site.deskAfter desk (.request .epoch r) = desk₂ :=
    Option.some.inj ((Site.desk_step hdesk _).1.symm.trans hdesk₂)
  refine ⟨service, events, hstart, _, _, hdesk₁, hdesk₂, hrules, hafter, honly fun hsame => ?_⟩
  rw [hsame, hrules] at hafter
  exact absurd hafter (by decide)

end Service

end RouteAccess
