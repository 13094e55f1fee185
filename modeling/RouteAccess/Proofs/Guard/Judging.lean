/-
RouteAccess/Proofs/Guard/Judging.lean

What a guard does with a request, with resolvers that come to no stop
(`judge_outcome`).  A path that no prefix fits passes unseen.  Else the resolvers
are asked in order, and the first that finds an identity is the last one asked:

    g.resolvers = before ++ x :: after
      → v.asked = before.length + 1,

whatever comes after it.  The request is forwarded exactly if the rules in force
grant it to these subjects, and the decision is recorded once.

A denial is answered with 403, and the answer repeats the subjects.  A text with
half of a pair of surrogates cannot be sent, so such subjects are denied without
an answer (`unsendable_denial`).
-/
import RouteAccess.Guard
import RouteAccess.Proofs.Result

namespace RouteAccess

variable {now : Clock} {r : Request}

/-! ### Resolvers in a row -/

namespace Resolver

/-- Whether a resolver finds no identity. -/
def IsSilent (x : Resolver) (now : Clock) (r : Request) : Prop :=
  ∃ found, x.resolve now r = .ok found ∧ found.subjects = none

/-- Whether a resolver finds an identity with these subjects. -/
def Finds (x : Resolver) (now : Clock) (r : Request) (subjects : String) : Prop :=
  ∃ found, x.resolve now r = .ok found ∧ found.subjects = some subjects

@[simp] theorem isSilent_fixed {s : Option String} :
    (fixed s).IsSilent now r ↔ s = none := by
  simp [IsSilent, resolve]

@[simp] theorem finds_fixed {s : Option String} {subjects : String} :
    (fixed s).Finds now r subjects ↔ s = some subjects := by
  simp [Finds, resolve]

/-- What a resolver of tokens finds is what it resolves to. -/
theorem finds_token {t : TokenResolver} {subjects : String}
    (h : (t.resolve now.instant r).toOption.bind (·.subjects) = some subjects) :
    (token t).Finds now r subjects := by
  obtain ⟨found, hfound, hsubjects⟩ := Option.bind_eq_some_iff.mp h
  refine ⟨found, ?_, hsubjects⟩
  rw [resolve]
  exact eq_ok_of_toOption hfound

/-- Of resolvers that come to no stop all are silent, or there is a first one that
is not. -/
theorem forall_isSilent_or_first {xs : List Resolver}
    (h : ∀ x ∈ xs, ∃ found, x.resolve now r = .ok found) :
    (∀ x ∈ xs, x.IsSilent now r) ∨
      ∃ before x after subjects, xs = before ++ x :: after ∧
        (∀ y ∈ before, y.IsSilent now r) ∧ x.Finds now r subjects := by
  induction xs with
  | nil => exact .inl (by simp)
  | cons x rest ih =>
    -- the first of the row finds, or is silent and the question goes to the rest
    obtain ⟨⟨found, hfound⟩, hrest⟩ := List.forall_mem_cons.mp h
    cases hsubjects : found.subjects with
    | some subjects => exact .inr ⟨[], x, rest, subjects, rfl, by simp, found, hfound, hsubjects⟩
    | none =>
      have hx : x.IsSilent now r := ⟨found, hfound, hsubjects⟩
      rcases ih hrest with hsilent | ⟨before, y, after, subjects, rfl, hbefore, hy⟩
      · exact .inl (List.forall_mem_cons.mpr ⟨hx, hsilent⟩)
      · exact .inr ⟨x :: before, y, after, subjects, rfl,
          List.forall_mem_cons.mpr ⟨hx, hbefore⟩, hy⟩

end Resolver

/-! ### Asking in order -/

namespace Guard

variable (rules : RuleSet) {x : Resolver} {subjects : String}

/-- A silent resolver is asked, and passes the request on. -/
theorem ask_cons_silent (hx : x.IsSilent now r) (rest : List Resolver) :
    (ask rules now r (x :: rest)).passage = (ask rules now r rest).passage ∧
      (ask rules now r (x :: rest)).asked = (ask rules now r rest).asked + 1 := by
  obtain ⟨found, hfound, hnone⟩ := hx
  rw [ask, hfound]
  simp [hnone]

/-- Silent resolvers in front change nothing but the number of those that are asked. -/
theorem ask_append_silent {before : List Resolver} (h : ∀ y ∈ before, y.IsSilent now r)
    (rest : List Resolver) :
    (ask rules now r (before ++ rest)).passage = (ask rules now r rest).passage ∧
      (ask rules now r (before ++ rest)).asked
        = (ask rules now r rest).asked + before.length := by
  induction before with
  | nil => exact ⟨rfl, rfl⟩
  | cons y before ih =>
    obtain ⟨hy, hbefore⟩ := List.forall_mem_cons.mp h
    obtain ⟨hpassage, hasked⟩ := ih hbefore
    obtain ⟨hpassage', hasked'⟩ := ask_cons_silent rules hy (before ++ rest)
    rw [List.cons_append, hpassage', hasked', hpassage, hasked]
    exact ⟨rfl, Nat.add_assoc _ _ _⟩

/-- What becomes of a request whose sender is known hangs on the rules alone. -/
theorem passage_decide (r : Request) (subjects : String) :
    (decide rules r subjects).passage =
      if (rules.evaluate (some r.method) (some r.seenPath) (some subjects)).granted then
        .granted subjects
      else .denied subjects := by
  rw [decide]
  split <;> rfl

theorem asked_decide (r : Request) (subjects : String) :
    (decide rules r subjects).asked = 0 := by
  rw [decide]
  split <;> rfl

/-- No resolver after one that finds an identity is asked. -/
theorem ask_cons_finds (hx : x.Finds now r subjects) (rest : List Resolver) :
    (ask rules now r (x :: rest)).passage = (decide rules r subjects).passage ∧
      (ask rules now r (x :: rest)).asked = 1 := by
  obtain ⟨found, hfound, hsome⟩ := hx
  rw [ask, hfound]
  simp [hsome, asked_decide]

/-- What comes after a resolver that finds an identity makes no difference. -/
theorem ask_append_finds {before : List Resolver} (h : ∀ y ∈ before, y.IsSilent now r)
    (hx : x.Finds now r subjects) (after : List Resolver) :
    ask rules now r (before ++ x :: after) = ask rules now r (before ++ [x]) := by
  induction before with
  | nil =>
    obtain ⟨found, hfound, hsome⟩ := hx
    simp only [List.nil_append, ask, hfound, hsome]
  | cons y before ih =>
    obtain ⟨hy, hbefore⟩ := List.forall_mem_cons.mp h
    simp only [List.cons_append, ask, ih hbefore]

theorem guards_iff {g : Guard} {path : String} :
    g.guards path = true ↔ ∃ p ∈ g.prefixes, p.toList <+: path.toList := by
  simp [guards]

end Guard

/-! ### Answers that can be sent -/

/-- Details that are texts. -/
def textDetails (texts : List (String × String)) : List (String × Json) :=
  texts.map fun d => (d.1, .str d.2)

theorem fieldsFinite_textDetails (texts : List (String × String)) :
    Json.fieldsFinite (textDetails texts) = true := by
  induction texts with
  | nil => rfl
  | cons d rest ih => exact ih

/-- Half of a pair among details comes from their texts alone, if their names are whole. -/
theorem fieldsHaveHalf_textDetails {texts : List (String × String)}
    (h : ∀ d ∈ texts, Surrogate.hasHalf d.1 = false) :
    Json.fieldsHaveHalf (textDetails texts) = (texts.map (·.2)).any Surrogate.hasHalf := by
  induction texts with
  | nil => rfl
  | cons d rest ih =>
    obtain ⟨hname, hrest⟩ := List.forall_mem_cons.mp h
    rw [List.map_cons, List.any_cons, ← ih hrest]
    simp [textDetails, Json.fieldsHaveHalf, Json.hasHalf, hname]

/-- A reply with a code, a message and details that are texts. -/
def Reply.reporting (status : Nat) (code message : String) (texts : List (String × String)) :
    Reply :=
  .ofJson status
    [("trace_id", .null), ("code", .str code), ("message", .str message),
      ("details", .obj (textDetails texts))]

/-- What comes of such a reply if its code, its message and the names of its details
are whole texts. -/
theorem Outcome.ofReply_reporting {status : Nat} {code message : String}
    {texts : List (String × String)}
    (h : (code :: message :: texts.map (·.1)).all (!Surrogate.hasHalf ·) = true) :
    Outcome.ofReply (.reporting status code message texts) =
      if (texts.map (·.2)).any Surrogate.hasHalf then .unsendable .text
      else .answered (.reporting status code message texts) := by
  simp only [List.all_cons, List.all_map, Bool.and_eq_true, Bool.not_eq_true', List.all_eq_true,
    Function.comp_apply] at h
  obtain ⟨hcode, hmessage, hdetails⟩ := h
  -- the names of the four parts of a report are whole, so only what they hold can have a half
  have hnames : ["trace_id", "code", "message", "details"].all (!Surrogate.hasHalf ·) := by
    decide +kernel
  simp only [List.all_cons, List.all_nil, Bool.and_eq_true, Bool.not_eq_true'] at hnames
  let body : List (String × Json) :=
    [("trace_id", .null), ("code", .str code), ("message", .str message),
      ("details", .obj (textDetails texts))]
  have hfinite : (Json.obj body).allFinite = true := by
    simp [body, Json.allFinite, Json.fieldsFinite, fieldsFinite_textDetails]
  have hhalf : (Json.obj body).hasHalf = (texts.map (·.2)).any Surrogate.hasHalf := by
    simp only [body, Json.hasHalf, Json.fieldsHaveHalf, fieldsHaveHalf_textDetails hdetails,
      hnames, hcode, hmessage, Bool.false_or, Bool.or_false]
  have hunsendable : (Reply.reporting status code message texts).unsendable? =
      if (texts.map (·.2)).any Surrogate.hasHalf then some .text else none := by
    show (if !(Json.obj body).allFinite then _ else if (Json.obj body).hasHalf then _ else _) = _
    rw [hfinite, hhalf]
    rfl
  rw [Outcome.ofReply, hunsendable]
  cases (texts.map (·.2)).any Surrogate.hasHalf <;> rfl

/-! ### From the passage to the outcome -/

namespace Verdict

variable {v : Verdict} {subjects : String}

theorem outcome_of_unguarded (h : v.passage = .unguarded) : v.outcome r = .forwarded none := by
  simp [outcome, fault?, subjects?, h]

theorem outcome_of_granted (h : v.passage = .granted subjects) :
    v.outcome r = .forwarded (some subjects) := by
  simp [outcome, fault?, subjects?, h]

/-- The reply to a request of nobody known. -/
def unknown (r : Request) : Reply :=
  .reporting 401 "AUTHENTICATION_ERROR" "Authentication failed (not authenticated)"
    [("method", r.method), ("path", r.seenPath)]

/-- The reply to a request that is denied to these subjects. -/
def denial (r : Request) (subjects : String) : Reply :=
  .reporting 403 "AUTHORIZATION_ERROR" "Access denied"
    [("method", r.method), ("path", r.seenPath), ("subjects", subjects)]

/-- A request of nobody is answered as such, unless its verb or path cannot be sent. -/
theorem outcome_of_nobody (h : v.passage = .nobody) :
    v.outcome r =
      if [r.method, r.seenPath].any Surrogate.hasHalf then .unsendable .text
      else .answered (unknown r) := by
  have hown : ["AUTHENTICATION_ERROR", "Authentication failed (not authenticated)", "method",
      "path"].all (!Surrogate.hasHalf ·) = true := by decide +kernel
  have hreply : v.outcome r = .ofReply (unknown r) := by
    rw [outcome, h]
    simp only [fault?, h]
    rfl
  rw [hreply]
  exact Outcome.ofReply_reporting hown

/-- A denied request is answered as such, unless its verb, its path or its subjects cannot be sent.
-/
theorem outcome_of_denied (h : v.passage = .denied subjects) :
    v.outcome r =
      if [r.method, r.seenPath, subjects].any Surrogate.hasHalf then .unsendable .text
      else .answered (denial r subjects) := by
  have hown : ["AUTHORIZATION_ERROR", "Access denied", "method", "path", "subjects"].all
      (!Surrogate.hasHalf ·) = true := by decide +kernel
  have hreply : v.outcome r = .ofReply (denial r subjects) := by
    rw [outcome, h]
    simp only [fault?, h]
    rfl
  rw [hreply]
  exact Outcome.ofReply_reporting hown

/-- What comes of a request about which a decision was made. -/
theorem outcome_of_decided {granted : Bool} (seconds : Binary64) (m : Metrics)
    (h : v.passage = if granted then .granted subjects else .denied subjects) :
    v.record r seconds m = m.recordDecision r.method granted seconds ∧
      v.outcome r =
        if granted then .forwarded (some subjects)
        else if [r.method, r.seenPath, subjects].any Surrogate.hasHalf then .unsendable .text
        else .answered (denial r subjects) := by
  cases granted with
  | true =>
    rw [if_pos rfl] at h
    refine ⟨?_, ?_⟩
    · rw [record, h]
    · rw [outcome_of_granted h, if_pos rfl]
  | false =>
    rw [if_neg Bool.false_ne_true] at h
    refine ⟨?_, ?_⟩
    · rw [record, h]
    · rw [outcome_of_denied h, if_neg Bool.false_ne_true]

end Verdict

/-- The clocks at the start of 1970, in universal time. -/
def Clock.epoch : Clock := .universal 0

/-! ### Judging -/

namespace Guard

open Verdict

/-- What comes of a request at a guard whose resolvers come to no stop.  If no
prefix fits, nobody is asked and the request is forwarded.  Else all are asked and
nobody knows the sender, or the first that finds an identity is the last one asked;
then one decision is recorded, and the request is forwarded exactly if it is
granted.  An answer that would repeat half of a pair of surrogates is not sent. -/
theorem judge_outcome (g : Guard) (guardian : Guardian) (now : Clock) (r : Request) (m : Metrics)
    (seconds : Binary64) (hresolve : ∀ x ∈ g.resolvers, ∃ found, x.resolve now r = .ok found) :
    let v := g.judge guardian.current.rules now r
    let seen := r.seenPath
    let isGuarded := ∃ p ∈ g.prefixes, p.toList <+: seen.toList
    (¬ isGuarded → v.asked = 0 ∧ v.outcome r = .forwarded none ∧ v.record r seconds m = m) ∧
      (isGuarded →
        ((∀ x ∈ g.resolvers, x.IsSilent now r) ∧ v.asked = g.resolvers.length ∧
          v.record r seconds m = m ∧
          v.outcome r =
            if [r.method, seen].any Surrogate.hasHalf then .unsendable .text
            else .answered (unknown r)) ∨
        ∃ before x after subjects, g.resolvers = before ++ x :: after ∧
          (∀ y ∈ before, y.IsSilent now r) ∧ x.Finds now r subjects ∧
          v.asked = before.length + 1 ∧
          v = judge ⟨g.prefixes, before ++ [x]⟩ guardian.current.rules now r ∧
          let granted := (guardian.evaluate (some r.method) (some seen) (some subjects)).granted
          v.record r seconds m = m.recordDecision r.method granted seconds ∧
          (v.record r seconds m).decisions.total = m.decisions.total + 1 ∧
          v.outcome r =
            if granted then .forwarded (some subjects)
            else if [r.method, seen, subjects].any Surrogate.hasHalf then .unsendable .text
            else .answered (denial r subjects)) := by
  intro v seen isGuarded
  refine ⟨fun hnot => ?_, fun hguarded => ?_⟩
  · -- no prefix fits
    have hv : v = ⟨.unguarded, [], 0⟩ := if_neg (fun h => hnot (guards_iff.mp h))
    rw [hv]
    exact ⟨rfl, outcome_of_unguarded rfl, rfl⟩
  · have hguards := guards_iff.mpr hguarded
    have hv : v = ask guardian.current.rules now r g.resolvers := if_pos hguards
    rcases Resolver.forall_isSilent_or_first hresolve with
      hsilent | ⟨before, x, after, subjects, hrow, hbefore, hx⟩
    · -- all are silent, so the row ends
      obtain ⟨hpassage, hasked⟩ := ask_append_silent guardian.current.rules hsilent []
      rw [List.append_nil, ← hv] at hpassage hasked
      refine .inl ⟨hsilent, ?_, ?_, outcome_of_nobody hpassage⟩
      · simpa [ask] using hasked
      · rw [record, hpassage]
        rfl
    · -- those before the first that finds are silent, those after it are not asked
      obtain ⟨hpassage, hasked⟩ :=
        ask_append_silent guardian.current.rules hbefore (x :: after)
      obtain ⟨hpassage', hasked'⟩ := ask_cons_finds guardian.current.rules hx after
      rw [← hrow, ← hv, hpassage', passage_decide] at hpassage
      rw [← hrow, ← hv, hasked', Nat.add_comm] at hasked
      obtain ⟨hrecord, houtcome⟩ := outcome_of_decided seconds m hpassage
      refine .inr ⟨before, x, after, subjects, hrow, hbefore, hx, hasked, ?_, hrecord, ?_, houtcome⟩
      · rw [hv, hrow, ask_append_finds _ hbefore hx after]
        exact (if_pos hguards).symm
      · rw [hrecord]
        exact Tally.total_add _ _

/-- The second of three resolvers knows the sender, who is granted the path. -/
theorem judge_outcome_second :
    let g : Guard := ⟨["/api"], [.fixed none, .fixed (some "admin"), .fixed (some "root")]⟩
    let guardian : Guardian := { current := ⟨1, ⟨[.normal .allow "get" "/api/*" "admin"], .deny⟩⟩ }
    let r : Request := { path := "/api/users", peer := none }
    let v := g.judge guardian.current.rules .epoch r
    v.asked = 2 ∧ v.outcome r = .forwarded (some "admin") := by
  intro g guardian r v
  have hresolve : ∀ x ∈ g.resolvers, ∃ found, x.resolve .epoch r = .ok found := by
    simp [g, Resolver.resolve]
  have hguarded : ∃ p ∈ g.prefixes, p.toList <+: r.seenPath.toList :=
    ⟨"/api", List.mem_singleton_self _, by decide +kernel⟩
  have hgranted : (guardian.evaluate (some r.method) (some r.seenPath) (some "admin")).granted
      = true := by decide +kernel
  obtain ⟨-, hjudged⟩ :=
    judge_outcome g guardian .epoch r { service := "api" } .zero hresolve
  rcases hjudged hguarded with ⟨hsilent, -⟩ | ⟨before, x, after, subjects, hrow, hbefore, hx, hv⟩
  · simp [g] at hsilent
  · obtain ⟨hasked, -, -, -, houtcome⟩ := hv
    -- the first resolver is silent, so it is not the one that finds, and the second is not
    match before, hrow with
    | [], hrow =>
      obtain ⟨rfl, -⟩ := List.cons.inj hrow
      simp at hx
    | [_], hrow =>
      obtain ⟨-, hrow⟩ := List.cons.inj hrow
      obtain ⟨rfl, -⟩ := List.cons.inj hrow
      obtain rfl := Option.some.inj (Resolver.finds_fixed.mp hx)
      rw [hgranted] at houtcome
      exact ⟨hasked, houtcome⟩
    | _ :: b :: rest, hrow =>
      obtain ⟨-, hrow⟩ := List.cons.inj hrow
      obtain ⟨rfl, -⟩ := List.cons.inj hrow
      simp at hbefore

/-- A token, signed with the secret of the guard, brings a role that is half of a
pair of surrogates.  The denial repeats it, so it cannot be sent. -/
theorem unsendable_denial :
    let token := "eyJhbGciOiJIUzI1NiIsInR5cCI6IkpXVCJ9.eyJyb2wiOiJcdWQ4MDAifQ." ++
      "LKVQtQbpOdEfuMS0DjAq-0l-vkDCVHSdX__3knI13vE"
    let r : Request :=
      { path := "/x", headers := [("Authorization", "Bearer " ++ token)], peer := none }
    let g : Guard := ⟨[""], [.token ⟨{ secret := "k" }, "rol", none⟩]⟩
    let guardian : Guardian := {}
    let v := g.judge guardian.current.rules .epoch r
    let half := String.ofList (Surrogate.standIn 0xD800)
    v.passage = .denied half ∧ v.outcome r = .unsendable .text := by
  intro token r g guardian v half
  let t : TokenResolver := ⟨{ secret := "k" }, "rol", none⟩
  -- the role of the token is what decides, and the guardian has no rules
  have hfound : (t.resolve 0 r).toOption.bind (·.subjects) = some half := by decide +kernel
  have hfinds : (Resolver.token t).Finds .epoch r half := Resolver.finds_token hfound
  have hdenied : (guardian.evaluate (some r.method) (some r.seenPath) (some half)).granted
      = false := by decide +kernel
  have hv : v = ask guardian.current.rules .epoch r g.resolvers :=
    if_pos (by decide +kernel)
  have hpassage : v.passage = .denied half := by
    rw [hv, (ask_cons_finds _ hfinds []).1, passage_decide]
    exact if_neg (Bool.eq_false_iff.mp hdenied)
  refine ⟨hpassage, ?_⟩
  rw [outcome_of_denied hpassage]
  exact if_pos (by decide +kernel)

end Guard

end RouteAccess
