/-
RouteAccess/Proofs/Service/Listing.lean

The listing of the rules says all there is to a rule set.  A rule is normalised when it is made,
and one that is made anew from its own parts is the same rule (`Rule.remade_normal`), as one round
of upper or lower case settles every text.  So a rule set is rebuilt from its listing: the rows
are read part by part, each is made into a rule, and the default policy is that which is listed
(`RuleSet.ofReply?_listed`):

    RuleSet.ofReply? (Service.listed s) = some s.
-/
import RouteAccess.Proofs.Service.Run
import RouteAccess.Proofs.Text.Case

namespace RouteAccess

theorem Policy.ofWord?_word (p : Policy) : ofWord? p.word = some p := by
  cases p <;> decide

/-! ### Rules made anew -/

namespace Rule

variable {r : Rule}

/-- Whether a rule was made from some parts, as all rules are. -/
def IsMade (r : Rule) : Prop :=
  ∃ policy verb path subject, r = normal policy verb path subject

theorem remade_normal (policy : Policy) (verb path subject : String) :
    let r := normal policy verb path subject
    normal r.policy r.verb r.path r.subject = r := by
  simp only [normal, Text.upper_upper, Text.lower_lower]

theorem IsMade.remade_eq (h : r.IsMade) : normal r.policy r.verb r.path r.subject = r := by
  obtain ⟨policy, verb, path, subject, rfl⟩ := h
  exact remade_normal policy verb path subject

/-! ### Listings read back -/

/-- The rule that is made from a row of a listing. -/
def ofRow? (row : Json) : Option Rule := do
  let policy ← (row.get? "policy").bind Json.text?
  let verb ← (row.get? "verb").bind Json.text?
  let path ← (row.get? "path").bind Json.text?
  let subject ← (row.get? "subject").bind Json.text?
  return normal (← Policy.ofWord? policy) verb path subject

/-- The row of a rule is made into the rule made anew from its parts. -/
theorem ofRow?_ruleJson (r : Rule) :
    ofRow? (Service.ruleJson r) = some (normal r.policy r.verb r.path r.subject) := by
  have hpolicy : (Service.ruleJson r).get? "policy" = some (.str r.policy.word) := rfl
  have hverb : (Service.ruleJson r).get? "verb" = some (.str r.verb) := rfl
  have hpath : (Service.ruleJson r).get? "path" = some (.str r.path) := rfl
  have hsubject : (Service.ruleJson r).get? "subject" = some (.str r.subject) := rfl
  have hword := r.policy.ofWord?_word
  simp [ofRow?, hpolicy, hverb, hpath, hsubject, Json.text?, hword]

/-- Rows that are written for rules as the program makes them are read back as these rules. -/
theorem mapM_ofRow? {rules : List Rule} (h : ∀ r ∈ rules, r.IsMade) :
    (rules.map Service.ruleJson).mapM ofRow? = some rules := by
  induction rules with
  | nil => rfl
  | cons r rest ih =>
    obtain ⟨hr, hrest⟩ := List.forall_mem_cons.mp h
    rw [List.map_cons, List.mapM_cons, ofRow?_ruleJson, hr.remade_eq, ih hrest]
    rfl

end Rule

namespace RuleSet

/-- The rule set that is rebuilt from a listing: its rows made into rules, in order, with the
default policy that is listed. -/
def ofReply? (reply : Reply) : Option RuleSet := do
  let default ← (reply.field? "default_policy").bind Json.text?
  let rows ← (reply.field? "rules").bind Json.items?
  return ⟨← rows.mapM Rule.ofRow?, ← Policy.ofWord? default⟩

/-- The listing of rules as the program makes them is read back as the whole rule set. -/
theorem ofReply?_listed {s : RuleSet} (h : ∀ r ∈ s.rules, r.IsMade) :
    ofReply? (Service.listed s) = some s := by
  have hdefault : (Service.listed s).field? "default_policy" = some (.str s.default.word) := rfl
  have hrows : (Service.listed s).field? "rules" = some (.arr (s.rules.map Service.ruleJson)) := rfl
  have hrules := Rule.mapM_ofRow? h
  have hword := s.default.ofWord?_word
  simp [ofReply?, hdefault, hrows, Json.text?, Json.items?, hrules, hword]

end RuleSet

namespace Service

/-- A rule made anew from its own normalised parts is the same rule; so the rule set in force,
whatever it is, is rebuilt from the rows of its listing and the default policy beside them. -/
theorem rebuilt_from_listing (s : Service) (desk : Desk) :
    (∀ policy verb path subject,
      let r := Rule.normal policy verb path subject
      Rule.normal r.policy r.verb r.path r.subject = r) ∧
    ((∀ r ∈ desk.guardian.current.rules.rules, r.IsMade) →
      ∃ reply, s.listing desk = .ok (s, reply, []) ∧
        RuleSet.ofReply? reply = some desk.guardian.current.rules) := by
  refine ⟨Rule.remade_normal, fun hmade => ?_⟩
  exact ⟨listed desk.guardian.current.rules, rfl, RuleSet.ofReply?_listed hmade⟩

/-- Rules whose parts become longer in the other case, or end in a sigma, and that stand there
twice and in no order of their own. -/
theorem rebuilt_from_listing_sigma :
    let rules : RuleSet := ⟨[.normal .deny "get" "/ΟΔΟΣ/İ" "straße", .normal .allow "ﬁnd" "" "*",
      .normal .deny "get" "/ΟΔΟΣ/İ" "straße"], .allow⟩
    let desk : Desk := ⟨{ current := ⟨0, rules⟩ }, ⟨[], []⟩⟩
    let s : Service :=
      ⟨"guardian", .usual "guardian" 8020, { service := "guardian" }, some desk⟩
    (∀ r ∈ rules.rules, r.IsMade) ∧
      ∃ reply, s.listing desk = .ok (s, reply, []) ∧ RuleSet.ofReply? reply = some rules := by
  intro rules desk s
  have hmade : ∀ r ∈ rules.rules, r.IsMade := by
    simp only [rules, List.mem_cons, List.not_mem_nil, or_false, forall_eq_or_imp, forall_eq]
    exact ⟨⟨_, _, _, _, rfl⟩, ⟨_, _, _, _, rfl⟩, ⟨_, _, _, _, rfl⟩⟩
  exact ⟨hmade, (rebuilt_from_listing s desk).2 hmade⟩

end Service

end RouteAccess
