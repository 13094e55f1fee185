/-
RouteAccess/Proofs/Policy/Content.lean

What a decision depends on.  Of a rule set only its content counts: which rules
there are, and the default policy.  The order of the rules and how often each of
them is repeated make no difference (`evaluate_agrees`):

    s.SameContent t → (s.evaluate verb path subjects).Agrees (t.evaluate verb path subjects).

The rules that speak about a query are selected one by one, a tier is empty or not,
and one rule that allows is enough: each of these depends on membership alone.
-/
import RouteAccess.Proofs.Policy.Decision

namespace RouteAccess

/-- Whether two lists hold the same rules. -/
def SameRules (rules rules' : List Rule) : Prop :=
  ∀ r, r ∈ rules ↔ r ∈ rules'

namespace SameRules

variable {rules rules' : List Rule}

theorem filter (h : SameRules rules rules') (p : Rule → Bool) :
    SameRules (rules.filter p) (rules'.filter p) := by
  intro r
  rw [List.mem_filter, List.mem_filter, h r]

theorem eq_nil_iff (h : SameRules rules rules') : rules = [] ↔ rules' = [] := by
  simp only [List.eq_nil_iff_forall_not_mem]
  exact forall_congr' fun r => not_congr (h r)

theorem anyAllows_eq (h : SameRules rules rules') :
    RuleSet.anyAllows rules = RuleSet.anyAllows rules' := by
  rw [Bool.eq_iff_iff, RuleSet.anyAllows_iff, RuleSet.anyAllows_iff]
  exact exists_congr fun r => and_congr_left' (h r)

end SameRules

/-! ### Rule sets with the same content -/

namespace RuleSet

/-- Whether two rule sets hold the same rules, in any order and any number of times, and
have the same default policy. -/
structure SameContent (s t : RuleSet) : Prop where
  default : s.default = t.default
  rules : SameRules s.rules t.rules

namespace SameContent

variable {s t u : RuleSet}

@[refl] theorem refl (s : RuleSet) : s.SameContent s :=
  ⟨rfl, fun _ => Iff.rfl⟩

@[trans] theorem trans (h : s.SameContent t) (h' : t.SameContent u) : s.SameContent u :=
  ⟨h.default.trans h'.default, fun r => (h.rules r).trans (h'.rules r)⟩

/-- Rules that are there already add nothing. -/
theorem extend {rules : List Rule} (h : rules ⊆ s.rules) : s.SameContent (s.extend rules) := by
  refine ⟨rfl, fun r => ?_⟩
  rw [RuleSet.extend, List.mem_append, or_iff_left_of_imp fun hr => h hr]

end SameContent

end RuleSet

/-! ### Decisions that agree -/

/-- Whether two decisions agree: they say the same, for the same reason, by the same
rules. -/
structure Decision.Agrees (d e : Decision) : Prop where
  granted : d.granted = e.granted
  reason : d.reason = e.reason
  tier : d.tier = e.tier
  matched : SameRules d.matched e.matched

@[refl] theorem Decision.Agrees.refl (d : Decision) : d.Agrees d :=
  ⟨rfl, rfl, rfl, fun _ => Iff.rfl⟩

namespace RuleSet

variable {s t : RuleSet} {met met' : List Rule}

/-- Lists with the same rules decide alike. -/
theorem decideBy_agrees (h : SameRules met met') (default : Policy) :
    (decideBy default met).Agrees (decideBy default met') := by
  have hindividual : SameRules (individual met) (individual met') := h.filter _
  by_cases hind : individual met = []
  · have hind' := hindividual.eq_nil_iff.mp hind
    by_cases hmet : met = []
    · -- no rule speaks, in either list
      rw [hmet, h.eq_nil_iff.mp hmet]
    · rw [decideBy_wildcard hind hmet, decideBy_wildcard hind' (mt h.eq_nil_iff.mpr hmet)]
      exact ⟨h.anyAllows_eq, rfl, rfl, h⟩
  · rw [decideBy_individual hind, decideBy_individual (mt hindividual.eq_nil_iff.mpr hind)]
    exact ⟨hindividual.anyAllows_eq, rfl, rfl, hindividual⟩

/-- Rule sets with the same content decide every query alike. -/
theorem evaluate_agrees (h : s.SameContent t) (verb path subjects : Option String) :
    (s.evaluate verb path subjects).Agrees (t.evaluate verb path subjects) := by
  rw [evaluate, evaluate]
  split
  · rfl
  · rw [h.default]
    exact decideBy_agrees (h.rules.filter _) t.default

end RuleSet

end RouteAccess
