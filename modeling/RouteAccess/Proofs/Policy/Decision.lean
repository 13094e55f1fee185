/-
RouteAccess/Proofs/Policy/Decision.lean

What decisions are made of.  A rule speaks about a query if it is for its verb,
for one of its subjects or for all of them, and if its pattern denotes the path
(`Rule.SpeaksAbout`, a relation on the texts of the query as they come in); the
rules that speak are exactly those that `evaluate` looks at (`meeting_eq`).

The main statement is `evaluate_isBy`: the rules of the first tier that is not
empty decide, one that allows is enough, and where there is none the default
decides.
-/
import RouteAccess.Policy.Decision
import RouteAccess.Proofs.Pattern.Matching

namespace RouteAccess

/-! ### Rules that speak about a query -/

namespace Pattern

instance (pattern text : String) : Decidable (Denotes pattern text) :=
  decidable_of_iff _ fits_pieces_iff

theorem isMatch_iff_denotes {pattern path : String} :
    isMatch pattern path = true ↔ Denotes pattern (Text.lower path) := by
  rw [isMatch, ← Text.toList_lower]
  exact fits_pieces_iff

end Pattern

namespace Rule

/-- Whether a rule speaks about a query. -/
def SpeaksAbout (r : Rule) (verb : String) (path subjects : Option String) : Prop :=
  r.verb = Text.upper verb ∧ (r.subject = wildcard ∨ r.subject ∈ tokens subjects) ∧
    Pattern.Denotes r.path (Text.lower (path.getD ""))

instance (r : Rule) (verb : String) (path subjects : Option String) :
    Decidable (r.SpeaksAbout verb path subjects) :=
  inferInstanceAs (Decidable (_ ∧ _ ∧ _))

/-- A rule meets a query that has been prepared exactly if it speaks about the query. -/
theorem meets_iff {r : Rule} {verb : String} {path subjects : Option String} :
    r.meets (Text.upper verb) (Text.lower (path.getD "")) (tokens subjects) = true ↔
      r.SpeaksAbout verb path subjects := by
  rw [meets, SpeaksAbout, Bool.and_eq_true, Bool.and_eq_true, Pattern.isMatch_iff_denotes,
    Text.lower_lower, Bool.or_eq_true, List.contains_iff_mem, isWildcard, decide_eq_true_eq,
    decide_eq_true_eq, and_assoc]

end Rule

namespace RuleSet

variable {s : RuleSet} {default : Policy} {met : List Rule}
variable {verb : String} {path subjects : Option String}

/-- The rules that speak about a query, in their order. -/
def speaking (s : RuleSet) (verb : String) (path subjects : Option String) : List Rule :=
  s.rules.filter fun r => r.SpeaksAbout verb path subjects

/-- The rules that meet a query that has been prepared are those that speak about it. -/
theorem meeting_eq :
    s.meeting (Text.upper verb) (Text.lower (path.getD "")) (tokens subjects)
      = s.speaking verb path subjects := by
  apply List.filter_congr
  intro r _
  rw [Bool.eq_iff_iff, Rule.meets_iff, decide_eq_true_eq]

/-! ### The tiers -/

/-- The rules that are not for all subjects. -/
def individual (rules : List Rule) : List Rule :=
  rules.filter fun r => r.subject ≠ wildcard

theorem filter_not_isWildcard (rules : List Rule) :
    rules.filter (!·.isWildcard) = individual rules := by
  apply List.filter_congr
  intro r _
  simp [Rule.isWildcard]

theorem anyAllows_iff {rules : List Rule} :
    anyAllows rules = true ↔ ∃ r ∈ rules, r.policy = .allow := by
  simp [anyAllows]

theorem decideBy_individual (h : individual met ≠ []) :
    decideBy default met
      = ⟨anyAllows (individual met), .individualRules, .individual, individual met⟩ := by
  simp only [decideBy, filter_not_isWildcard]
  rw [if_pos h]

/-- Without individual rules all rules are for all subjects. -/
theorem decideBy_wildcard (h : individual met = []) (hne : met ≠ []) :
    decideBy default met = ⟨anyAllows met, .wildcardRules, .wildcard, met⟩ := by
  have hwild : met.filter (·.isWildcard) = met := by
    rw [List.filter_eq_self]
    intro r hr
    rw [← filter_not_isWildcard, List.filter_eq_nil_iff] at h
    simpa using h r hr
  simp only [decideBy, filter_not_isWildcard]
  rw [if_neg (not_not_intro h), hwild, if_pos hne]

theorem decideBy_nil : decideBy default [] = ⟨default = .allow, .noRule, .default, []⟩ := rfl

/-! ### Decisions -/

theorem evaluate_of_empty (h : verb = "") (s : RuleSet) (path subjects : Option String) :
    s.evaluate (some verb) path subjects = ⟨false, .noVerb, .default, []⟩ := by
  rw [evaluate, Option.getD_some, if_pos h]

theorem evaluate_of_ne_empty (h : verb ≠ "") (s : RuleSet) (path subjects : Option String) :
    s.evaluate (some verb) path subjects
      = decideBy s.default (s.speaking verb path subjects) := by
  rw [evaluate, Option.getD_some, if_neg h, meeting_eq]

/-- One allowing rule for a subject of the query is enough. -/
theorem granted_of_mem {r : Rule} (hverb : verb ≠ "") (hr : r ∈ s.rules)
    (hspeaks : r.SpeaksAbout verb path subjects) (hsubject : r.subject ≠ wildcard)
    (hpolicy : r.policy = .allow) : (s.evaluate (some verb) path subjects).granted = true := by
  have hmem : r ∈ individual (s.speaking verb path subjects) := by
    rw [individual, List.mem_filter, speaking, List.mem_filter]
    simp [hr, hspeaks, hsubject]
  rw [evaluate_of_ne_empty hverb, decideBy_individual (List.ne_nil_of_mem hmem)]
  exact anyAllows_iff.mpr ⟨r, hmem, hpolicy⟩

/-- Where no rule is for the verb of a query the default decides. -/
theorem evaluate_of_forall_verb_ne (hverb : verb ≠ "")
    (h : ∀ r ∈ s.rules, r.verb ≠ Text.upper verb) (path subjects : Option String) :
    s.evaluate (some verb) path subjects = ⟨s.default = .allow, .noRule, .default, []⟩ := by
  have hnil : s.speaking verb path subjects = [] := by
    rw [speaking, List.filter_eq_nil_iff]
    intro r hr hspeaks
    exact h r hr (of_decide_eq_true hspeaks).1
  rw [evaluate_of_ne_empty hverb, hnil, decideBy_nil]

end RuleSet

namespace Decision

/-- Whether a decision is made by the rules of a tier: they are what is matched,
and one that allows is enough. -/
def IsBy (d : Decision) (tier : Tier) (rules : List Rule) : Prop :=
  d.tier = tier ∧ d.matched = rules ∧ (d.granted = true ↔ ∃ r ∈ rules, r.policy = .allow)

end Decision

namespace RuleSet

/-- Every query has a decision.  Without a verb it is denied; otherwise the
individual rules that speak about it decide, or all that speak if none of them
is individual, or the default policy if none speaks at all. -/
theorem evaluate_isBy (s : RuleSet) (verb path subjects : Option String) :
    let d := s.evaluate verb path subjects
    let met := s.speaking (verb.getD "") path subjects
    (verb.getD "" = "" → d.granted = false ∧ d.tier = .default ∧ d.matched = []) ∧
    (verb.getD "" ≠ "" →
      (individual met ≠ [] → d.IsBy .individual (individual met)) ∧
      (individual met = [] → met ≠ [] → d.IsBy .wildcard met) ∧
      (met = [] → d.tier = .default ∧ d.matched = [] ∧
        (d.granted = true ↔ s.default = .allow))) := by
  intro d met
  -- no verb at all is the empty verb
  have hd : d = s.evaluate (some (verb.getD "")) path subjects := by
    cases verb <;> rfl
  constructor
  · intro hverb
    rw [hd, evaluate_of_empty hverb]
    exact ⟨rfl, rfl, rfl⟩
  · intro hverb
    rw [evaluate_of_ne_empty hverb] at hd
    refine ⟨fun hind => ?_, fun hind hne => ?_, fun hnil => ?_⟩
    · rw [hd, decideBy_individual hind]
      exact ⟨rfl, rfl, anyAllows_iff⟩
    · rw [hd, decideBy_wildcard hind hne]
      exact ⟨rfl, rfl, anyAllows_iff⟩
    · have hdecide : d = decideBy s.default [] := by rw [hd, ← hnil]
      rw [hdecide, decideBy_nil]
      exact ⟨rfl, rfl, decide_eq_true_iff⟩

end RuleSet

end RouteAccess
