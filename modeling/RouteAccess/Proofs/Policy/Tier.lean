/-
RouteAccess/Proofs/Policy/Tier.lean

Decisions read backwards, and decisions by more rules.  From its tier it can be told
what a decision was made by: it is in the individual tier exactly when some rule that
speaks is individual (`tier_eq_individual_iff`), and a grant there or in the wildcard
tier stands for a rule that allows.

The rules of both tiers are selected one by one, so further rules show in a decision
only through their own tiers:

    individual (met ++ further) = individual met ++ individual further.

Without further individual rules an individual decision stays as it is
(`decideBy_append_of_individual`); with them, or if all rules are for all subjects, the
grants add up.
-/
import RouteAccess.Proofs.Policy.Decision

namespace RouteAccess

namespace RuleSet

variable {default : Policy} {met further : List Rule} {r : Rule}

/-! ### Reading a decision backwards -/

theorem mem_individual : r ∈ individual met ↔ r ∈ met ∧ r.subject ≠ wildcard := by
  rw [individual, List.mem_filter, decide_eq_true_eq]

theorem individual_subset : individual met ⊆ met := fun _ hr => (mem_individual.mp hr).1

theorem mem_speaking {s : RuleSet} {verb : String} {path subjects : Option String} :
    r ∈ s.speaking verb path subjects ↔ r ∈ s.rules ∧ r.SpeaksAbout verb path subjects := by
  rw [speaking, List.mem_filter, decide_eq_true_eq]

theorem anyAllows_append :
    anyAllows (met ++ further) = true ↔ anyAllows met = true ∨ anyAllows further = true := by
  rw [anyAllows, List.any_append, Bool.or_eq_true]
  rfl

theorem ne_nil_of_anyAllows (h : anyAllows met = true) : met ≠ [] := by
  obtain ⟨r, hr, -⟩ := anyAllows_iff.mp h
  exact List.ne_nil_of_mem hr

/-- A decision is in one of the three tiers, and by its rules. -/
theorem decideBy_cases (default : Policy) (met : List Rule) :
    (individual met ≠ [] ∧ decideBy default met
      = ⟨anyAllows (individual met), .individualRules, .individual, individual met⟩) ∨
    (individual met = [] ∧ met ≠ [] ∧ decideBy default met
      = ⟨anyAllows met, .wildcardRules, .wildcard, met⟩) ∨
    (met = [] ∧ decideBy default met = ⟨default = .allow, .noRule, .default, []⟩) := by
  by_cases hind : individual met = []
  · by_cases hmet : met = []
    · exact .inr (.inr ⟨hmet, by rw [hmet, decideBy_nil]⟩)
    · exact .inr (.inl ⟨hind, hmet, decideBy_wildcard hind hmet⟩)
  · exact .inl ⟨hind, decideBy_individual hind⟩

/-- The tier is individual exactly if an individual rule speaks. -/
theorem tier_eq_individual_iff :
    (decideBy default met).tier = .individual ↔ individual met ≠ [] := by
  rcases decideBy_cases default met with ⟨hind, heq⟩ | ⟨hind, -, heq⟩ | ⟨rfl, heq⟩
  · simp [heq, hind]
  · simp [heq, hind]
  · simp [heq, individual]

/-- The tier is that of wildcards exactly if rules speak, and none of them is individual. -/
theorem tier_eq_wildcard_iff :
    (decideBy default met).tier = .wildcard ↔ individual met = [] ∧ met ≠ [] := by
  rcases decideBy_cases default met with ⟨hind, heq⟩ | ⟨hind, hmet, heq⟩ | ⟨rfl, heq⟩
  · simp [heq, hind]
  · simp [heq, hind, hmet]
  · simp [heq]

/-- A decision is individual and grants exactly if an individual rule allows. -/
theorem granted_individual_iff :
    (decideBy default met).tier = .individual ∧ (decideBy default met).granted = true ↔
      anyAllows (individual met) = true := by
  rw [tier_eq_individual_iff]
  constructor
  · rintro ⟨hind, hgranted⟩
    rwa [decideBy_individual hind] at hgranted
  · intro hallows
    have hind := ne_nil_of_anyAllows hallows
    rw [decideBy_individual hind]
    exact ⟨hind, hallows⟩

/-- Without individual rules, a decision is one of wildcards and grants exactly if a rule
allows. -/
theorem granted_wildcard_iff (hind : individual met = []) :
    (decideBy default met).tier = .wildcard ∧ (decideBy default met).granted = true ↔
      anyAllows met = true := by
  rw [tier_eq_wildcard_iff]
  constructor
  · rintro ⟨⟨-, hmet⟩, hgranted⟩
    rwa [decideBy_wildcard hind hmet] at hgranted
  · intro hallows
    have hmet := ne_nil_of_anyAllows hallows
    rw [decideBy_wildcard hind hmet]
    exact ⟨⟨hind, hmet⟩, hallows⟩

/-- In the individual tier the individual rules are what is matched. -/
theorem mem_matched_individual_iff :
    (decideBy default met).tier = .individual ∧ r ∈ (decideBy default met).matched ↔
      r ∈ individual met := by
  rw [tier_eq_individual_iff]
  constructor
  · rintro ⟨hind, hr⟩
    rwa [decideBy_individual hind] at hr
  · intro hr
    have hind := List.ne_nil_of_mem hr
    rw [decideBy_individual hind]
    exact ⟨hind, hr⟩

/-! ### Further rules -/

theorem individual_append :
    individual (met ++ further) = individual met ++ individual further :=
  List.filter_append met further

/-- Further rules for all subjects do not show in an individual decision. -/
theorem decideBy_append_of_individual (hfurther : individual further = [])
    (hind : individual met ≠ []) : decideBy default (met ++ further) = decideBy default met := by
  have happend : individual (met ++ further) = individual met := by
    rw [individual_append, hfurther, List.append_nil]
  rw [decideBy_individual hind, decideBy_individual (happend ▸ hind), happend]

/-- A further individual rule makes a decision individual; what was granted there before
stays granted. -/
theorem decideBy_append_individual (hfurther : individual further ≠ []) :
    (decideBy default (met ++ further)).tier = .individual ∧
      ((decideBy default (met ++ further)).granted = true ↔
        anyAllows (individual further) = true ∨
          (decideBy default met).tier = .individual ∧ (decideBy default met).granted = true) := by
  have hind : individual (met ++ further) ≠ [] := by
    rw [individual_append]
    exact List.append_ne_nil_of_right_ne_nil _ hfurther
  refine ⟨tier_eq_individual_iff.mpr hind, ?_⟩
  rw [granted_individual_iff, decideBy_individual hind, or_comm]
  show anyAllows (individual (met ++ further)) = true ↔ _
  rw [individual_append, anyAllows_append]

/-- So does a further rule for all subjects where no rule is individual. -/
theorem decideBy_append_wildcard (hind : individual met = []) (hfurther : individual further = [])
    (hne : further ≠ []) :
    (decideBy default (met ++ further)).tier = .wildcard ∧
      ((decideBy default (met ++ further)).granted = true ↔
        anyAllows further = true ∨
          (decideBy default met).tier = .wildcard ∧ (decideBy default met).granted = true) := by
  have hnone : individual (met ++ further) = [] := by
    rw [individual_append, hind, hfurther, List.append_nil]
  have happend : met ++ further ≠ [] := List.append_ne_nil_of_right_ne_nil _ hne
  refine ⟨tier_eq_wildcard_iff.mpr ⟨hnone, happend⟩, ?_⟩
  -- with the further rules there are some, and still no individual one
  rw [granted_wildcard_iff hind, decideBy_wildcard hnone happend, or_comm]
  show anyAllows (met ++ further) = true ↔ _
  rw [anyAllows_append]

end RuleSet

end RouteAccess
