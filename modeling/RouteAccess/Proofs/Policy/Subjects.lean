/-
RouteAccess/Proofs/Policy/Subjects.lean

Callers with several subjects.  A rule speaks about a query for two lists of subjects
put together exactly when it speaks about one for the first or for the second
(`Rule.speaksAbout_append_separator`).  A rule for all subjects speaks about every list
alike, so queries that no individual rule speaks about differ in nothing
(`speaking_eq_of_individual_nil`).

Hence the decision for the two lists together follows from the two decisions for each
of them (`evaluate_append_separator`): those in the individual tier are united, and if
there is none, all three are the same.  A grant in the wildcard tier counts for nothing
beside an individual decision, so further subjects can take access away.
-/
import Mathlib.Tactic.Tauto
import RouteAccess.Proofs.Policy.Tier
import RouteAccess.Proofs.Subject.Joining

namespace RouteAccess

variable {verb : String} {path subjects others : Option String} {a b : String}

namespace Rule

variable {r : Rule}

theorem speaksAbout_append_separator :
    r.SpeaksAbout verb path (some (a ++ String.singleton separator ++ b)) ↔
      r.SpeaksAbout verb path (some a) ∨ r.SpeaksAbout verb path (some b) := by
  simp only [SpeaksAbout, tokens, tokensOf_append_separator, List.mem_append]
  tauto

/-- A rule for all subjects speaks about any of them. -/
theorem SpeaksAbout.of_wildcard (h : r.SpeaksAbout verb path subjects)
    (hwildcard : r.subject = wildcard) (others : Option String) :
    r.SpeaksAbout verb path others :=
  ⟨h.1, .inl hwildcard, h.2.2⟩

end Rule

namespace RuleSet

variable {s : RuleSet}

/-- An individual rule speaks for two lists together exactly if it speaks for one of them. -/
theorem mem_individual_speaking_append {r : Rule} :
    r ∈ individual (s.speaking verb path (some (a ++ String.singleton separator ++ b))) ↔
      r ∈ individual (s.speaking verb path (some a)) ∨
        r ∈ individual (s.speaking verb path (some b)) := by
  simp only [mem_individual, mem_speaking, Rule.speaksAbout_append_separator]
  tauto

/-- Without individual rules the same rules speak, whatever the subjects are. -/
theorem speaking_eq_of_individual_nil (h : individual (s.speaking verb path subjects) = [])
    (hothers : individual (s.speaking verb path others) = []) :
    s.speaking verb path subjects = s.speaking verb path others := by
  have hwildcard : ∀ {asked : Option String}, individual (s.speaking verb path asked) = [] →
      ∀ r ∈ s.rules, r.SpeaksAbout verb path asked → r.subject = wildcard := by
    intro asked hnone r hr hspeaks
    by_contra hsubject
    have hmem : r ∈ individual (s.speaking verb path asked) :=
      mem_individual.mpr ⟨mem_speaking.mpr ⟨hr, hspeaks⟩, hsubject⟩
    rw [hnone] at hmem
    exact absurd hmem List.not_mem_nil
  -- each rule that speaks is for all subjects, so it speaks for others as well
  apply List.filter_congr
  intro r hr
  rw [decide_eq_decide]
  constructor
  · intro hspeaks
    exact hspeaks.of_wildcard (hwildcard h r hr hspeaks) others
  · intro hspeaks
    exact hspeaks.of_wildcard (hwildcard hothers r hr hspeaks) subjects

/-- Decisions by individual rules unite with the rules. -/
theorem decideBy_of_individual_union {default : Policy} {one other both : List Rule}
    (hunion : ∀ r, r ∈ individual both ↔ r ∈ individual one ∨ r ∈ individual other)
    (hind : (decideBy default one).tier = .individual ∨
      (decideBy default other).tier = .individual) :
    (decideBy default both).tier = .individual ∧
    (∀ r, r ∈ (decideBy default both).matched ↔
      (decideBy default one).tier = .individual ∧ r ∈ (decideBy default one).matched ∨
        (decideBy default other).tier = .individual ∧ r ∈ (decideBy default other).matched) ∧
    ((decideBy default both).granted = true ↔
      (decideBy default one).tier = .individual ∧ (decideBy default one).granted = true ∨
        (decideBy default other).tier = .individual ∧ (decideBy default other).granted = true) := by
  have htier : (decideBy default both).tier = .individual := by
    rw [tier_eq_individual_iff, tier_eq_individual_iff] at hind
    rw [tier_eq_individual_iff]
    rcases hind with hne | hne
    · obtain ⟨r, hr⟩ := List.exists_mem_of_ne_nil _ hne
      exact List.ne_nil_of_mem ((hunion r).mpr (.inl hr))
    · obtain ⟨r, hr⟩ := List.exists_mem_of_ne_nil _ hne
      exact List.ne_nil_of_mem ((hunion r).mpr (.inr hr))
  refine ⟨htier, fun r => ?_, ?_⟩
  · -- in the individual tier the rules that are matched are the individual ones, on both sides
    calc r ∈ (decideBy default both).matched
        ↔ r ∈ individual both := (and_iff_right htier).symm.trans mem_matched_individual_iff
      _ ↔ r ∈ individual one ∨ r ∈ individual other := hunion r
      _ ↔ _ := or_congr mem_matched_individual_iff.symm mem_matched_individual_iff.symm
  · calc (decideBy default both).granted = true
        ↔ anyAllows (individual both) = true :=
          (and_iff_right htier).symm.trans granted_individual_iff
      _ ↔ anyAllows (individual one) = true ∨ anyAllows (individual other) = true := by
          simp only [anyAllows_iff, hunion, or_and_right, exists_or]
      _ ↔ _ := or_congr granted_individual_iff.symm granted_individual_iff.symm

/-- The decision for two lists of subjects together.  If it is individual for one of them,
it is so for both together, by the rules of those that are individual, and it grants if
one of them does; otherwise all three decisions are the same. -/
theorem evaluate_append_separator (s : RuleSet) (verb path : Option String) (a b : String) :
    let one := s.evaluate verb path (some a)
    let other := s.evaluate verb path (some b)
    let both := s.evaluate verb path (some (a ++ String.singleton separator ++ b))
    (one.tier = .individual ∨ other.tier = .individual →
      both.tier = .individual ∧
      (∀ r, r ∈ both.matched ↔
        one.tier = .individual ∧ r ∈ one.matched ∨
          other.tier = .individual ∧ r ∈ other.matched) ∧
      (both.granted = true ↔
        one.tier = .individual ∧ one.granted = true ∨
          other.tier = .individual ∧ other.granted = true)) ∧
    (one.tier ≠ .individual → other.tier ≠ .individual → both = one ∧ both = other) := by
  dsimp only
  by_cases hverb : verb.getD "" = ""
  · -- without a verb there is one answer to all queries
    have hdenied : ∀ asked, s.evaluate verb path asked = ⟨false, .noVerb, .default, []⟩ := by
      intro asked
      rw [evaluate, if_pos hverb]
    simp only [hdenied]
    simp
  · have hdecide : ∀ asked, s.evaluate verb path asked
        = decideBy s.default (s.speaking (verb.getD "") path asked) := by
      intro asked
      rw [evaluate, if_neg hverb, meeting_eq]
    simp only [hdecide]
    refine ⟨decideBy_of_individual_union fun _ => mem_individual_speaking_append,
      fun hone hother => ?_⟩
    rw [ne_eq, tier_eq_individual_iff, not_not] at hone hother
    have hboth : individual (s.speaking (verb.getD "") path
        (some (a ++ String.singleton separator ++ b))) = [] := by
      rw [List.eq_nil_iff_forall_not_mem]
      intro r hr
      rcases mem_individual_speaking_append.mp hr with hr | hr
      · exact absurd hr (List.eq_nil_iff_forall_not_mem.mp hone r)
      · exact absurd hr (List.eq_nil_iff_forall_not_mem.mp hother r)
    constructor
    · rw [speaking_eq_of_individual_nil hboth hone]
    · rw [speaking_eq_of_individual_nil hboth hother]

/-- All may read, but those on probation may not, and admins may.  So a guest may read
until probation is added to his subjects; one on probation may as soon as he is an admin
too; and a visitor is decided about as the guest that he is. -/
theorem evaluate_append_separator_probation :
    let s : RuleSet := ⟨[.normal .allow "get" "/x" "*", .normal .deny "get" "/x" "probation",
      .normal .allow "get" "/x" "admin"], .deny⟩
    let decided (subjects : String) := s.evaluate (some "get") (some "/x") (some subjects)
    (decided "guest").granted = true ∧ (decided "guest|probation").granted = false ∧
      (decided "probation|admin").granted = true ∧
      (decided "guest|visitor") = decided "guest" := by
  intro s decided
  -- probation matters since it is met individually, a visitor since he is not
  obtain ⟨hguest, -⟩ := evaluate_append_separator s (some "get") (some "/x") "guest" "probation"
  obtain ⟨hadmin, -⟩ := evaluate_append_separator s (some "get") (some "/x") "probation" "admin"
  obtain ⟨-, hvisitor⟩ := evaluate_append_separator s (some "get") (some "/x") "guest" "visitor"
  obtain ⟨-, -, hguest⟩ := hguest (.inr (by decide +kernel))
  obtain ⟨-, -, hadmin⟩ := hadmin (.inl (by decide +kernel))
  refine ⟨by decide +kernel, ?_, hadmin.mpr (.inr (by decide +kernel)),
    (hvisitor (by decide +kernel) (by decide +kernel)).1⟩
  rw [← Bool.not_eq_true]
  exact fun hgranted => absurd (hguest.mp hgranted) (by decide +kernel)

end RuleSet

end RouteAccess
