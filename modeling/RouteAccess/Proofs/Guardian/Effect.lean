/-
RouteAccess/Proofs/Guardian/Effect.lean

The effect of one statement on one query.  Of the rules of a statement those speak about
a query that are for its verb and for one of its subjects, or for all, and only if the
pattern matches its path; all of them have the same policy (`effect`), that of the
statement if it declares the verb and the other one if it does not.  This is said once
(`mem_speaking_expansion_iff`), and what follows is about the tiers alone:

* a query that none of the rules speaks about is decided as before;
* a rule for a subject of the query makes the decision individual;
* a rule for all subjects makes it a decision by wildcards, unless it is individual.

In the last two cases what was granted in the tier before stays granted, and the effect
is added to it (`decided_after_statement`).
-/
import RouteAccess.Proofs.Guardian.Grant
import RouteAccess.Proofs.Policy.Tier

namespace RouteAccess

/-- Whether a list of subjects names one of the subjects of a query. -/
def Names (list asked : Option String) : Prop :=
  ∃ subject ∈ expandSubjects list, subject ≠ wildcard ∧ subject ∈ tokens asked

variable {policy : Policy} {list subjects path asked : Option String} {pattern verb : String}
variable {declared : List String} {rules : List Rule} {r : Rule}

/-! ### The rules that speak -/

section

variable (h : expandStatement policy list (some pattern) subjects = .ok rules)
variable (hdeclared : expandVerbs list = .ok declared)

include h hdeclared

/-- The rules of a statement that speak about a query. -/
theorem mem_speaking_expansion_iff :
    r ∈ RuleSet.speaking { rules := rules } verb path asked ↔
      Text.upper verb ∈ verbs ∧ Pattern.isMatch pattern (path.getD "") = true ∧
        ∃ subject ∈ expandSubjects subjects, (subject = wildcard ∨ subject ∈ tokens asked) ∧
          r = ⟨effect policy declared (Text.upper verb), Text.upper verb, Text.lower pattern,
            subject⟩ := by
  rw [RuleSet.mem_speaking, mem_expansion_iff h hdeclared]
  constructor
  · -- the rules of a statement are in normal form, so the query is held against what they say
    rintro ⟨⟨subject, hsubject, v, hv, rfl⟩, hspeaks⟩
    rw [← Rule.normal_eq hv (isToken_of_mem_expandSubjects hsubject)] at hspeaks
    obtain ⟨rfl, hasked, hpath⟩ :=
      (speaksAbout_normal_iff hv (isToken_of_mem_expandSubjects hsubject)).mp hspeaks
    exact ⟨hv, hpath, subject, hsubject, hasked, rfl⟩
  · rintro ⟨hv, hpath, subject, hsubject, hasked, rfl⟩
    refine ⟨⟨subject, hsubject, _, hv, rfl⟩, ?_⟩
    rw [← Rule.normal_eq hv (isToken_of_mem_expandSubjects hsubject)]
    exact (speaksAbout_normal_iff hv (isToken_of_mem_expandSubjects hsubject)).mpr
      ⟨rfl, hasked, hpath⟩

/-- All that speak say the same. -/
theorem policy_of_mem_speaking_expansion
    (hr : r ∈ RuleSet.speaking { rules := rules } verb path asked) :
    r.policy = effect policy declared (Text.upper verb) := by
  obtain ⟨-, -, subject, -, -, rfl⟩ := (mem_speaking_expansion_iff h hdeclared).mp hr
  rfl

/-- Where a subject of the query is named, rules that name subjects speak. -/
theorem individual_speaking_expansion_ne_nil (hv : Text.upper verb ∈ verbs)
    (hpath : Pattern.isMatch pattern (path.getD "") = true) (hnames : Names subjects asked) :
    RuleSet.individual (RuleSet.speaking { rules := rules } verb path asked) ≠ [] := by
  obtain ⟨subject, hsubject, hne, hasked⟩ := hnames
  apply List.ne_nil_of_mem
  rw [RuleSet.mem_individual, mem_speaking_expansion_iff h hdeclared]
  exact ⟨⟨hv, hpath, subject, hsubject, .inr hasked, rfl⟩, hne⟩

/-- Where no subject of the query is named, only rules for everybody speak. -/
theorem individual_speaking_expansion_eq_nil (hnames : ¬ Names subjects asked) :
    RuleSet.individual (RuleSet.speaking { rules := rules } verb path asked) = [] := by
  rw [List.eq_nil_iff_forall_not_mem]
  intro r hr
  obtain ⟨hspeaks, hne⟩ := RuleSet.mem_individual.mp hr
  obtain ⟨-, -, subject, hsubject, hasked, rfl⟩ :=
    (mem_speaking_expansion_iff h hdeclared).mp hspeaks
  exact hnames ⟨subject, hsubject, hne, hasked.resolve_left hne⟩

/-- Where everybody is meant, the rules for everybody speak. -/
theorem speaking_expansion_ne_nil (hv : Text.upper verb ∈ verbs)
    (hpath : Pattern.isMatch pattern (path.getD "") = true)
    (hwildcard : wildcard ∈ expandSubjects subjects) :
    RuleSet.speaking { rules := rules } verb path asked ≠ [] := by
  apply List.ne_nil_of_mem
  exact (mem_speaking_expansion_iff h hdeclared).mpr
    ⟨hv, hpath, wildcard, hwildcard, .inl rfl, rfl⟩

/-- Of a statement that has another verb, another path or no subject of the query, no rule speaks.
-/
theorem speaking_expansion_eq_nil
    (hnot : Text.upper verb ∉ verbs ∨ Pattern.isMatch pattern (path.getD "") = false ∨
      (wildcard ∉ expandSubjects subjects ∧
        ∀ subject ∈ expandSubjects subjects, subject ∉ tokens asked)) :
    RuleSet.speaking { rules := rules } verb path asked = [] := by
  rw [List.eq_nil_iff_forall_not_mem]
  intro r hr
  obtain ⟨hv, hpath, subject, hsubject, hasked, -⟩ :=
    (mem_speaking_expansion_iff h hdeclared).mp hr
  -- each of the three contradicts one part of what a rule says that speaks
  rcases hnot with hnot | hnot | ⟨hwildcard, hnone⟩
  · exact hnot hv
  · rw [hpath] at hnot
    cases hnot
  · rcases hasked with rfl | hasked
    · exact hwildcard hsubject
    · exact hnone subject hsubject hasked

end

/-- Rules that all have one policy allow if it does. -/
theorem RuleSet.anyAllows_of_forall_policy {p : Policy} (hne : rules ≠ [])
    (h : ∀ r ∈ rules, r.policy = p) : RuleSet.anyAllows rules = true ↔ p = .allow := by
  rw [RuleSet.anyAllows_iff]
  constructor
  · rintro ⟨r, hr, hallow⟩
    rw [← h r hr, hallow]
  · intro hallow
    obtain ⟨r, hr⟩ := List.exists_mem_of_ne_nil _ hne
    exact ⟨r, hr, (h r hr).trans hallow⟩

theorem RuleSet.speaking_extend (s : RuleSet) (rules : List Rule) (verb : String)
    (path asked : Option String) :
    (s.extend rules).speaking verb path asked
      = s.speaking verb path asked ++ RuleSet.speaking { rules := rules } verb path asked :=
  List.filter_append s.rules rules

namespace Guardian

variable {g g' : Guardian}

/-- What a statement that is made does to a query with a verb.  If the verb is not in the
fixed set, the path does not match, or no subject is met, the decision is as before.  If a
subject is named, it is individual afterwards, and it grants if the statement does or if an
individual decision granted before.  If the query is met through the wildcard only, an
individual decision is as before, and any other one becomes a decision by wildcards that
grants if the statement does or if such a decision granted before. -/
theorem decided_after_statement
    (hstatement : g.addStatement policy list (some pattern) subjects = .ok g')
    (hdeclared : expandVerbs list = .ok declared) (hverb : verb ≠ "")
    (path asked : Option String) :
    let before := g.evaluate (some verb) path asked
    let after := g'.evaluate (some verb) path asked
    let allowed := effect policy declared (Text.upper verb) = .allow
    (Text.upper verb ∉ verbs ∨ Pattern.isMatch pattern (path.getD "") = false ∨
        (wildcard ∉ expandSubjects subjects ∧
          ∀ subject ∈ expandSubjects subjects, subject ∉ tokens asked) →
      after = before) ∧
    (Text.upper verb ∈ verbs → Pattern.isMatch pattern (path.getD "") = true →
      (Names subjects asked →
        after.tier = .individual ∧
        (after.granted = true ↔
          allowed ∨ before.tier = .individual ∧ before.granted = true)) ∧
      (¬ Names subjects asked → wildcard ∈ expandSubjects subjects →
        (before.tier = .individual → after = before) ∧
        (before.tier ≠ .individual →
          after.tier = .wildcard ∧
          (after.granted = true ↔
            allowed ∨ before.tier = .wildcard ∧ before.granted = true)))) := by
  obtain ⟨rules, hrules, rfl⟩ := addStatement_ok hstatement
  dsimp only
  -- the rules that spoke before speak first, then those of the statement
  have hbefore : g.evaluate (some verb) path asked
      = RuleSet.decideBy g.current.rules.default (g.current.rules.speaking verb path asked) :=
    RuleSet.evaluate_of_ne_empty hverb _ _ _
  have hafter : (g.publish (g.current.rules.extend rules)).evaluate (some verb) path asked
      = RuleSet.decideBy g.current.rules.default (g.current.rules.speaking verb path asked ++
        RuleSet.speaking { rules := rules } verb path asked) := by
    rw [← RuleSet.speaking_extend]
    exact RuleSet.evaluate_of_ne_empty hverb _ _ _
  rw [hbefore, hafter]
  have hallows : ∀ spoken ⊆ RuleSet.speaking { rules := rules } verb path asked, spoken ≠ [] →
      (RuleSet.anyAllows spoken = true ↔ effect policy declared (Text.upper verb) = .allow) := by
    intro spoken hsub hne
    exact RuleSet.anyAllows_of_forall_policy hne fun r hr =>
      policy_of_mem_speaking_expansion hrules hdeclared (hsub hr)
  refine ⟨fun hnot => ?_, fun hv hpath => ⟨fun hnames => ?_, fun hnames hwildcard => ?_⟩⟩
  · rw [speaking_expansion_eq_nil hrules hdeclared hnot, List.append_nil]
  · have hind := individual_speaking_expansion_ne_nil hrules hdeclared hv hpath hnames
    obtain ⟨htier, hgranted⟩ := RuleSet.decideBy_append_individual hind
    refine ⟨htier, ?_⟩
    rw [hgranted, hallows _ RuleSet.individual_subset hind]
  · have hind : RuleSet.individual (RuleSet.speaking { rules := rules } verb path asked) = [] :=
      individual_speaking_expansion_eq_nil hrules hdeclared hnames
    refine ⟨fun htier => ?_, fun htier => ?_⟩
    · exact RuleSet.decideBy_append_of_individual hind (RuleSet.tier_eq_individual_iff.mp htier)
    · have hne : RuleSet.speaking { rules := rules } verb path asked ≠ [] :=
        speaking_expansion_ne_nil hrules hdeclared hv hpath hwildcard
      rw [ne_eq, RuleSet.tier_eq_individual_iff, not_not] at htier
      obtain ⟨htier, hgranted⟩ := RuleSet.decideBy_append_wildcard htier hind hne
      refine ⟨htier, ?_⟩
      rw [hgranted, hallows _ (List.Subset.refl _) hne]

/-- All may do everything with a report; then admins are allowed to post it.  For a query
that gets it as an admin this is a denial, and it outranks what all may do; a guest is
answered as before. -/
theorem decided_after_statement_complement :
    let start : Session := { guardian := {}, store := {} }
    let toAll : Step := .change (.statement .allow none (some "/report") none)
    let toPost : Step := .change (.statement .allow (some "post") (some "/report") (some "admin"))
    let before (who : Option String) :=
      (start.run [toAll]).guardian.evaluate (some "get") (some "/Report") who
    let after (who : Option String) :=
      (start.run [toAll, toPost]).guardian.evaluate (some "get") (some "/Report") who
    (before (some "Admin")).granted = true ∧ (after (some "Admin")).tier = .individual ∧
      (after (some "Admin")).granted = false ∧ after (some "guest") = before (some "guest") := by
  intro start toAll toPost before after
  have hstatement : (start.run [toAll]).guardian.addStatement .allow (some "post")
      (some "/report") (some "admin") = .ok (start.run [toAll, toPost]).guardian := rfl
  have hdeclared : expandVerbs (some "post") = .ok ["POST"] := rfl
  have hadmin : Names (some "admin") (some "Admin") :=
    ⟨"ADMIN", by decide +kernel, by decide, by decide +kernel⟩
  -- the admin meets the statement as a named subject, a guest does not meet it at all
  obtain ⟨-, hmeets⟩ := decided_after_statement hstatement hdeclared (by decide : "get" ≠ "")
    (some "/Report") (some "Admin")
  obtain ⟨htier, hgranted⟩ := (hmeets (by decide +kernel) (by decide +kernel)).1 hadmin
  obtain ⟨hguest, -⟩ := decided_after_statement hstatement hdeclared (by decide : "get" ≠ "")
    (some "/Report") (some "guest")
  refine ⟨by decide +kernel, htier, ?_, hguest (.inr (.inr (by decide +kernel)))⟩
  rw [← Bool.not_eq_true, hgranted]
  decide +kernel

end Guardian

end RouteAccess
