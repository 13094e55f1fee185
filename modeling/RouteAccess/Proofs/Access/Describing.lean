/-
RouteAccess/Proofs/Access/Describing.lean

The rules of a document in one line each.  Such a line is a statement again.  Its four words are
the parts of the rule: statements are read word by word, so the path and the subjects of a rule
that comes from one are broken by no blank (`isPlain_of_mem_ruleSet`).  The verb and the subject
of a normal rule are read as themselves, so the statement stands for the rule, among others
(`Rule.IsNormal.mem_expansion`).

Hence a rule is read back from its line, whatever document it comes from
(`describe_read_back`).
-/
import RouteAccess.Proofs.Guardian.Normal
import RouteAccess.Proofs.Subject.Joining
import RouteAccess.Proofs.Text.Words

namespace RouteAccess

/-! ### Statements of unbroken parts -/

/-- The tokens of an unbroken text are unbroken. -/
theorem isUnbroken_of_mem_tokens {s t : String} (hs : Text.IsUnbroken s)
    (h : t ∈ tokens (some s)) : Text.IsUnbroken t where
  ne_empty := (isToken_of_mem_tokens h).ne_empty
  no_blank := by
    simp only [tokens, tokensOf, List.mem_map, List.mem_filter] at h
    obtain ⟨-, ⟨⟨piece, hpiece, rfl⟩, -⟩, rfl⟩ := h
    rw [String.toList_ofList]
    intro d hd
    obtain ⟨c, hc, hdc⟩ := List.mem_flatMap.mp hd
    have hmem := (Text.mem_of_mem_cutAt hpiece c (Text.mem_of_mem_trimChars hc)).1
    exact Text.isBlank_of_mem_upperChar (hs.no_blank c hmem) hdc

/-- The subjects of an unbroken text are unbroken: each is a token of it, or the wildcard. -/
theorem isUnbroken_of_mem_expandSubjects {s subject : String} (hs : Text.IsUnbroken s)
    (h : subject ∈ expandSubjects (some s)) : Text.IsUnbroken subject := by
  have hdeclares := declaresSubjects_expandSubjects (some s)
  rw [DeclaresSubjects] at hdeclares
  split at hdeclares
  · rw [hdeclares, List.mem_singleton] at h
    rw [h]
    exact .of_all (by decide)
  · exact isUnbroken_of_mem_tokens hs ((hdeclares.mem_iff subject).mp h)

namespace Statement

/-- The path and the subjects of a statement that was read are single words. -/
theorem isUnbroken_of_ofJson {entry : Json} {statement : Statement}
    (h : ofJson entry = .ok statement) :
    Text.IsUnbroken statement.path ∧ Text.IsUnbroken statement.subjects := by
  cases entry with
  | str text =>
    rw [ofJson, ofText] at h
    split at h
    · rename_i policy verbs path subjects hwords
      -- path and subjects are two of the four words, and words are unbroken
      have hword : ∀ w ∈ [policy, verbs, path, subjects], Text.IsUnbroken w := by
        rw [← hwords]
        exact fun w hw => Text.isUnbroken_of_mem_words hw
      split at h
      · obtain rfl := Except.ok.inj h
        exact ⟨hword path (by simp), (hword subjects (by simp)).upper⟩
      · cases h
    · cases h
  | _ => cases h

end Statement

/-! ### Rules in one line -/

theorem Policy.isUnbroken_word (p : Policy) : Text.IsUnbroken p.word := by
  cases p <;> exact .of_all (by decide)

theorem isUnbroken_of_mem_verbs {v : String} (h : v ∈ verbs) : Text.IsUnbroken v := by
  have hall : ∀ w ∈ verbs, w ≠ "" ∧ w.toList.all (fun c => !Text.isBlank c) = true := by
    decide +kernel
  exact .of_all (hall v h)

namespace Rule

variable {r : Rule}

/-- Whether a rule is normal, and its path and its subject are broken by no blank. -/
structure IsPlain (r : Rule) : Prop where
  isNormal : r.IsNormal
  path : Text.IsUnbroken r.path
  subject : Text.IsUnbroken r.subject

theorem describe_eq_intercalate (r : Rule) :
    r.describe = String.intercalate " " [r.policy.word, r.verb, r.path, r.subject] := by
  simp [describe, String.append_assoc]

/-- The line of a plain rule is read as its four parts. -/
theorem IsPlain.ofText_describe (h : r.IsPlain) :
    Statement.ofText r.describe = .ok ⟨r.policy, r.verb, r.path, r.subject⟩ := by
  have hparts : ∀ w ∈ [r.policy.word, r.verb, r.path, r.subject], Text.IsUnbroken w := by
    simp only [List.mem_cons, List.not_mem_nil, or_false, forall_eq_or_imp, forall_eq]
    exact ⟨r.policy.isUnbroken_word, isUnbroken_of_mem_verbs h.isNormal.verb_mem, h.path,
      h.subject⟩
  have hpolicy : Policy.ofToken? r.policy.word = some r.policy := by
    cases r.policy <;> decide +kernel
  rw [Statement.ofText, describe_eq_intercalate, Text.words_intercalate hparts]
  simp only [hpolicy, upper_of_mem_verbs h.isNormal.verb_mem, h.isNormal.subject_isToken.upper_eq]

/-- A normal rule is among those that the statement of its parts stands for. -/
theorem IsNormal.mem_expansion (h : r.IsNormal) :
    ∃ rules, expandStatement r.policy (some r.verb) (some r.path) (some r.subject) = .ok rules ∧
      r ∈ rules := by
  have hverb : tokens (some r.verb) = [r.verb] := (isToken_of_mem_verbs h.verb_mem).tokensOf_eq
  have hsubject : tokens (some r.subject) = [r.subject] := h.subject_isToken.tokensOf_eq
  obtain ⟨hfaulty, -⟩ | ⟨-, declared, hok, hdeclares, hrules⟩ :=
    expandStatement_cases (some r.verb) (some r.path) (some r.subject)
  · obtain hpath | ⟨-, -, t, ht, hunknown⟩ := hfaulty
    · exact absurd hpath h.path_ne_empty
    · rw [hverb, List.mem_singleton] at ht
      exact absurd (ht ▸ h.verb_mem) hunknown
  · refine ⟨_, hrules r.policy, (mem_expansion_iff (hrules r.policy) hok).mpr ?_⟩
    -- the verb is declared, so the statement has its own policy for it
    have hdeclared : r.verb ∈ declared := by
      rw [DeclaresVerbs, hverb] at hdeclares
      split at hdeclares
      · exact hdeclares ▸ h.verb_mem
      · exact (hdeclares.mem_iff r.verb).mpr (List.mem_singleton_self _)
    have hasked : r.subject ∈ expandSubjects (some r.subject) := by
      simp [expandSubjects, hsubject]
    refine ⟨r.subject, hasked, r.verb, h.verb_mem, ?_⟩
    rw [effect, if_pos hdeclared, h.path_eq]

end Rule

/-! ### Rules of documents -/

namespace AccessDocument

variable {r : Rule}

/-- The rules of a document are plain, whatever is written in it. -/
theorem isPlain_of_mem_ruleSet {d : AccessDocument} (h : r ∈ d.ruleSet.rules) : r.IsPlain := by
  -- a rule comes of some entry that was read, whose path and subject it has
  have hnormal := d.areNormal_ruleSet.isNormal r h
  rw [rules_ruleSet, List.mem_flatMap] at h
  obtain ⟨entry, -, hr⟩ := h
  cases hrules : entryRules entry with
  | error fault =>
    rw [hrules] at hr
    exact absurd hr List.not_mem_nil
  | ok rules =>
    rw [hrules] at hr
    obtain ⟨statement, hread, hexpand⟩ := entryRules_ok hrules
    obtain ⟨hpath, hsubjects⟩ := Statement.isUnbroken_of_ofJson hread
    obtain ⟨_, declared, -, -, hdeclared, -⟩ := expandStatement_ok hexpand
    obtain ⟨subject, hsubject, v, -, rfl⟩ := (mem_expansion_iff hexpand hdeclared).mp hr
    exact ⟨hnormal, hpath.lower, isUnbroken_of_mem_expandSubjects hsubjects hsubject⟩

/-- A rule of a document that was accepted is read back from its line, part by part, and the
statement of these parts can be expanded and stands for the rule, among others. -/
theorem describe_read_back {text : String} {base rules : RuleSet} {notices : List LoadNotice}
    (h : load text base = (some rules, notices)) (hr : r ∈ rules.rules) :
    Statement.ofJson (.str r.describe) = .ok ⟨r.policy, r.verb, r.path, r.subject⟩ ∧
      ∃ expanded,
        expandStatement r.policy (some r.verb) (some r.path) (some r.subject) = .ok expanded ∧
          r ∈ expanded := by
  rw [load] at h
  cases hd : ofText? text with
  | none =>
    rw [hd] at h
    cases h
  | some d =>
    rw [hd] at h
    have hrules : d.ruleSet = rules := Option.some.inj (Prod.mk.inj h).1
    have hplain : r.IsPlain := isPlain_of_mem_ruleSet (hrules ▸ hr)
    exact ⟨hplain.ofText_describe, hplain.isNormal.mem_expansion⟩

/-- A rule that a document denies by what it does not say: its path has become longer in lower
case, and its subject in upper case. -/
theorem describe_read_back_complement :
    let text := "\x7b\"default\": \"allow\", \"rules\": " ++
      "[\"fetch\", \" Allow\\tget|HEAD /İ/\x7bINT\x7d/a|b guest|straße\"]\x7d"
    let r : Rule := ⟨.deny, "POST", "/i\u0307/\x7bint\x7d/a|b", "STRASSE"⟩
    ∃ rules notices, load text = (some rules, notices) ∧ r ∈ rules.rules ∧
      r.describe = "deny POST /i\u0307/\x7bint\x7d/a|b STRASSE" ∧
      Statement.ofJson (.str r.describe) = .ok ⟨r.policy, r.verb, r.path, r.subject⟩ ∧
      ∃ expanded,
        expandStatement r.policy (some r.verb) (some r.path) (some r.subject) = .ok expanded ∧
          r ∈ expanded := by
  intro text r
  -- the document is given by evaluation, so that its rules are those of one term
  let d := (ofText? text).get (by decide +kernel)
  have hd : ofText? text = some d := (Option.some_get _).symm
  have hload : load text = (some d.ruleSet, d.notices) := by rw [load, hd]
  have hr : r ∈ d.ruleSet.rules := by decide +kernel
  exact ⟨d.ruleSet, d.notices, hload, hr, by decide +kernel, describe_read_back hload hr⟩

end AccessDocument

end RouteAccess
