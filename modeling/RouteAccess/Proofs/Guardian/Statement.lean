/-
RouteAccess/Proofs/Guardian/Statement.lean

Statements, refused or made.  A statement is refused for one of two reasons
(`IsFaulty`): it has no path, or it declares a verb outside the fixed set and no
wildcard beside it.  The policy and the subjects do not matter for that, and a guardian
that is given such a statement stays as it is.

Every other statement stands for the rules that it is written for, one subject after the
other: the declared verbs in the order in which they are first mentioned, then the
remaining ones in their fixed order.  So subjects and verbs are paired like two lists in a
product,

    rules.map (fun r => (r.subject, r.verb)) = asked ×ˢ (declared ++ rest),

and since `declared ++ rest` is the fixed set in another order, each subject meets each
verb once.
-/
import Mathlib.Data.List.ProdSigma
import RouteAccess.Proofs.Guardian.Run
import RouteAccess.Proofs.Policy.Expansion

namespace RouteAccess

/-! ### The rules of a statement -/

section

variable {policy : Policy} {path subject : String} {declared asked : List String}

/-- The parts of a rule for a verb of the fixed set and a token are as they are declared,
and the path is in lower case. -/
theorem rulesFor_eq (hsub : declared ⊆ verbs) (hsubject : IsToken subject) :
    rulesFor policy declared path subject
      = declared.map (Rule.mk policy · (Text.lower path) subject) ++
        (verbs.filter (· ∉ declared)).map (Rule.mk policy.invert · (Text.lower path) subject) := by
  rw [rulesFor]
  congr 1
  · exact List.map_congr_left fun v hv => Rule.normal_eq (hsub hv) hsubject
  · exact List.map_congr_left fun v hv => Rule.normal_eq (List.mem_of_mem_filter hv) hsubject

/-- The rules of a statement pair its subjects with the verbs. -/
theorem pairs_eq_product :
    (asked.flatMap fun subject => declared.map (Rule.mk policy · path subject) ++
        (verbs.filter (· ∉ declared)).map (Rule.mk policy.invert · path subject)).map
      (fun r => (r.subject, r.verb)) = asked ×ˢ (declared ++ verbs.filter (· ∉ declared)) := by
  rw [List.map_flatMap]
  show _ = asked.flatMap _
  congr 1
  funext subject
  rw [List.map_append, List.map_map, List.map_map, List.map_append]
  rfl

end

namespace Guardian

/-! ### The guardian -/

/-- A statement that cannot be expanded leaves a session as it is, and says what is wrong. -/
theorem step_of_expandStatement_error {policy : Policy} {list path subjects : Option String}
    {fault : StatementFault} (h : expandStatement policy list path subjects = .error fault)
    (s : Session) :
    s.step (.change (.statement policy list path subjects)) = (s, .error (.statement fault)) := by
  have hadd : s.guardian.addStatement policy list path subjects = .error fault := by
    rw [addStatement, h]
    rfl
  rw [Session.step, change, hadd]

/-- A statement is refused exactly if it is faulty.  Then it is a fault of its syntax, and
the statement with any policy leaves the whole session as it is: the very snapshot that was
in force stays there.  Any other statement stands for seven rules for each subject, with
the path in lower case: first those for the declared verbs, at its policy, and then those
for the remaining verbs, at the other one.  So each subject meets each verb once. -/
theorem expands_unless_faulty (policy : Policy) (list path subjects : Option String) :
    ((∃ fault, expandStatement policy list path subjects = .error fault) ↔
      IsFaulty list path) ∧
    (∀ fault, expandStatement policy list path subjects = .error fault →
      fault.fault.kind = .ruleSyntax ∧
      ∀ (policy' : Policy) (s : Session),
        s.step (.change (.statement policy' list path subjects))
          = (s, .error (.statement fault))) ∧
    (¬ IsFaulty list path → ∃ declared asked rules,
      DeclaresVerbs list declared ∧ DeclaresSubjects subjects asked ∧
      expandStatement policy list path subjects = .ok rules ∧
      rules = (asked.flatMap fun subject =>
        declared.map (Rule.mk policy · (Text.lower (path.getD "")) subject) ++
          (verbs.filter (· ∉ declared)).map
            (Rule.mk policy.invert · (Text.lower (path.getD "")) subject)) ∧
      rules.length = 7 * asked.length ∧
      ∀ subject ∈ asked, ∀ v ∈ verbs,
        (rules.map fun r => (r.subject, r.verb)).count (subject, v) = 1) := by
  rcases expandStatement_cases list path subjects with
    ⟨hfaulty, fault, hfault⟩ | ⟨hnot, declared, hverbs, hdeclares, hok⟩
  · refine ⟨iff_of_true ⟨fault, hfault policy⟩ hfaulty, ?_, fun hnot => absurd hfaulty hnot⟩
    intro fault' hfault'
    -- there is one reason for all policies
    obtain rfl := Except.error.inj ((hfault policy).symm.trans hfault')
    exact ⟨rfl, fun policy' s => step_of_expandStatement_error (hfault policy') s⟩
  · have hne : ∀ fault, expandStatement policy list path subjects ≠ .error fault := by
      intro fault hfault
      rw [hok policy] at hfault
      cases hfault
    refine ⟨iff_of_false (fun ⟨fault, hfault⟩ => hne fault hfault) hnot,
      fun fault hfault => absurd hfault (hne fault), fun _ => ?_⟩
    obtain ⟨hsub, hnodup⟩ := expandVerbs_ok hverbs
    have hperm := declared_append_perm hsub hnodup
    have hrules : (expandSubjects subjects).flatMap (rulesFor policy declared (path.getD ""))
        = (expandSubjects subjects).flatMap fun subject =>
          declared.map (Rule.mk policy · (Text.lower (path.getD "")) subject) ++
            (verbs.filter (· ∉ declared)).map
              (Rule.mk policy.invert · (Text.lower (path.getD "")) subject) :=
      List.flatMap_congr fun subject hsubject =>
        rulesFor_eq hsub (isToken_of_mem_expandSubjects hsubject)
    refine ⟨declared, expandSubjects subjects, _, hdeclares,
      declaresSubjects_expandSubjects subjects, (hok policy).trans (congrArg Except.ok hrules),
      rfl, ?_, ?_⟩
    · rw [← List.length_map fun r : Rule => (r.subject, r.verb), pairs_eq_product,
        List.length_product, hperm.length_eq]
      exact Nat.mul_comm _ _
    · intro subject hsubject v hv
      rw [pairs_eq_product]
      apply List.count_eq_one_of_mem
      · exact (nodup_expandSubjects subjects).product (hperm.nodup_iff.mpr nodup_verbs)
      · exact List.mem_product.mpr ⟨hsubject, hperm.mem_iff.mpr hv⟩

/-- A statement with a verb that is unknown is refused.  One that mentions a verb twice, in
different cases, and a subject in two spellings with the same upper case is made, and has
one rule for the two of them. -/
theorem expands_unless_faulty_mentioned_twice :
    let start : Session := { guardian := {}, store := {} }
    let refused : Step := .change (.statement .deny (some "get|fetch") (some "/x") none)
    (start.step refused).1 = start ∧
      ∃ rules, expandStatement .allow (some "patch| |Patch|get") (some "/X")
          (some "straße|Strasse|*") = .ok rules ∧
        (rules.map fun r => (r.subject, r.verb)).count ("STRASSE", "PATCH") = 1 := by
  intro start refused
  -- of the two verbs the second one is unknown
  have hunknown : IsFaulty (some "get|fetch") (some "/x") :=
    .inr ⟨by decide +kernel, by decide +kernel, "FETCH", by decide +kernel, by decide⟩
  have hknown : ¬ IsFaulty (some "patch| |Patch|get") (some "/X") := by
    have hverbs : ∀ t ∈ tokens (some "patch| |Patch|get"), t ∈ verbs := by decide +kernel
    rintro (hpath | ⟨-, -, t, ht, hnot⟩)
    · exact absurd hpath (by decide)
    · exact hnot (hverbs t ht)
  constructor
  · -- a refused statement leaves the session, whatever its policy
    obtain ⟨hrefused, hfault, -⟩ := expands_unless_faulty .allow (some "get|fetch") (some "/x") none
    obtain ⟨fault, herror⟩ := hrefused.mpr hunknown
    rw [(hfault fault herror).2 .deny start]
  · obtain ⟨-, -, hmade⟩ := expands_unless_faulty .allow (some "patch| |Patch|get") (some "/X")
      (some "straße|Strasse|*")
    obtain ⟨declared, asked, rules, -, hsubjects, hrules, -, -, hcount⟩ := hmade hknown
    refine ⟨rules, hrules, hcount "STRASSE" ?_ "PATCH" (by decide)⟩
    rw [DeclaresSubjects, if_neg (by decide +kernel)] at hsubjects
    exact (hsubjects.mem_iff "STRASSE").mpr (by decide +kernel)

end Guardian

end RouteAccess
