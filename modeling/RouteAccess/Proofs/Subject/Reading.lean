/-
RouteAccess/Proofs/Subject/Reading.lean

Joined subjects, as the rules read them.  Subjects are joined in ascending order, each once
(`Subject.ascending_normalise`), and what can stand as a token is read as it is
(`IsToken.tokensOf_eq`).  A subject without separators can, once it is trimmed and in upper
case.  So the subjects come back as they were joined exactly if no separator is in one of them
(`Subject.read_back_iff`); otherwise its parts come back in its place, wherever they stand and
however often.

A decision does not depend on it.  What is read from subjects that were joined is what is read
from each of them, and so it is if their texts are put together as they are; so both ways the
same subjects are asked about (`RuleSet.evaluate_join`).
-/
import Mathlib.Data.String.Basic
import RouteAccess.Proofs.Policy.Expansion
import RouteAccess.Proofs.Policy.Wording

namespace RouteAccess

namespace Subject

variable {values : List (Option String)} {s t : String}

/-! ### What is joined -/

/-- Subjects are joined in ascending order, each once. -/
theorem ascending_normalise (values : List (Option String)) :
    (normalise values).Pairwise (· < ·) := by
  have hsorted : (normalise values).Pairwise fun a b => decide (a ≤ b) = true := by
    refine List.pairwise_mergeSort ?_ ?_ _
    · intro a b c hab hbc
      exact decide_eq_true (le_trans (of_decide_eq_true hab) (of_decide_eq_true hbc))
    · intro a b
      rw [Bool.or_eq_true, decide_eq_true_iff, decide_eq_true_iff]
      exact le_total a b
  -- each was kept once before they were sorted
  have hnodup : (normalise values).Nodup :=
    (List.mergeSort_perm _ _).nodup_iff.mpr (firstMentions_eraseDups _).nodup
  refine (hsorted.and hnodup).imp ?_
  rintro a b ⟨hle, hne⟩
  exact lt_of_le_of_ne (of_decide_eq_true hle) hne

/-- A subject without separators is joined as a token. -/
theorem isToken_upper_trim (hsep : separator ∉ s.toList) (hne : Text.trim s ≠ "") :
    IsToken (Text.upper (Text.trim s)) := by
  have hpiece : Text.trimChars s.toList ≠ [] := by
    rw [← Text.toList_trim]
    exact mt String.toList_eq_nil_iff.mp hne
  rw [Text.upper, Text.toList_trim]
  exact .of_piece hpiece (Text.isTrimmed_trimChars _) fun h => hsep (Text.mem_of_mem_trimChars h)

/-- One with a separator is not. -/
theorem separator_mem_upper_trim (hsep : separator ∈ s.toList) :
    separator ∈ (Text.upper (Text.trim s)).toList := by
  rw [Text.upper, String.toList_ofList, Text.toList_trim]
  exact Text.separator_mem_upperChars (Text.mem_trimChars (by decide) hsep)

/-! ### What is read -/

/-- Without separators in them, subjects are read as they were joined. -/
theorem tokensOf_join_of_no_separator (h : ∀ s, some s ∈ values → separator ∉ s.toList) :
    tokensOf (join values) = normalise values := by
  refine tokensOf_intercalate_of_isToken fun t ht => ?_
  obtain ⟨s, hs, hne, rfl⟩ := mem_normalise.mp ht
  exact isToken_upper_trim (h s hs) hne

/-- What is read from joined subjects is the ascending list of those that are not blank,
trimmed and in upper case, each once, exactly if none of them has a separator in it.  In any
case it is what is read from each of them. -/
theorem read_back_iff (values : List (Option String)) :
    ((tokensOf (join values)).Pairwise (· < ·) ∧
        (∀ t, t ∈ tokensOf (join values) ↔
          ∃ s, some s ∈ values ∧ Text.trim s ≠ "" ∧ t = Text.upper (Text.trim s)) ↔
      ∀ s, some s ∈ values → separator ∉ s.toList) ∧
    (∀ t, t ∈ tokensOf (join values) ↔ ∃ s, some s ∈ values ∧ t ∈ tokensOf s) := by
  refine ⟨⟨?_, ?_⟩, fun t => mem_tokensOf_join⟩
  · rintro ⟨-, hmem⟩ s hs hsep
    -- with a separator in it, the subject would have been read as a token
    have hne : Text.trim s ≠ "" := by
      rw [Ne, ← String.toList_eq_nil_iff, Text.toList_trim]
      exact List.ne_nil_of_mem (Text.mem_trimChars (by decide) hsep)
    have hread : Text.upper (Text.trim s) ∈ tokens (some (join values)) :=
      (hmem _).mpr ⟨s, hs, hne, rfl⟩
    exact (isToken_of_mem_tokens hread).no_separator (separator_mem_upper_trim hsep)
  · intro hsep
    rw [tokensOf_join_of_no_separator hsep]
    exact ⟨ascending_normalise values, fun t => mem_normalise⟩

/-- A subject with a separator in it comes back as two. -/
theorem read_apart :
    tokensOf (join [some "guest|admin"]) = ["GUEST", "ADMIN"] ∧
      Text.upper (Text.trim "guest|admin") ∉ tokensOf (join [some "guest|admin"]) := by
  decide +kernel

/-- So what is read from texts is the same whether they are joined as subjects or put together
as they are. -/
theorem mem_tokensOf_join_iff {texts : List String} :
    t ∈ tokensOf (join (texts.map some)) ↔
      t ∈ tokensOf (String.intercalate (String.singleton separator) texts) := by
  rw [mem_tokensOf_join, tokensOf_intercalate, List.mem_flatMap]
  simp only [List.mem_map, Option.some.injEq, exists_eq_right]

end Subject

/-! ### The decision -/

namespace RuleSet

/-- A query has the same decision whether the texts that name its subjects are joined as
subjects or put together as they are. -/
theorem evaluate_join (s : RuleSet) (verb path : Option String) (texts : List String) :
    s.evaluate verb path (some (Subject.join (texts.map some))) =
      s.evaluate verb path (some (String.intercalate (String.singleton separator) texts)) :=
  evaluate_congr s verb path fun _ _ => Subject.mem_tokensOf_join_iff

end RuleSet

end RouteAccess
