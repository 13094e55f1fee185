/-
RouteAccess/Proofs/Policy/Token.lean

Tokens of lists in one text.  Whatever the text, each token is a token on its own
(`isToken_of_mem_tokens`): not empty, trimmed, in upper case and without a
separator, so that it stands in a rule as it stands in a query.  So are the verbs
(`isToken_of_mem_verbs`).
-/
import RouteAccess.Proofs.Text.Case

namespace RouteAccess

/-- Whether a text can stand as a token. -/
structure IsToken (t : String) : Prop where
  ne_empty : t ≠ ""
  upper_eq : Text.upper t = t
  trim_eq : Text.trim t = t
  no_separator : separator ∉ t.toList

/-- A trimmed piece in upper case is a token. -/
theorem IsToken.of_piece {cs : List Char} (hne : cs ≠ []) (htrim : Text.IsTrimmed cs)
    (hsep : separator ∉ cs) : IsToken (String.ofList (Text.upperChars cs)) where
  ne_empty := by
    rw [Ne, String.ofList_eq_empty_iff]
    exact Text.upperChars_ne_nil hne
  upper_eq := by rw [Text.upper, String.toList_ofList, Text.upperChars_upperChars]
  trim_eq := Text.trim_ofList htrim.upperChars
  no_separator := by
    rw [String.toList_ofList]
    exact Text.separator_notMem_upperChars hsep

/-- What is read from a list is a token. -/
theorem isToken_of_mem_tokens {t : String} {list : Option String} (h : t ∈ tokens list) :
    IsToken t := by
  cases list with
  | none => simp [tokens] at h
  | some s =>
    simp only [tokens, tokensOf, List.mem_map, List.mem_filter, decide_eq_true_eq] at h
    obtain ⟨-, ⟨⟨piece, hpiece, rfl⟩, hne⟩, rfl⟩ := h
    refine .of_piece hne (Text.isTrimmed_trimChars piece) fun hsep => ?_
    have hnot := Text.not_of_mem_cutAt hpiece separator (Text.mem_of_mem_trimChars hsep)
    exact absurd (beq_self_eq_true separator) (Bool.eq_false_iff.mp hnot)

theorem isToken_iff {t : String} :
    IsToken t ↔ t ≠ "" ∧ Text.upper t = t ∧ Text.trim t = t ∧ separator ∉ t.toList :=
  ⟨fun ⟨hne, hupper, htrim, hsep⟩ => ⟨hne, hupper, htrim, hsep⟩,
    fun ⟨hne, hupper, htrim, hsep⟩ => ⟨hne, hupper, htrim, hsep⟩⟩

instance (t : String) : Decidable (IsToken t) :=
  decidable_of_iff' _ isToken_iff

theorem isToken_wildcard : IsToken wildcard := by decide +kernel

theorem isToken_of_mem_verbs {v : String} (h : v ∈ verbs) : IsToken v := by
  have hall : ∀ w ∈ verbs, IsToken w := by decide +kernel
  exact hall v h

end RouteAccess
