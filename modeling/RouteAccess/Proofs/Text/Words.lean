/-
RouteAccess/Proofs/Text/Words.lean

Texts that no blank breaks.  The words of a text are unbroken, and unbroken texts with single
blanks between them are read off as the words that they are (`words_intercalate`):

    words (String.intercalate " " ws) = ws.

A blank ends a word wherever it stands (`words_append_blank`), and this is all that is needed to
see it.  Neither case brings a blank into a text, so an unbroken text stays unbroken in upper and
in lower case.
-/
import RouteAccess.Proofs.Text.Case

namespace RouteAccess

namespace Text

variable {c d : Char} {s w : String}

/-- Whether a text is not empty, and broken by no blank. -/
structure IsUnbroken (s : String) : Prop where
  ne_empty : s ≠ ""
  no_blank : ∀ c ∈ s.toList, isBlank c = false

/-- A text without blanks that is not empty is unbroken. -/
theorem IsUnbroken.of_all (h : s ≠ "" ∧ s.toList.all (fun c => !isBlank c) = true) :
    IsUnbroken s where
  ne_empty := h.1
  no_blank := by
    intro c hc
    have hall := List.all_eq_true.mp h.2 c hc
    rwa [Bool.not_eq_true'] at hall

/-! ### Reading words off -/

/-- A blank ends the word before it. -/
theorem words_append_blank (hc : isBlank c = true) (a b : String) :
    words (a ++ String.singleton c ++ b) = words a ++ words b := by
  have hcut := cutAt_append_cons hc a.toList b.toList
  simp only [words, wordsChars, String.toList_append, String.toList_singleton, List.append_assoc,
    List.singleton_append, hcut, List.filter_append, List.map_append]

theorem IsUnbroken.words_eq (h : IsUnbroken s) : words s = [s] := by
  have hne : s.toList ≠ [] := mt String.toList_eq_nil_iff.mp h.ne_empty
  rw [words, wordsChars, cutAt_eq_singleton h.no_blank]
  simp [hne]

theorem words_append_space (a b : String) : words (a ++ " " ++ b) = words a ++ words b := by
  have hspace : isBlank ' ' = true := by decide
  exact words_append_blank hspace a b

/-- Unbroken words with spaces between them are read as these words. -/
theorem words_intercalate {ws : List String} (h : ∀ w ∈ ws, IsUnbroken w) :
    words (String.intercalate " " ws) = ws := by
  induction ws with
  | nil => rfl
  | cons w rest ih =>
    obtain ⟨hw, hrest⟩ := List.forall_mem_cons.mp h
    cases rest with
    | nil => rw [String.intercalate_singleton, hw.words_eq]
    | cons w' rest =>
      rw [String.intercalate_cons_cons, words_append_space, hw.words_eq, ih hrest,
        List.singleton_append]

/-- What is read as a word is unbroken. -/
theorem isUnbroken_of_mem_words (h : w ∈ words s) : IsUnbroken w := by
  obtain ⟨piece, hpiece, rfl⟩ := List.mem_map.mp h
  rw [wordsChars, List.mem_filter, decide_eq_true_eq] at hpiece
  obtain ⟨hcut, hne⟩ := hpiece
  constructor
  · rwa [Ne, String.ofList_eq_empty_iff]
  · rw [String.toList_ofList]
    exact not_of_mem_cutAt hcut

/-! ### Case -/

theorem areApart_lower_blanks :
    CaseRun.areApart (targets CaseTable.lowerExpansions CaseTable.lowerRuns)
      (blanks.map .ofSpan) = true := by
  decide +kernel

/-- The lower case of what is no blank has no blanks. -/
theorem isBlank_of_mem_lowerAt {behind : Bool} {rest : List Char} (hc : isBlank c = false)
    (hd : d ∈ lowerAt behind c rest) : isBlank d = false := by
  rw [lowerAt] at hd
  split at hd
  · -- both images of a sigma are letters
    split at hd
    · rw [List.mem_singleton.mp hd]
      decide
    · rw [List.mem_singleton.mp hd]
      decide
  · have hchars := (Bool.and_eq_true_iff.mp isSettled_lower).1
    rw [Bool.eq_false_iff] at hc ⊢
    exact not_mem_class_of_mem_mapChar (isBlank · = true) (fun _ => CaseRun.exists_of_span) hchars
      areApart_lower_blanks hc hd

/-- The lower case of a text without blanks has none. -/
theorem isBlank_of_mem_lowerFrom {behind : Bool} {cs : List Char}
    (h : ∀ c ∈ cs, isBlank c = false) : ∀ d ∈ lowerFrom behind cs, isBlank d = false := by
  induction cs generalizing behind with
  | nil => simp [lowerFrom]
  | cons c rest ih =>
    obtain ⟨hc, hrest⟩ := List.forall_mem_cons.mp h
    rw [lowerFrom, List.forall_mem_append]
    exact ⟨fun d hd => isBlank_of_mem_lowerAt hc hd, ih hrest⟩

theorem IsUnbroken.lower (h : IsUnbroken s) : IsUnbroken (lower s) where
  ne_empty := lower_ne_empty h.ne_empty
  no_blank := by
    rw [toList_lower]
    exact isBlank_of_mem_lowerFrom h.no_blank

/-- The upper case of an unbroken text is unbroken. -/
theorem IsUnbroken.upper (h : IsUnbroken s) : IsUnbroken (upper s) where
  ne_empty := by
    rw [Text.upper, Ne, String.ofList_eq_empty_iff, upperChars_eq_nil]
    exact mt String.toList_eq_nil_iff.mp h.ne_empty
  no_blank := by
    rw [Text.upper, String.toList_ofList]
    intro d hd
    obtain ⟨c, hc, hdc⟩ := List.mem_flatMap.mp hd
    exact isBlank_of_mem_upperChar (h.no_blank c hc) hdc

end Text

end RouteAccess
