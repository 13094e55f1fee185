/-
RouteAccess/Proofs/Text/Blank.lean

Trimmed texts: texts with no blank at either end.  Trimming makes a text trimmed
and leaves a trimmed one as it is (`isTrimmed_trimChars`, `trimChars_eq_self`),
and replacing every character by some text keeps a text trimmed, as long as no
blanks arise where there were none (`IsTrimmed.flatMap`).

The pieces of a text that is cut hold its characters other than separators, and no others
(`flatten_cutAt`).
-/
import Mathlib.Data.List.DropRight
import RouteAccess.Text.Blank

namespace RouteAccess

namespace Text

variable {cs : List Char}

/-- Whether a text has no blank at either end. -/
def IsTrimmed (cs : List Char) : Prop :=
  (∀ c ∈ cs.head?, isBlank c = false) ∧ ∀ c ∈ cs.getLast?, isBlank c = false

theorem trimEnd_eq_rdropWhile (cs : List Char) : trimEnd cs = cs.rdropWhile isBlank := rfl

/-- A text without blanks around it is trimmed as it stands. -/
theorem trimChars_eq_self (h : IsTrimmed cs) : trimChars cs = cs := by
  obtain ⟨hhead, hlast⟩ := h
  have hstart : trimStart cs = cs := by
    rw [trimStart, List.dropWhile_eq_self_iff]
    intro hlen
    rw [hhead cs[0] (List.head?_eq_getElem? ▸ List.getElem?_eq_getElem hlen)]
    exact Bool.false_ne_true
  rw [trimChars, hstart, trimEnd_eq_rdropWhile, List.rdropWhile_eq_self_iff]
  intro hne
  rw [hlast _ (List.getLast?_eq_getLast_of_ne_nil hne)]
  exact Bool.false_ne_true

/-- What was trimmed has no blanks around it. -/
theorem isTrimmed_trimChars (cs : List Char) : IsTrimmed (trimChars cs) := by
  rw [trimChars, trimEnd_eq_rdropWhile]
  constructor
  · -- the end is cut off behind the first character that is not blank
    intro c hc
    have hprefix := List.rdropWhile_prefix isBlank (trimStart cs)
    have hstart : (trimStart cs).head? = some c := by
      obtain ⟨t, ht⟩ := hprefix
      rw [← ht, List.head?_append, Option.mem_def.mp hc]
      rfl
    have hnot := List.head?_dropWhile_not isBlank cs
    rw [← trimStart, hstart] at hnot
    exact hnot
  · intro c hc
    have hne : (trimStart cs).rdropWhile isBlank ≠ [] := by
      rintro h
      rw [h] at hc
      simp at hc
    have hnot := List.rdropWhile_last_not isBlank (trimStart cs) hne
    rw [List.getLast?_eq_getLast_of_ne_nil hne] at hc
    obtain rfl := Option.some.inj hc
    simpa using hnot

theorem mem_of_mem_trimChars {c : Char} (h : c ∈ trimChars cs) : c ∈ cs := by
  rw [trimChars, trimEnd_eq_rdropWhile] at h
  have hstart := (List.rdropWhile_prefix isBlank (trimStart cs)).subset h
  exact (List.dropWhile_sublist isBlank).subset hstart

/-- A text without blanks around it stays so if its characters become texts without blanks. -/
theorem IsTrimmed.flatMap {f : Char → List Char} (h : IsTrimmed cs) (hne : ∀ c, f c ≠ [])
    (hf : ∀ c, isBlank c = false → ∀ d ∈ f c, isBlank d = false) :
    IsTrimmed (cs.flatMap f) := by
  obtain ⟨hhead, hlast⟩ := h
  constructor
  · -- the first and the last character decide, as none of them becomes nothing
    rcases cs with - | ⟨c, rest⟩
    · simp
    · intro d hd
      rw [List.flatMap_cons, List.head?_append_of_ne_nil _ (hne c)] at hd
      exact hf c (hhead c rfl) d (List.mem_of_mem_head? hd)
  · rcases List.eq_nil_or_concat cs with rfl | ⟨init, c, rfl⟩
    · simp
    · intro d hd
      rw [List.concat_eq_append, List.flatMap_append, List.flatMap_singleton,
        List.getLast?_append_of_ne_nil _ (hne c)] at hd
      exact hf c (hlast c (by simp)) d (List.mem_of_getLast? hd)

theorem trim_ofList (h : IsTrimmed cs) : trim (String.ofList cs) = String.ofList cs := by
  rw [trim, String.toList_ofList, trimChars_eq_self h]

/-! ### Blanks around a text -/

theorem trimChars_trimChars (cs : List Char) : trimChars (trimChars cs) = trimChars cs :=
  trimChars_eq_self (isTrimmed_trimChars cs)

theorem toList_trim (s : String) : (trim s).toList = trimChars s.toList := by
  rw [trim, String.toList_ofList]

theorem trim_trim (s : String) : trim (trim s) = trim s := by
  rw [trim, toList_trim, trimChars_trimChars, trim]

theorem trimChars_blanks_append {bs : List Char} (h : ∀ c ∈ bs, isBlank c = true)
    (cs : List Char) : trimChars (bs ++ cs) = trimChars cs := by
  rw [trimChars, trimStart, List.dropWhile_append_of_pos h, trimChars, trimStart]

/-- Blanks behind a text are trimmed away. -/
theorem trimChars_append_blanks {bs : List Char} (h : ∀ c ∈ bs, isBlank c = true)
    (cs : List Char) : trimChars (cs ++ bs) = trimChars cs := by
  have hend : ∀ cs, trimEnd (cs ++ bs) = trimEnd cs := by
    intro cs
    have hreverse : ∀ c ∈ bs.reverse, isBlank c = true := fun c hc => h c (List.mem_reverse.mp hc)
    rw [trimEnd, trimEnd, List.reverse_append, List.dropWhile_append_of_pos hreverse]
  rw [trimChars, trimStart, List.dropWhile_append]
  split
  · -- nothing but blanks: both sides are empty
    rename_i hempty
    rw [List.isEmpty_iff] at hempty
    rw [trimChars, trimStart, hempty, List.dropWhile_eq_nil_iff.mpr h]
  · rw [hend, trimChars, trimStart]

/-- A text is what is left of it when it is trimmed, with blanks around it. -/
theorem exists_blanks_around (cs : List Char) :
    ∃ before after, (∀ c ∈ before, isBlank c = true) ∧ (∀ c ∈ after, isBlank c = true) ∧
      cs = before ++ trimChars cs ++ after := by
  refine ⟨cs.takeWhile isBlank, (trimStart cs).rtakeWhile isBlank, ?_, ?_, ?_⟩
  · exact fun c hc => List.all_eq_true.mp List.all_takeWhile c hc
  · exact fun c hc => List.mem_rtakeWhile_imp hc
  · rw [trimChars, trimEnd_eq_rdropWhile, List.append_assoc, List.rdropWhile_append_rtakeWhile,
      trimStart, List.takeWhile_append_dropWhile]

/-- A character that is not blank stays when a text is trimmed. -/
theorem mem_trimChars {c : Char} (hc : isBlank c = false) (h : c ∈ cs) : c ∈ trimChars cs := by
  obtain ⟨before, after, hbefore, hafter, hcs⟩ := exists_blanks_around cs
  rw [hcs, List.mem_append, List.mem_append] at h
  rcases h with (h | h) | h
  · exact absurd (hbefore c h) (Bool.eq_false_iff.mp hc)
  · exact h
  · exact absurd (hafter c h) (Bool.eq_false_iff.mp hc)

/-! ### Pieces between separators -/

/-- The pieces of a text are together the text without its separators. -/
theorem flatten_cutAt (p : Char → Bool) (cs : List Char) :
    (cutAt p cs).flatten = cs.filter (fun c => !p c) := by
  induction cs with
  | nil => rfl
  | cons c rest ih =>
    by_cases h : p c
    · simp [cutAt, h, ih]
    · obtain ⟨first, pieces, hpieces⟩ := List.exists_cons_of_ne_nil (cutAt_ne_nil p rest)
      rw [hpieces] at ih
      simp [cutAt, h, hpieces, ← ih]

/-- The pieces of a text have its characters, and no separator. -/
theorem mem_of_mem_cutAt {p : Char → Bool} {piece : List Char} (h : piece ∈ cutAt p cs) :
    ∀ c ∈ piece, c ∈ cs ∧ p c = false := by
  intro c hc
  have hmem : c ∈ (cutAt p cs).flatten := List.mem_flatten.mpr ⟨piece, h, hc⟩
  rw [flatten_cutAt, List.mem_filter, Bool.not_eq_true'] at hmem
  exact hmem

theorem not_of_mem_cutAt {p : Char → Bool} {piece : List Char} (h : piece ∈ cutAt p cs) :
    ∀ c ∈ piece, p c = false :=
  fun c hc => (mem_of_mem_cutAt h c hc).2

end Text

end RouteAccess
