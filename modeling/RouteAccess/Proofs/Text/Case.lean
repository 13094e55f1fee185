/-
RouteAccess/Proofs/Text/Case.lean

Laws of upper and lower case.  Both are settled after one round
(`upper_upper`, `lower_lower`):

    upper (upper s) = upper s,   lower (lower s) = lower s.

For the lower case this needs a word on the sigma, whose image depends on its
neighbours: both of its images are small letters, which have no neighbours to
look at.  Neither makes a text empty, and the upper case brings no blanks and no
separator into a text.
-/
import RouteAccess.Policy.Rule
import RouteAccess.Proofs.Text.Blank
import RouteAccess.Proofs.Text.CaseRun

namespace RouteAccess

namespace Text

variable {c d : Char} {cs : List Char}

/-! ### The tables -/

theorem isSettled_upper : isSettled CaseTable.upperExpansions CaseTable.upperRuns = true := by
  decide +kernel

theorem isSettled_lower : isSettled CaseTable.lowerExpansions CaseTable.lowerRuns = true := by
  decide +kernel

theorem areChars_upper :
    (targets CaseTable.upperExpansions CaseTable.upperRuns).all areChars = true := by
  have h := isSettled_upper
  rw [isSettled, Bool.and_eq_true] at h
  exact h.1

/-- No upper-case image is a blank or a separator. -/
theorem areApart_upper :
    CaseRun.areApart (targets CaseTable.upperExpansions CaseTable.upperRuns)
      (.single separator.toNat :: blanks.map .ofSpan) = true := by
  decide +kernel

/-- No blank and no separator has another upper-case image. -/
theorem areApart_upperSources :
    CaseRun.areApart (sources CaseTable.upperExpansions CaseTable.upperRuns)
      (.single separator.toNat :: blanks.map .ofSpan) = true := by
  decide +kernel

/-! ### Upper case -/

theorem upperChar_ne_nil (c : Char) : upperChar c ≠ [] :=
  mapChar_ne_nil (by decide) c

theorem upperChar_of_mem_upperChar (h : d ∈ upperChar c) : upperChar d = [d] :=
  mapChar_of_mem_mapChar isSettled_upper h

/-- The upper case of what is no blank has no blanks. -/
theorem isBlank_of_mem_upperChar (hc : isBlank c = false) (hd : d ∈ upperChar c) :
    isBlank d = false := by
  rw [Bool.eq_false_iff] at hc ⊢
  refine not_mem_class_of_mem_mapChar (isBlank · = true) ?_ areChars_upper areApart_upper hc hd
  intro e he
  obtain ⟨r, hr, hn⟩ := CaseRun.exists_of_span he
  exact ⟨r, List.mem_cons_of_mem _ hr, hn⟩

theorem ne_separator_of_mem_upperChar (hc : c ≠ separator) (hd : d ∈ upperChar c) :
    d ≠ separator := by
  refine not_mem_class_of_mem_mapChar (· = separator) ?_ areChars_upper areApart_upper hc hd
  rintro e rfl
  exact ⟨_, List.mem_cons_self, CaseRun.holds_single.mpr rfl⟩

theorem upperChar_eq_self_of_holds {r : CaseRun}
    (hr : r ∈ CaseRun.single separator.toNat :: blanks.map .ofSpan) (h : r.Holds c.toNat) :
    upperChar c = [c] :=
  mapChar_eq_self fun _ hs hheld => CaseRun.areApart.not_holds areApart_upperSources hs hr hheld h

theorem upperChar_of_isBlank (h : isBlank c = true) : upperChar c = [c] := by
  obtain ⟨r, hr, hn⟩ := CaseRun.exists_of_span h
  exact upperChar_eq_self_of_holds (List.mem_cons_of_mem _ hr) hn

theorem upperChar_separator : upperChar separator = [separator] :=
  upperChar_eq_self_of_holds List.mem_cons_self (CaseRun.holds_single.mpr rfl)

theorem upperChars_ne_nil (h : cs ≠ []) : upperChars cs ≠ [] := by
  obtain ⟨c, rest, rfl⟩ := List.exists_cons_of_ne_nil h
  rw [upperChars, List.flatMap_cons]
  exact List.append_ne_nil_of_left_ne_nil (upperChar_ne_nil c) _

/-- A text of characters that stay as they are stays as it is. -/
theorem upperChars_eq_self (h : ∀ c ∈ cs, upperChar c = [c]) : upperChars cs = cs := by
  induction cs with
  | nil => rfl
  | cons c rest ih =>
    have hrest := ih fun d hd => h d (List.mem_cons_of_mem c hd)
    rw [upperChars, List.flatMap_cons, h c List.mem_cons_self]
    exact congrArg (c :: ·) hrest

theorem upperChars_upperChars (cs : List Char) : upperChars (upperChars cs) = upperChars cs := by
  apply upperChars_eq_self
  intro d hd
  obtain ⟨c, -, hdc⟩ := List.mem_flatMap.mp hd
  exact upperChar_of_mem_upperChar hdc

theorem upper_upper (s : String) : upper (upper s) = upper s := by
  rw [upper, upper, String.toList_ofList, upperChars_upperChars]

theorem IsTrimmed.upperChars (h : IsTrimmed cs) : IsTrimmed (upperChars cs) :=
  h.flatMap upperChar_ne_nil fun _ hc _ hd => isBlank_of_mem_upperChar hc hd

theorem upperChars_eq_nil : upperChars cs = [] ↔ cs = [] := by
  constructor
  · exact fun h => Decidable.not_not.mp fun hne => upperChars_ne_nil hne h
  · rintro rfl
    rfl

theorem upperChars_nil : upperChars [] = [] := rfl

theorem upperChars_cons (c : Char) (cs : List Char) :
    upperChars (c :: cs) = upperChar c ++ upperChars cs :=
  List.flatMap_cons

theorem upperChars_append (as bs : List Char) :
    upperChars (as ++ bs) = upperChars as ++ upperChars bs :=
  List.flatMap_append

theorem upperChars_of_blanks (h : ∀ c ∈ cs, isBlank c = true) : upperChars cs = cs :=
  upperChars_eq_self fun c hc => upperChar_of_isBlank (h c hc)

/-- Upper case and trimming may change places. -/
theorem trimChars_upperChars (cs : List Char) :
    trimChars (upperChars cs) = upperChars (trimChars cs) := by
  obtain ⟨before, after, hbefore, hafter, hcs⟩ := exists_blanks_around cs
  calc trimChars (upperChars cs)
      = trimChars (before ++ upperChars (trimChars cs) ++ after) := by
        conv_lhs => rw [hcs]
        rw [upperChars_append, upperChars_append, upperChars_of_blanks hbefore,
          upperChars_of_blanks hafter]
    _ = trimChars (upperChars (trimChars cs)) := by
        rw [trimChars_append_blanks hafter, trimChars_blanks_append hbefore]
    _ = upperChars (trimChars cs) := trimChars_eq_self (isTrimmed_trimChars cs).upperChars

theorem separator_notMem_upperChars (h : separator ∉ cs) : separator ∉ upperChars cs := by
  intro hd
  obtain ⟨c, hc, hdc⟩ := List.mem_flatMap.mp hd
  exact ne_separator_of_mem_upperChar (fun e => h (e ▸ hc)) hdc rfl

theorem separator_mem_upperChars (h : separator ∈ cs) : separator ∈ upperChars cs := by
  refine List.mem_flatMap.mpr ⟨separator, h, ?_⟩
  rw [upperChar_separator]
  exact List.mem_singleton_self separator

/-! ### Lower case -/

/-- Whether a character stays as it is in lower case, whatever surrounds it. -/
def IsSmall (c : Char) : Prop :=
  c ≠ 'Σ' ∧ lowerChar c = [c]

instance (c : Char) : Decidable (IsSmall c) :=
  inferInstanceAs (Decidable (_ ∧ _))

/-- What is in lower case is small. -/
theorem isSmall_of_mem_lowerAt {behind : Bool} {rest : List Char}
    (h : d ∈ lowerAt behind c rest) : IsSmall d := by
  rw [lowerAt] at h
  split at h
  · -- the two images of a sigma
    have hd : d = 'ς' ∨ d = 'σ' := by
      split at h
      · exact .inl (List.mem_singleton.mp h)
      · exact .inr (List.mem_singleton.mp h)
    rcases hd with rfl | rfl
    · exact ⟨by decide, by decide +kernel⟩
    · exact ⟨by decide, by decide +kernel⟩
  · have hfixed : lowerChar d = [d] := mapChar_of_mem_mapChar isSettled_lower h
    refine ⟨?_, hfixed⟩
    rintro rfl
    exact absurd hfixed (by decide +kernel)

/-- A character in lower case is not nothing. -/
theorem lowerAt_ne_nil (behind : Bool) (c : Char) (rest : List Char) :
    lowerAt behind c rest ≠ [] := by
  rw [lowerAt]
  split
  · split <;> simp
  · exact mapChar_ne_nil (by decide) c

/-- A text of small characters stays as it is. -/
theorem lowerFrom_eq_self {behind : Bool} (h : ∀ c ∈ cs, IsSmall c) :
    lowerFrom behind cs = cs := by
  induction cs generalizing behind with
  | nil => rfl
  | cons c rest ih =>
    obtain ⟨hsigma, hfixed⟩ := h c List.mem_cons_self
    have hrest : lowerFrom (casedAfter behind c) rest = rest :=
      ih fun d hd => h d (List.mem_cons_of_mem c hd)
    rw [lowerFrom, hrest, lowerAt, if_neg hsigma, hfixed]
    rfl

/-- A text in lower case is small throughout. -/
theorem isSmall_of_mem_lowerFrom {behind : Bool} (h : d ∈ lowerFrom behind cs) : IsSmall d := by
  induction cs generalizing behind with
  | nil => simp [lowerFrom] at h
  | cons c rest ih =>
    rw [lowerFrom, List.mem_append] at h
    rcases h with h | h
    · exact isSmall_of_mem_lowerAt h
    · exact ih h

theorem lowerChars_lowerChars (cs : List Char) : lowerChars (lowerChars cs) = lowerChars cs :=
  lowerFrom_eq_self fun _ hc => isSmall_of_mem_lowerFrom hc

theorem lower_lower (s : String) : lower (lower s) = lower s := by
  rw [lower, lower, String.toList_ofList, lowerChars_lowerChars]

theorem toList_lower (s : String) : (lower s).toList = lowerChars s.toList := by
  rw [lower, String.toList_ofList]

theorem lower_ne_empty {s : String} (h : s ≠ "") : lower s ≠ "" := by
  rw [lower, Ne, String.ofList_eq_empty_iff, lowerChars]
  obtain ⟨c, rest, hs⟩ := List.exists_cons_of_ne_nil (mt String.toList_eq_nil_iff.mp h)
  rw [hs, lowerFrom]
  exact List.append_ne_nil_of_left_ne_nil (lowerAt_ne_nil _ _ _) _

end Text

end RouteAccess
