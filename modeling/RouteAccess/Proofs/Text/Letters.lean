/-
RouteAccess/Proofs/Text/Letters.lean

Texts that differ in nothing but the case of the letters `a` to `z`.  They are those with the
same `smallLetters`, as `Char.toLower` moves the capitals `A` to `Z` and no other character.

Both cases of such a letter have the same images, and they look the same to a sigma beside
them; so neither the upper nor the lower case of a text depends on them:

    smallLetters a = smallLetters b  →  upper a = upper b ∧ lower a = lower b.
-/
import RouteAccess.Proofs.Text.Case

namespace RouteAccess

namespace Text

/-! ### One character -/

/-- The capitals that have a small letter thirty-two codes on. -/
def capitals : List Char :=
  (List.range 26).map fun n => Char.ofNat ('A'.toNat + n)

/-- What is no capital of ASCII is left alone. -/
theorem toLower_of_notMem_capitals {c : Char} (h : c ∉ capitals) : c.toLower = c := by
  refine dif_neg ?_
  rintro ⟨hfirst, hlast⟩
  have hfirst : 65 ≤ c.toNat := hfirst
  have hlast : c.toNat ≤ 90 := hlast
  refine h (List.mem_map.mpr ⟨c.toNat - 65, List.mem_range.mpr (by omega), ?_⟩)
  have hcode : 'A'.toNat + (c.toNat - 65) = c.toNat := by
    show 65 + (c.toNat - 65) = c.toNat
    omega
  rw [hcode, Char.ofNat_toNat]

/-- What is true of the characters of a text, checked one by one. -/
theorem forall_mem_of_all {P : Char → Prop} [DecidablePred P] {cs : List Char}
    (h : cs.all (fun c => decide (P c)) = true) : ∀ c ∈ cs, P c := by
  intro c hc
  exact of_decide_eq_true (List.all_eq_true.mp h c hc)

/-- What is the same for both cases of every letter does not depend on their case. -/
theorem apply_toLower {α : Type} (f : Char → α)
    (h : capitals.map (fun c => f c.toLower) = capitals.map f) (c : Char) :
    f c.toLower = f c := by
  by_cases hc : c ∈ capitals
  · exact List.map_inj_left.mp h c hc
  · rw [toLower_of_notMem_capitals hc]

theorem upperChar_toLower (c : Char) : upperChar c.toLower = upperChar c :=
  apply_toLower upperChar (by decide +kernel) c

theorem lowerChar_toLower (c : Char) : lowerChar c.toLower = lowerChar c :=
  apply_toLower lowerChar (by decide +kernel) c

theorem isCased_toLower (c : Char) : isCased c.toLower = isCased c :=
  apply_toLower isCased (by decide +kernel) c

theorem isCaseIgnorable_toLower (c : Char) : isCaseIgnorable c.toLower = isCaseIgnorable c :=
  apply_toLower isCaseIgnorable (by decide +kernel) c

theorem toLower_eq_sigma (c : Char) : c.toLower = 'Σ' ↔ c = 'Σ' := by
  have hsame : decide (c.toLower = 'Σ') = decide (c = 'Σ') :=
    apply_toLower (fun d => decide (d = 'Σ')) (by decide +kernel) c
  exact decide_eq_decide.mp hsame

/-! ### Texts -/

theorem upperChars_map_toLower (cs : List Char) :
    upperChars (cs.map Char.toLower) = upperChars cs := by
  rw [upperChars, List.flatMap_map, upperChars]
  exact List.flatMap_congr fun c _ => upperChar_toLower c

/-- Whether something cased is ahead does not depend on the case of ASCII letters. -/
theorem casedAhead_map_toLower (cs : List Char) :
    casedAhead (cs.map Char.toLower) = casedAhead cs := by
  induction cs with
  | nil => rfl
  | cons c rest ih =>
    simp only [List.map_cons, casedAhead, isCaseIgnorable_toLower, isCased_toLower, ih]

/-- A text has the lower case that it has with its ASCII letters in lower case. -/
theorem lowerFrom_map_toLower (behind : Bool) (cs : List Char) :
    lowerFrom behind (cs.map Char.toLower) = lowerFrom behind cs := by
  induction cs generalizing behind with
  | nil => rfl
  | cons c rest ih =>
    simp only [List.map_cons, lowerFrom, lowerAt, casedAfter, isCaseIgnorable_toLower,
      isCased_toLower, lowerChar_toLower, casedAhead_map_toLower, toLower_eq_sigma, ih]

/-- The characters of a text, with small letters for the capitals `A` to `Z`. -/
def smallLetters (s : String) : List Char :=
  s.toList.map Char.toLower

variable {a b : String}

theorem upper_congr (h : smallLetters a = smallLetters b) : upper a = upper b := by
  rw [upper, ← upperChars_map_toLower, ← smallLetters, h, smallLetters, upperChars_map_toLower,
    upper]

theorem lower_congr (h : smallLetters a = smallLetters b) : lower a = lower b := by
  rw [lower, lowerChars, ← lowerFrom_map_toLower, ← smallLetters, h, smallLetters,
    lowerFrom_map_toLower, lower, lowerChars]

theorem upper_eq_empty_iff : upper a = "" ↔ a = "" := by
  rw [upper, String.ofList_eq_empty_iff, upperChars_eq_nil, String.toList_eq_nil_iff]

end Text

end RouteAccess
