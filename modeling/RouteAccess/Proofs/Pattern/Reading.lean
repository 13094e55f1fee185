/-
RouteAccess/Proofs/Pattern/Reading.lean

How a pattern is read, as a relation.  `Reads cs ps` says that a text is read
from left to right as units: a token wherever one begins, and a single character
everywhere else.

The relation is a function (`reads_iff`): no token is the beginning of another
one, so at each place there is one way to go on.
-/
import RouteAccess.Pattern.Piece

namespace RouteAccess

namespace Pattern

/-- Whether a text is read as these units. -/
inductive Reads : List Char → List Piece → Prop
  | done : Reads [] []
  | token (h : Placeholder) {cs : List Char} {ps : List Piece} :
      Reads cs ps → Reads (h.spell ++ cs) (.hole h :: ps)
  | literal {c : Char} {cs : List Char} {ps : List Piece} :
      (∀ h : Placeholder, ¬ h.spell <+: c :: cs) → Reads cs ps → Reads (c :: cs) (.literal c :: ps)

theorem ofChars_spell_append (h : Placeholder) (cs : List Char) :
    ofChars (h.spell ++ cs) = .hole h :: ofChars cs := by
  cases h <;> simp [Placeholder.spell, ofChars]

/-- Where no token begins, a character stands for itself. -/
theorem ofChars_cons {c : Char} {cs : List Char}
    (h : ∀ p : Placeholder, ¬ p.spell <+: c :: cs) :
    ofChars (c :: cs) = .literal c :: ofChars cs := by
  -- each of the five tokens would begin here otherwise
  rw [ofChars]
  · rintro rest rfl rfl
    exact h .integer ⟨rest, rfl⟩
  · rintro rest rfl rfl
    exact h .decimal ⟨rest, rfl⟩
  · rintro rest rfl rfl
    exact h .name ⟨rest, rfl⟩
  · rintro rest rfl rfl
    exact h .guid ⟨rest, rfl⟩
  · rintro rfl
    exact h .run ⟨cs, rfl⟩

/-- A text is read as units in one way only. -/
theorem Reads.eq_ofChars {cs : List Char} {ps : List Piece} (h : Reads cs ps) :
    ps = ofChars cs := by
  induction h with
  | done => rfl
  | token p _ ih => rw [ofChars_spell_append, ih]
  | literal hnot _ ih => rw [ofChars_cons hnot, ih]

/-- Every text is read as units. -/
theorem reads_ofChars (cs : List Char) : Reads cs (ofChars cs) := by
  fun_induction ofChars cs with
  | case1 => exact .done
  | case2 rest ih => exact .token .integer ih
  | case3 rest ih => exact .token .decimal ih
  | case4 rest ih => exact .token .name ih
  | case5 rest ih => exact .token .guid ih
  | case6 rest ih => exact .token .run ih
  | case7 c rest hinteger hdecimal hname hguid hrun ih =>
    refine .literal ?_ ih
    -- a token that began here would have been read as one
    rintro p ⟨t, ht⟩
    cases p with
    | integer =>
      obtain ⟨rfl, rfl⟩ := List.cons.inj ht
      exact hinteger t rfl rfl
    | decimal =>
      obtain ⟨rfl, rfl⟩ := List.cons.inj ht
      exact hdecimal t rfl rfl
    | name =>
      obtain ⟨rfl, rfl⟩ := List.cons.inj ht
      exact hname t rfl rfl
    | guid =>
      obtain ⟨rfl, rfl⟩ := List.cons.inj ht
      exact hguid t rfl rfl
    | run => exact hrun (List.cons.inj ht).1.symm

/-- There is one way to read a text. -/
theorem reads_iff {cs : List Char} {ps : List Piece} : Reads cs ps ↔ ps = ofChars cs :=
  ⟨Reads.eq_ofChars, fun h => h ▸ reads_ofChars cs⟩

end Pattern

end RouteAccess
