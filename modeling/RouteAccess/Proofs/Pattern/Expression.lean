/-
RouteAccess/Proofs/Pattern/Expression.lean

Expressions say no less than patterns.  A literal character with a meaning of its own stands
after a backslash, any other one stands for itself, and only a placeholder opens with a bracket
that no backslash precedes.  So no unit's expression is the beginning of another one's
(`Piece.eq_of_prefix_expression`), and a text falls into expressions of units in one way at most
(`eq_of_flatMap_expression`).

Hence the units of a pattern can be recovered from its expression, and patterns with one
expression are the same in lower case (`expression_eq_iff`):

    expression p = expression q  ↔  lower p = lower q.
-/
import RouteAccess.Pattern.Expression
import RouteAccess.Proofs.Pattern.Reading
import RouteAccess.Proofs.Text.Case

namespace RouteAccess

/-! ### The beginnings of expressions -/

namespace Pattern

theorem escape_cases (c : Char) :
    c ∈ special ∧ escape c = ['\\', c] ∨ c ∉ special ∧ escape c = [c] := by
  by_cases h : c ∈ special
  · exact .inl ⟨h, by simp [escape, h]⟩
  · exact .inr ⟨h, by simp [escape, h]⟩

/-- The expression of one literal character is not the beginning of that of another. -/
theorem eq_of_prefix_escape {c d : Char} (h : escape c <+: escape d) : c = d := by
  have hbackslash : '\\' ∈ special := by decide
  obtain ⟨hc, hescape⟩ | ⟨hc, hescape⟩ := escape_cases c
  · obtain ⟨-, hescape'⟩ | ⟨-, hescape'⟩ := escape_cases d
    · rw [hescape, hescape', List.cons_prefix_cons, List.cons_prefix_cons] at h
      exact h.2.1
    · rw [hescape, hescape', List.cons_prefix_cons] at h
      exact absurd (List.prefix_nil.mp h.2) (List.cons_ne_nil c [])
  · obtain ⟨-, hescape'⟩ | ⟨-, hescape'⟩ := escape_cases d
    · -- a backslash that stands for itself would need another one before it
      rw [hescape, hescape', List.cons_prefix_cons] at h
      exact absurd (h.1 ▸ hbackslash) hc
    · rw [hescape, hescape', List.cons_prefix_cons] at h
      exact h.1

/-- No literal character opens with a bracket. -/
theorem exists_escape_eq (c : Char) : ∃ d t, escape c = d :: t ∧ d ≠ '[' := by
  have hbracket : '[' ∈ special := by decide
  obtain ⟨-, hescape⟩ | ⟨hc, hescape⟩ := escape_cases c
  · exact ⟨'\\', [c], hescape, by decide⟩
  · exact ⟨c, [], hescape, fun heq => hc (heq ▸ hbracket)⟩

end Pattern

namespace Piece

open Pattern

/-- Every placeholder opens with a bracket. -/
theorem exists_expression_eq (h : Placeholder) : ∃ t, (hole h).expression = '[' :: t := by
  cases h <;> simp [expression, Placeholder.expression]

/-- Every unit has an expression that is not empty. -/
theorem expression_ne_nil (u : Piece) : u.expression ≠ [] := by
  cases u with
  | literal c =>
    obtain ⟨d, t, hescape, -⟩ := exists_escape_eq c
    rw [expression, hescape]
    exact List.cons_ne_nil d t
  | hole h =>
    obtain ⟨t, hopens⟩ := exists_expression_eq h
    rw [hopens]
    exact List.cons_ne_nil _ t

/-- The expressions of placeholders differ behind the bracket. -/
theorem eq_of_prefix_hole {g h : Placeholder} (hp : (hole g).expression <+: (hole h).expression) :
    g = h := by
  cases g <;> cases h <;> simp [expression, Placeholder.expression] at hp ⊢

/-- No unit's expression is the beginning of another one's. -/
theorem eq_of_prefix_expression {u v : Piece} (h : u.expression <+: v.expression) : u = v := by
  cases u with
  | literal c =>
    cases v with
    -- a placeholder opens with a bracket, and an escaped character with no bracket of its own
    | literal d => rw [eq_of_prefix_escape h]
    | hole g =>
      obtain ⟨d, t, hescape, hne⟩ := exists_escape_eq c
      obtain ⟨t', hopens⟩ := exists_expression_eq g
      rw [hopens, expression, hescape, List.cons_prefix_cons] at h
      exact absurd h.1 hne
  | hole g =>
    obtain ⟨t, hopens⟩ := exists_expression_eq g
    cases v with
    | literal d =>
      obtain ⟨d', t', hescape, hne⟩ := exists_escape_eq d
      rw [hopens, expression, hescape, List.cons_prefix_cons] at h
      exact absurd h.1.symm hne
    | hole g' => rw [eq_of_prefix_hole h]

end Piece

/-! ### Expressions of several units -/

namespace Pattern

/-- A text falls into expressions of units in one way at most. -/
theorem eq_of_flatMap_expression {us vs : List Piece}
    (h : us.flatMap Piece.expression = vs.flatMap Piece.expression) : us = vs := by
  induction us generalizing vs with
  | nil =>
    cases vs with
    | nil => rfl
    | cons v vs =>
      rw [List.flatMap_nil, List.flatMap_cons] at h
      exact absurd (List.append_eq_nil_iff.mp h.symm).1 v.expression_ne_nil
  | cons u us ih =>
    cases vs with
    | nil =>
      rw [List.flatMap_nil, List.flatMap_cons] at h
      exact absurd (List.append_eq_nil_iff.mp h).1 u.expression_ne_nil
    | cons v vs =>
      rw [List.flatMap_cons, List.flatMap_cons] at h
      -- of two beginnings of one text one is the beginning of the other
      have huv : u = v := by
        obtain hp | hp := List.prefix_or_prefix_of_prefix (h ▸ List.prefix_append u.expression _)
          (List.prefix_append v.expression _)
        · exact Piece.eq_of_prefix_expression hp
        · exact (Piece.eq_of_prefix_expression hp).symm
      subst huv
      rw [ih (List.append_cancel_left h)]

/-- Two patterns have the same units exactly if they are the same in lower case. -/
theorem pieces_eq_iff {p q : String} : pieces p = pieces q ↔ Text.lower p = Text.lower q := by
  rw [← String.toList_inj, Text.toList_lower, Text.toList_lower, pieces, pieces]
  constructor
  · intro h
    rw [← spell_ofChars (Text.lowerChars p.toList), h, spell_ofChars]
  · exact congrArg ofChars

/-- Literal text is never taken for a part of an expression: two patterns have the same
expression exactly if they are the same in lower case, and the expression of a pattern falls into
expressions of units in just one way, into those of the units that the pattern is read as. -/
theorem expression_eq_iff (p q : String) :
    (expression p = expression q ↔ Text.lower p = Text.lower q) ∧
      ∀ us : List Piece,
        us.flatMap Piece.expression = (expression p).toList ↔ Reads (Text.lower p).toList us := by
  constructor
  · rw [← pieces_eq_iff, expression, expression, String.ofList_inj]
    constructor
    · -- expressions of units are told apart from the left, since none begins another
      exact eq_of_flatMap_expression
    · exact congrArg (List.flatMap Piece.expression)
  · intro us
    rw [expression, String.toList_ofList, reads_iff, Text.toList_lower]
    constructor
    · exact eq_of_flatMap_expression
    · rintro rfl
      rfl

/-- A pattern that spells the expression of a name is another one than the name. -/
example : expression "[a-zA-Z0-9_-]+" = "\\[a\\-za\\-z0\\-9_\\-\\]\\+" ∧
    expression "\x7bStr\x7d" = "[a-zA-Z0-9_-]+" := by
  decide +kernel

end Pattern

end RouteAccess
