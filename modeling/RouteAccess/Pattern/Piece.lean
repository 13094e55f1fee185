/-
RouteAccess/Pattern/Piece.lean

Path patterns: literal text mixed with placeholders.  A placeholder is
recognised as a whole token wherever it occurs; every other character of the
lower-cased pattern stands for itself.

Nothing of the text is lost on the way (`spell_ofChars`):

    spell (ofChars cs) = cs.
-/
import RouteAccess.Text.Case

namespace RouteAccess

/-- What a token of a pattern leaves open. -/
inductive Placeholder
  /-- a whole number that stands alone -/
  | integer
  /-- a number with or without a point -/
  | decimal
  /-- a name of letters, digits, underscores and hyphens -/
  | name
  /-- a globally unique identifier, in braces or not -/
  | guid
  /-- any run of word characters, slashes, question marks and plus signs -/
  | run
deriving DecidableEq, Repr

/-- One unit of a pattern. -/
inductive Piece
  | literal (c : Char)
  | hole (h : Placeholder)
deriving DecidableEq, Repr

/-- The token that stands for a placeholder. -/
def Placeholder.spell : Placeholder → List Char
  | integer => ['\x7b', 'i', 'n', 't', '\x7d']
  | decimal => ['\x7b', 'd', 'e', 'c', '\x7d']
  | name => ['\x7b', 's', 't', 'r', '\x7d']
  | guid => ['\x7b', 'g', 'u', 'i', 'd', '\x7d']
  | run => ['*']

/-- The text of a unit of a pattern. -/
def Piece.spell : Piece → List Char
  | literal c => [c]
  | hole h => h.spell

namespace Pattern

/-- The units of a text that is lower-cased already. -/
def ofChars : List Char → List Piece
  | [] => []
  | '\x7b' :: 'i' :: 'n' :: 't' :: '\x7d' :: rest => .hole .integer :: ofChars rest
  | '\x7b' :: 'd' :: 'e' :: 'c' :: '\x7d' :: rest => .hole .decimal :: ofChars rest
  | '\x7b' :: 's' :: 't' :: 'r' :: '\x7d' :: rest => .hole .name :: ofChars rest
  | '\x7b' :: 'g' :: 'u' :: 'i' :: 'd' :: '\x7d' :: rest => .hole .guid :: ofChars rest
  | '*' :: rest => .hole .run :: ofChars rest
  | c :: rest => .literal c :: ofChars rest

/-- The units of a pattern. -/
def pieces (pattern : String) : List Piece :=
  ofChars (Text.lowerChars pattern.toList)

/-- The text that units spell. -/
def spell (ps : List Piece) : List Char :=
  ps.flatMap Piece.spell

/-- The tokens of a text spell that text. -/
theorem spell_ofChars (cs : List Char) : spell (ofChars cs) = cs := by
  fun_induction ofChars cs <;> simp_all [spell, Piece.spell, Placeholder.spell]

end Pattern

end RouteAccess
