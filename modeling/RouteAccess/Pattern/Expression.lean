/-
RouteAccess/Pattern/Expression.lean

Patterns written as regular expressions, for people to read: a placeholder
becomes its expression, and a literal character stands for itself, after a
backslash where it would have a meaning of its own.
-/
import RouteAccess.Pattern.Piece
import RouteAccess.Text.Quoted

namespace RouteAccess

/-- The regular expression of a placeholder. -/
def Placeholder.expression : Placeholder → String
  | integer => "[+-]?(?<!\\.)\\b[0-9]+\\b(?!\\.[0-9])"
  | decimal => "[+-]?(?:\\d*\\.)?\\d+"
  | name => "[a-zA-Z0-9_-]+"
  | guid =>
    "[\x7b]?[0-9a-fA-F]\x7b8\x7d-([0-9a-fA-F]\x7b4\x7d-)\x7b3\x7d[0-9a-fA-F]\x7b12\x7d[\x7d]?"
  | run => "[\\/?\\w+]*"

namespace Pattern

/-- The characters with a meaning of their own in regular expressions. -/
def special : List Char :=
  ['(', ')', '[', ']', '\x7b', '\x7d', '?', '*', '+', '-', '|', '^', '$', '\\', '.', '&', '~', '#',
   ' ', '\t', '\n', '\r', '\x0b', '\x0c']

/-- A literal character as a regular expression. -/
def escape (c : Char) : List Char :=
  if special.contains c then ['\\', c] else [c]

end Pattern

/-- The regular expression of a unit of a pattern. -/
def Piece.expression : Piece → List Char
  | literal c => Pattern.escape c
  | hole h => h.expression.toList

namespace Pattern

/-- The regular expression of a pattern. -/
def expression (pattern : String) : String :=
  String.ofList ((pieces pattern).flatMap Piece.expression)

/-- The matcher of a pattern as messages show it. -/
def shown (pattern : String) : String :=
  "PathMatcher(" ++ Text.quoted pattern ++ " -> " ++ Text.quoted (expression pattern) ++ ")"

end Pattern

end RouteAccess
