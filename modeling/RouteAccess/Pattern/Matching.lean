/-
RouteAccess/Pattern/Matching.lean

Matching a path against a pattern.  The units of the pattern are followed from
right to left, with marks on the places from which the rest of the pattern leads
to the end of the text; the path matches when the first place is marked at last.

The text around a whole number counts: it has no word character and no point
before its first digit, and neither a word character nor a point and a digit
after its last one.
-/
import RouteAccess.Pattern.Piece
import RouteAccess.Pattern.Place
import RouteAccess.Text.CharClass

namespace RouteAccess

/-! ### Classes -/

/-- A sign. -/
def Placeholder.isSign (c : Char) : Bool :=
  c = '+' || c = '-'

/-- A point. -/
def Placeholder.isPoint (c : Char) : Bool :=
  c = '.'

/-- A hyphen. -/
def Placeholder.isHyphen (c : Char) : Bool :=
  c = '-'

/-- A character of a name. -/
def Placeholder.isNameChar (c : Char) : Bool :=
  Text.isLetter c || Text.isDigit c || c = '_' || c = '-'

/-- A character of a run. -/
def Placeholder.isRunChar (c : Char) : Bool :=
  c = '/' || c = '?' || c = '+' || Text.isWord c

/-- The classes of the characters of an identifier between its braces. -/
def Placeholder.guidShape : List (Char → Bool) :=
  List.replicate 8 Text.isHexDigit ++
    (List.replicate 3 (isHyphen :: List.replicate 4 Text.isHexDigit)).flatten ++
    isHyphen :: List.replicate 12 Text.isHexDigit

namespace Place

/-- Whether a whole number may begin here. -/
def numberMayStart (x : Place) : Bool :=
  match x.before with
  | none => true
  | some c => !(c = '.' || Text.isWord c)

/-- Whether a whole number may end here. -/
def numberMayEnd (x : Place) : Bool :=
  match x.after with
  | [] => true
  | '.' :: c :: _ => !Text.isDigit c
  | c :: _ => !Text.isWord c

end Place

/-! ### Steps -/

/-- The places before a text that fills the placeholder and leads to a marked
place. -/
def Placeholder.lead : Placeholder → Row → Row
  | integer, m =>
    let digits := (m.keep Place.numberMayEnd).atLeastOne Text.isDigit
    (digits.keep Place.numberMayStart).optional isSign
  | decimal, m =>
    let digits := m.atLeastOne Text.isDecimal
    (digits.either ((digits.one isPoint).many Text.isDecimal)).optional isSign
  | name, m => m.atLeastOne isNameChar
  | guid, m => ((m.optional (· = '\x7d')).each guidShape).optional (· = '\x7b')
  | run, m => m.many isRunChar

/-- The places before a text that fits the unit and leads to a marked place. -/
def Piece.lead : Piece → Row → Row
  | literal c, m => m.one (· = c)
  | hole h, m => h.lead m

namespace Pattern

/-- The places before a text that fits all units, one after the other, and leads
to a marked place. -/
def lead (ps : List Piece) (m : Row) : Row :=
  ps.foldr Piece.lead m

/-- Whether a text, lower-cased already, fits the units as a whole. -/
def fits (ps : List Piece) (cs : List Char) : Bool :=
  (lead ps (.atEnd none cs)).first

/-- Whether a path matches a pattern; case does not count on either side. -/
def isMatch (pattern path : String) : Bool :=
  fits (pieces pattern) (Text.lowerChars path.toList)

end Pattern

end RouteAccess
