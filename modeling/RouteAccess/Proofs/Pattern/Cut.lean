/-
RouteAccess/Proofs/Pattern/Cut.lean

Which texts a pattern denotes.  `Piece.Fills before after u part` says that a
text fills a unit where it stands: only a whole number looks at its neighbours,
all other units look at the part alone.  `Cut before us parts` cuts a text into
parts, one for each unit, and `Denotes` puts this together with the reading of
the pattern.

Of the text before a part only the last character counts (`Fills.congr`,
`Cut.congr`).
-/
import RouteAccess.Proofs.Pattern.Reading
import RouteAccess.Text.CharClass

namespace RouteAccess

/-! ### What fills a unit -/

namespace Piece

/-- A sign or nothing. -/
def IsSign (cs : List Char) : Prop :=
  cs = [] ∨ cs = ['+'] ∨ cs = ['-']

/-- At least one character, and all of one class. -/
def IsRun (p : Char → Bool) (cs : List Char) : Prop :=
  cs ≠ [] ∧ ∀ c ∈ cs, p c = true

/-- A fixed number of hexadecimal digits. -/
def IsHex (n : Nat) (cs : List Char) : Prop :=
  cs.length = n ∧ ∀ c ∈ cs, Text.isHexDigit c = true

/-- Whether the first digit of a whole number may follow a text. -/
def OpensNumber (before : List Char) : Prop :=
  ∀ c ∈ before.getLast?, c ≠ '.' ∧ Text.isWord c = false

/-- Whether a text may follow the last digit of a whole number: it begins
neither with a word character nor with a point and a digit. -/
def ClosesNumber (after : List Char) : Prop :=
  (∀ c ∈ after.head?, Text.isWord c = false) ∧
    ∀ c, ['.', c] <+: after → Text.isDigit c = false

/-- What fills a unit between the text before and the text after it. -/
inductive Fills (before after : List Char) : Piece → List Char → Prop
  | literal (c : Char) : Fills before after (.literal c) [c]
  | integer {sign digits : List Char} :
      IsSign sign → IsRun Text.isDigit digits → OpensNumber (before ++ sign) →
        ClosesNumber after → Fills before after (.hole .integer) (sign ++ digits)
  | decimal {sign whole digits : List Char} :
      IsSign sign →
        (whole = [] ∨ ∃ ds, whole = ds ++ ['.'] ∧ ∀ c ∈ ds, Text.isDecimal c = true) →
          IsRun Text.isDecimal digits →
            Fills before after (.hole .decimal) (sign ++ whole ++ digits)
  | name {cs : List Char} :
      cs ≠ [] →
        (∀ c ∈ cs, Text.isLetter c = true ∨ Text.isDigit c = true ∨ c = '_' ∨ c = '-') →
          Fills before after (.hole .name) cs
  | guid {opening a b c d e closing : List Char} :
      (opening = [] ∨ opening = ['\x7b']) → IsHex 8 a → IsHex 4 b → IsHex 4 c → IsHex 4 d →
        IsHex 12 e → (closing = [] ∨ closing = ['\x7d']) →
          Fills before after (.hole .guid)
            (opening ++ List.intercalate ['-'] [a, b, c, d, e] ++ closing)
  | run {cs : List Char} :
      (∀ c ∈ cs, c = '/' ∨ c = '?' ∨ c = '+' ∨ Text.isWord c = true) →
        Fills before after (.hole .run) cs

theorem OpensNumber.congr {before before' : List Char} (h : before.getLast? = before'.getLast?) :
    OpensNumber before ↔ OpensNumber before' := by
  rw [OpensNumber, OpensNumber, h]

/-- Of what stands before a part only the last character matters. -/
theorem Fills.congr {before before' after part : List Char} {u : Piece}
    (h : before.getLast? = before'.getLast?) (hu : Fills before after u part) :
    Fills before' after u part := by
  cases hu with
  | literal c => exact .literal c
  -- a whole number alone looks behind itself, and no further than one character
  | @integer sign digits hsign hdigits hopens hcloses =>
    have happend : (before ++ sign).getLast? = (before' ++ sign).getLast? := by
      rw [List.getLast?_append, List.getLast?_append, h]
    exact .integer hsign hdigits ((OpensNumber.congr happend).mp hopens) hcloses
  | decimal hsign hwhole hdigits => exact .decimal hsign hwhole hdigits
  | name hne hcs => exact .name hne hcs
  | guid hopening ha hb hc hd he hclosing => exact .guid hopening ha hb hc hd he hclosing
  | run hcs => exact .run hcs

end Piece

/-! ### Cutting a text into parts -/

namespace Pattern

/-- Parts of a text that fill units, one part for each unit, after a text that
stands before them. -/
inductive Cut : List Char → List Piece → List (List Char) → Prop
  | done {before : List Char} : Cut before [] []
  | unit {before part : List Char} {parts : List (List Char)} {u : Piece} {us : List Piece} :
      u.Fills before parts.flatten part → Cut (before ++ part) us parts →
        Cut before (u :: us) (part :: parts)

/-- Of what stands before the first part only the last character matters. -/
theorem Cut.congr {before before' : List Char} {us : List Piece} {parts : List (List Char)}
    (h : before.getLast? = before'.getLast?) (hcut : Cut before us parts) :
    Cut before' us parts := by
  induction hcut generalizing before' with
  | done => exact .done
  | unit hu _ ih =>
    refine .unit (hu.congr h) (ih ?_)
    rw [List.getLast?_append, List.getLast?_append, h]

/-- Whether a text can be cut into parts that fill the units of a pattern, from
the first to the last. -/
def Denotes (pattern text : String) : Prop :=
  ∃ units parts, Reads (Text.lower pattern).toList units ∧ Cut [] units parts ∧
    parts.flatten = text.toList

end Pattern

end RouteAccess
