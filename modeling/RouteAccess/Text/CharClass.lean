/-
RouteAccess/Text/CharClass.lean

Classes of characters that patterns, numbers and quoted texts ask for.
-/
import RouteAccess.Text.ClassTable

namespace RouteAccess

namespace Text

/-- Letters, digits, other numeric characters and the underscore. -/
def isWord (c : Char) : Bool :=
  Span.holds ClassTable.word c.toNat

/-- Decimal digits of every script. -/
def isDecimal (c : Char) : Bool :=
  Span.holds ClassTable.decimal c.toNat

/-- The value of a decimal digit of any script. -/
def decimalValue? (c : Char) : Option Nat :=
  (Span.offset? ClassTable.decimal c.toNat).map (· % 10)

/-- Characters that quoted text shows as they stand. -/
def isPrintable (c : Char) : Bool :=
  Span.holds ClassTable.printable c.toNat

/-- The digits `0` to `9`. -/
def isDigit (c : Char) : Bool :=
  '0' ≤ c && c ≤ '9'

/-- The letters `a` to `z` and `A` to `Z`. -/
def isLetter (c : Char) : Bool :=
  ('a' ≤ c && c ≤ 'z') || ('A' ≤ c && c ≤ 'Z')

/-- The digits `0` to `9`, `a` to `f` and `A` to `F`. -/
def isHexDigit (c : Char) : Bool :=
  isDigit c || ('a' ≤ c && c ≤ 'f') || ('A' ≤ c && c ≤ 'F')

/-- The value of a hexadecimal digit. -/
def hexValue? (c : Char) : Option Nat :=
  if isDigit c then some (c.toNat - '0'.toNat)
  else if 'a' ≤ c && c ≤ 'f' then some (c.toNat - 'a'.toNat + 10)
  else if 'A' ≤ c && c ≤ 'F' then some (c.toNat - 'A'.toNat + 10)
  else none

/-- The digit of value `n`, in lower case, for `n < 16`. -/
def hexDigit (n : Nat) : Char :=
  if n < 10 then Char.ofNat ('0'.toNat + n) else Char.ofNat ('a'.toNat + (n - 10))

/-- The last `width` hexadecimal digits of `n`, in lower case. -/
def hexDigits : Nat → Nat → List Char
  | 0, _ => []
  | width + 1, n => hexDigits width (n / 16) ++ [hexDigit (n % 16)]

end Text

end RouteAccess
