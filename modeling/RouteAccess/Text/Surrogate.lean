/-
RouteAccess/Text/Surrogate.lean

Surrogates: units of 16 bits, two of which stand for one character beyond the
basic plane.  Half of a pair is no character; where a text has one all the
same, it is kept as two characters: the last one of all, and the character of the
last plane with the same 16 bits.

The last character is set aside for internal use, but a text may hold it.  A text
with these two characters side by side is taken for one with half of a pair.
-/

namespace RouteAccess

namespace Surrogate

/-- Whether a unit is the first half of a pair. -/
def isHigh (n : Nat) : Bool := 0xD800 ≤ n && n < 0xDC00

/-- Whether a unit is the second half of a pair. -/
def isLow (n : Nat) : Bool := 0xDC00 ≤ n && n < 0xE000

/-- Whether a unit is half of a pair. -/
def isHalf (n : Nat) : Bool := 0xD800 ≤ n && n < 0xE000

/-- The character that two halves stand for. -/
def pair (high low : Nat) : Char :=
  Char.ofNat (0x10000 + (high - 0xD800) * 0x400 + (low - 0xDC00))

/-! ### Halves in texts -/

/-- The character before one that stands for a half. -/
def mark : Char := Char.ofNat 0x10FFFF

/-- The characters that stand for a half alone. -/
def standIn (n : Nat) : List Char :=
  [mark, Char.ofNat (0x100000 + n)]

/-- The half that a character stands for after the mark. -/
def half? (c : Char) : Option Nat :=
  if 0x10D800 ≤ c.toNat && c.toNat < 0x10E000 then some (c.toNat - 0x100000) else none

/-- The half at the start of a text, and the rest of the text. -/
def readHalf : List Char → Option (Nat × List Char)
  | m :: c :: rest => if m = mark then (half? c).map (·, rest) else none
  | _ => none

/-- Whether characters have half of a pair among them. -/
def hasHalfIn : List Char → Bool
  | [] => false
  | c :: rest => (readHalf (c :: rest)).isSome || hasHalfIn rest

/-- Whether a text has half of a pair. -/
def hasHalf (s : String) : Bool :=
  hasHalfIn s.toList

/-- The number of halves among characters. -/
def halves : List Char → Nat
  | [] => 0
  | c :: rest => if (readHalf (c :: rest)).isSome then halves rest + 1 else halves rest

/-- The characters for a unit that is not the first half of a pair. -/
def charsOf (n : Nat) : List Char :=
  if isHalf n then standIn n else [Char.ofNat n]

/-- The characters that units stand for. -/
def join : List Nat → List Char
  | [] => []
  | [n] => charsOf n
  | n :: k :: rest =>
    if isHigh n && isLow k then pair n k :: join rest else charsOf n ++ join (k :: rest)

end Surrogate

end RouteAccess
