/-
RouteAccess/Text/Base64.lean

Bytes as text with 64 letters, in the alphabet that is safe in addresses and
without padding.

Reading is lenient: both alphabets are accepted, other characters are skipped,
a group may be filled up with equals signs, and what follows a filled-up group
does not count.  Only a group that stays incomplete is refused.
-/
import RouteAccess.Text.CharClass

namespace RouteAccess

namespace Base64

/-! ### Letters -/

/-- The letter for six bits. -/
def letter (n : Nat) : UInt8 :=
  if n < 26 then UInt8.ofNat (65 + n)
  else if n < 52 then UInt8.ofNat (97 + (n - 26))
  else if n < 62 then UInt8.ofNat (48 + (n - 52))
  else if n = 62 then 45
  else 95

/-- The six bits of a letter of either alphabet. -/
def value? (b : UInt8) : Option Nat :=
  let n := b.toNat
  if 65 ≤ n && n ≤ 90 then some (n - 65)
  else if 97 ≤ n && n ≤ 122 then some (n - 97 + 26)
  else if 48 ≤ n && n ≤ 57 then some (n - 48 + 52)
  else if n = 45 || n = 43 then some 62
  else if n = 95 || n = 47 then some 63
  else none

/-- The equals sign. -/
def filler : UInt8 := 61

/-! ### Writing -/

/-- The letters for bytes, without padding. -/
def encode : List UInt8 → List UInt8
  | [] => []
  | [a] =>
    let n := a.toNat
    [letter (n / 4), letter (n % 4 * 16)]
  | [a, b] =>
    let n := a.toNat * 256 + b.toNat
    [letter (n / 1024), letter (n / 16 % 64), letter (n % 16 * 4)]
  | a :: b :: c :: rest =>
    let n := (a.toNat * 256 + b.toNat) * 256 + c.toNat
    letter (n / 262144) :: letter (n / 4096 % 64) :: letter (n / 64 % 64) :: letter (n % 64) ::
      encode rest

/-! ### Reading -/

/-- Where a reader stands in a group: how many letters of it have been read,
the bits left over from the last one, and how many fillers have been seen. -/
structure Group where
  letters : Nat := 0
  left : Nat := 0
  fillers : Nat := 0

/-- The bytes that the letters stand for, from inside a group on. -/
def decodeFrom (g : Group) : List UInt8 → Option (List UInt8)
  | [] => if g.letters = 0 then some [] else none
  | b :: rest =>
    if b = filler then
      if 2 ≤ g.letters then
        if 4 ≤ g.letters + g.fillers + 1 then some []
        else decodeFrom { g with fillers := g.fillers + 1 } rest
      else decodeFrom g rest
    else
      match value? b with
      -- a letter that is not of the alphabet is passed over
      | none => decodeFrom g rest
      | some v =>
        match g.letters with
        | 0 => decodeFrom ⟨1, v, 0⟩ rest
        | 1 => (decodeFrom ⟨2, v % 16, 0⟩ rest).map (UInt8.ofNat (g.left * 4 + v / 16) :: ·)
        | 2 => (decodeFrom ⟨3, v % 4, 0⟩ rest).map (UInt8.ofNat (g.left * 16 + v / 4) :: ·)
        | _ => (decodeFrom {} rest).map (UInt8.ofNat (g.left * 64 + v) :: ·)

/-- The text filled up to whole groups, counting every character of it. -/
def fill (text : List UInt8) : List UInt8 :=
  text ++ List.replicate ((4 - text.length % 4) % 4) filler

/-- The bytes that a text stands for. -/
def decode (text : List UInt8) : Option (List UInt8) :=
  decodeFrom {} (fill text)

end Base64

end RouteAccess
