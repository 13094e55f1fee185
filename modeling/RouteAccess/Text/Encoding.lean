/-
RouteAccess/Text/Encoding.lean

The ways in which bytes stand for the characters of a text: one to four bytes a
character, or units of two or four bytes with the greater or the smaller byte
first.  A text that starts with two characters of ASCII shows its encoding by
where its first bytes are zero (`Encoding.guess`).
-/
import RouteAccess.Text.Surrogate

namespace RouteAccess

/-- How bytes stand for a text. -/
inductive Encoding
  | bytes
  | pairs (greatFirst : Bool)
  | quads (greatFirst : Bool)
deriving DecidableEq, Repr

namespace Encoding

/-- The encoding of a text that starts with characters of ASCII. -/
def guess : List UInt8 → Encoding
  | [a, b] => if a = 0 then .pairs true else if b = 0 then .pairs false else .bytes
  | a :: b :: c :: d :: _ =>
    if a = 0 then (if b = 0 then .quads true else .pairs true)
    else if b = 0 then (if c = 0 ∧ d = 0 then .quads false else .pairs false)
    else .bytes
  | _ => .bytes

/-- The units of two bytes, if no byte is left over. -/
def pairUnits? (greatFirst : Bool) : List UInt8 → Option (List Nat)
  | [] => some []
  | [_] => none
  | a :: b :: rest =>
    let unit := if greatFirst then a.toNat * 256 + b.toNat else b.toNat * 256 + a.toNat
    (pairUnits? greatFirst rest).map (unit :: ·)

/-- The characters of units of four bytes, if no byte is left over and no unit is
too great. -/
def quadChars? (greatFirst : Bool) : List UInt8 → Option (List Char)
  | [] => some []
  | a :: b :: c :: d :: rest =>
    let (a, b, c, d) := if greatFirst then (a, b, c, d) else (d, c, b, a)
    let code := ((a.toNat * 256 + b.toNat) * 256 + c.toNat) * 256 + d.toNat
    if 0x10FFFF < code then none
    else (quadChars? greatFirst rest).map (Surrogate.charsOf code ++ ·)
  | _ => none

/-- The text that bytes stand for. -/
def decode? : Encoding → List UInt8 → Option String
  | .bytes, bs => String.fromUTF8? ⟨bs.toArray⟩
  | .pairs greatFirst, bs =>
    (pairUnits? greatFirst bs).map fun units => String.ofList (Surrogate.join units)
  | .quads greatFirst, bs => (quadChars? greatFirst bs).map String.ofList

end Encoding

end RouteAccess
