/-
RouteAccess/Http/Address.lean

Addresses in headers: every byte that an address does not hold as it is, is
written as a percent sign and two hexadecimal digits.
-/
import RouteAccess.Text.CharClass

namespace RouteAccess

namespace Address

/-- The characters, besides letters and digits, that stay as they are. -/
def kept : List Char :=
  "_.-~:/%#?=@[]!$&'()*+,;".toList

/-- A byte in an address. -/
def quotedByte (b : UInt8) : List Char :=
  let c := Char.ofNat b.toNat
  if b < 0x80 && (Text.isLetter c || Text.isDigit c || kept.contains c) then [c]
  else '%' :: (Text.hexDigits 2 b.toNat).map Char.toUpper

/-- A text as an address. -/
def quoted (s : String) : String :=
  String.ofList (s.toUTF8.toList.flatMap quotedByte)

end Address

end RouteAccess
