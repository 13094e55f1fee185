/-
RouteAccess/Text/Quoted.lean

Quoted text, the way a value is shown in a message: single quotes unless the
text holds a single quote and no double one; a backslash before the quote and
the backslash; `\n`, `\r` and `\t` for the three usual controls; and `\x`, `\u`
or `\U` with hexadecimal digits for whatever is not printable, half of a pair of
surrogates among it.
-/
import RouteAccess.Text.CharClass
import RouteAccess.Text.Surrogate

namespace RouteAccess

namespace Text

/-- The quote that stands around a text. -/
def quoteFor (cs : List Char) : Char :=
  if cs.contains '\'' && !cs.contains '"' then '"' else '\''

/-- One character of a text in quotes. -/
def quotedChar (quote : Char) (c : Char) : List Char :=
  if c = quote || c = '\\' then ['\\', c]
  else if c = '\n' then ['\\', 'n']
  else if c = '\r' then ['\\', 'r']
  else if c = '\t' then ['\\', 't']
  else if isPrintable c then [c]
  else if c.toNat < 0x100 then '\\' :: 'x' :: hexDigits 2 c.toNat
  else if c.toNat < 0x10000 then '\\' :: 'u' :: hexDigits 4 c.toNat
  else '\\' :: 'U' :: hexDigits 8 c.toNat

/-- The characters of a text in quotes, at most `fuel` of them. -/
def quotedFrom (quote : Char) : (fuel : Nat) → List Char → List Char
  | 0, _ => []
  | _, [] => []
  | fuel + 1, c :: rest =>
    match Surrogate.readHalf (c :: rest) with
    | some (n, rest) => '\\' :: 'u' :: hexDigits 4 n ++ quotedFrom quote fuel rest
    | none => quotedChar quote c ++ quotedFrom quote fuel rest

/-- The text in quotes. -/
def quotedChars (cs : List Char) : List Char :=
  let quote := quoteFor cs
  quote :: quotedFrom quote cs.length cs ++ [quote]

/-- The text in quotes. -/
def quoted (s : String) : String :=
  String.ofList (quotedChars s.toList)

end Text

end RouteAccess
