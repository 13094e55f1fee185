/-
RouteAccess/Json/Writer.lean

Writing JSON texts in ASCII: every other character is escaped, beyond the
basic plane as a pair of surrogates.  A `Layout` says what stands between
items and after names.
-/
import RouteAccess.Json.Value
import RouteAccess.Number.Shortest
import RouteAccess.Text.CharClass

namespace RouteAccess

namespace Json

/-- What stands between items and after names. -/
structure Layout where
  item : List Char
  name : List Char

/-- No space at all. -/
def Layout.compact : Layout := ⟨[','], [':']⟩

/-- A space after each comma and colon. -/
def Layout.spaced : Layout := ⟨[',', ' '], [':', ' ']⟩

/-! ### Texts -/

/-- A 16-bit unit as an escape. -/
def escapeUnit (n : Nat) : List Char :=
  '\\' :: 'u' :: Text.hexDigits 4 n

/-- One character between quotes. -/
def escapeChar (c : Char) : List Char :=
  if c = '"' then ['\\', '"']
  else if c = '\\' then ['\\', '\\']
  else if c = '\n' then ['\\', 'n']
  else if c = '\r' then ['\\', 'r']
  else if c = '\t' then ['\\', 't']
  else if c = '\x0c' then ['\\', 'f']
  else if c = '\x08' then ['\\', 'b']
  else if 0x20 ≤ c.toNat && c.toNat < 0x7F then [c]
  else if c.toNat < 0x10000 then escapeUnit c.toNat
  else
    escapeUnit (0xD800 + (c.toNat - 0x10000) / 0x400) ++
      escapeUnit (0xDC00 + (c.toNat - 0x10000) % 0x400)

/-- A text between quotes. -/
def writeText (s : String) : List Char :=
  '"' :: s.toList.flatMap escapeChar ++ ['"']

/-! ### Numbers -/

/-- A whole number. -/
def writeInt (n : Int) : List Char :=
  if n < 0 then '-' :: Nat.toDigits 10 n.natAbs else Nat.toDigits 10 n.natAbs

/-- A floating-point number. -/
def writeFloat (x : Binary64) : List Char :=
  (Binary64.render ⟨"NaN", "Infinity"⟩ x).toList

/-! ### Values -/

mutual

/-- The text of a value. -/
def write (layout : Layout) : Json → List Char
  | null => ['n', 'u', 'l', 'l']
  | bool true => ['t', 'r', 'u', 'e']
  | bool false => ['f', 'a', 'l', 's', 'e']
  | int n => writeInt n
  | float x => writeFloat x
  | str s => writeText s
  | arr items => '[' :: writeItems layout items ++ [']']
  | obj fields => '\x7b' :: writeFields layout fields ++ ['\x7d']

/-- The items of an array, with what stands between them. -/
def writeItems (layout : Layout) : List Json → List Char
  | [] => []
  | [item] => write layout item
  | item :: next :: rest => write layout item ++ layout.item ++ writeItems layout (next :: rest)

/-- The fields of an object, with what stands between them. -/
def writeFields (layout : Layout) : List (String × Json) → List Char
  | [] => []
  | [(name, value)] => writeText name ++ layout.name ++ write layout value
  | (name, value) :: next :: rest =>
    writeText name ++ layout.name ++ write layout value ++ layout.item ++
      writeFields layout (next :: rest)

end

/-- The text of a value. -/
def render (layout : Layout) (value : Json) : String :=
  String.ofList (write layout value)

end Json

end RouteAccess
