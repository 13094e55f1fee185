/-
RouteAccess/Number/Whole.lean

Whole numbers as people write them: a sign, then digits of any script, with
single underscores between digits and spaces around the whole.
-/
import RouteAccess.Text.Blank
import RouteAccess.Text.CharClass

namespace RouteAccess

namespace Whole

/-- The most digits that a number may have. -/
def maxDigits : Nat := 4300

/-- Space around a number: all blanks but the four information separators. -/
def isSpace (c : Char) : Bool :=
  Text.isBlank c && !(0x1C ≤ c.toNat && c.toNat ≤ 0x1F)

/-- The values of digits with single underscores between them. -/
def digits : List Char → Option (List Nat)
  | [] => none
  | [c] => (Text.decimalValue? c).map ([·])
  | c :: '_' :: rest => do
    let d ← Text.decimalValue? c
    let ds ← digits rest
    return d :: ds
  | c :: rest => do
    let d ← Text.decimalValue? c
    let ds ← digits rest
    return d :: ds

/-- The sign at the start of a number, and what follows it. -/
def splitSign : List Char → Bool × List Char
  | '-' :: rest => (true, rest)
  | '+' :: rest => (false, rest)
  | cs => (false, cs)

/-- The number that a text is. -/
def parse? (s : String) : Option Int := do
  let cs := (((s.toList.dropWhile isSpace).reverse).dropWhile isSpace).reverse
  let (negative, cs) := splitSign cs
  let ds ← digits cs
  if maxDigits < ds.length then none
  else
    let n : Nat := ds.foldl (fun n d => n * 10 + d) 0
    return if negative then -(n : Int) else n

end Whole

end RouteAccess
