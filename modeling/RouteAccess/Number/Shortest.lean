/-
RouteAccess/Number/Shortest.lean

The shortest decimal text of a floating-point number: as few digits as still
read back as the same number, and of those the nearest to it.

The numbers that round to `m · 2 ^ e` form an interval around it, its ends
included when `m` is even.  On a grid of decimals `d · 10 ^ k` only the two
neighbours of the number can be the nearest in that interval, so the first
grid, from coarse to fine, with such a neighbour inside gives the digits.
-/
import RouteAccess.Number.Binary64

namespace RouteAccess

namespace Binary64

/-! ### Digits -/

/-- The interval of a number in quarters of its last place: its lower end, the
number, and its upper end.  Below a power of two the places are half as wide. -/
def quarters (m : Nat) (e : Int) : Nat × Nat × Nat :=
  (if m = Nat.pow 2 52 ∧ lowestExponent < e then 4 * m - 1 else 4 * m - 2, 4 * m, 4 * m + 2)

/-- Which neighbour on the grid `10 ^ k` to take, if one lies in the interval. -/
def neighbour? (m : Nat) (e k : Int) : Option Nat :=
  let (low, mid, high) := quarters m e
  let scale := Nat.pow 2 (e - 2).toNat * Nat.pow 10 (-k).toNat
  let unit := Nat.pow 2 (2 - e).toNat * Nat.pow 10 k.toNat
  let inside := fun d : Nat =>
    -- the ends belong to the interval if the number is even
    if m % 2 = 0 then low * scale ≤ d * unit ∧ d * unit ≤ high * scale
    else low * scale < d * unit ∧ d * unit < high * scale
  let below := mid * scale / unit
  let twice := 2 * (mid * scale % unit)
  match decide (inside below), decide (inside (below + 1)) with
  | true, true =>
    if twice < unit then some below
    else if unit < twice then some (below + 1)
    -- halfway between both, the even one
    else some (below + below % 2)
  | true, false => some below
  | false, true => some (below + 1)
  | false, false => none

/-- The digits and the exponent of ten on the first of `steps` grids that has
an answer. -/
def searchGrid (m : Nat) (e : Int) : Nat → Int → Nat × Int
  | 0, k => (0, k)
  | steps + 1, k =>
    match neighbour? m e k with
    | some d => (d, k)
    | none => searchGrid m e steps (k - 1)

/-- The shortest decimal `(d, k)`, meaning `d · 10 ^ k`, that reads back as
`m · 2 ^ e`, for a positive `m`. -/
def shortestDecimal (m : Nat) (e : Int) : Nat × Int :=
  searchGrid m e 24 (((Nat.log2 m : Int) + e + 1) * 30103 / 100000 + 2)

/-! ### Notation -/

/-- The decimal digits of a natural number. -/
def digitsOf (n : Nat) : List Char :=
  Nat.toDigits 10 n

/-- Positional notation of `d · 10 ^ k`, with at least one digit on both sides
of the point. -/
def positional (d : Nat) (k : Int) : List Char :=
  let digits := digitsOf d
  match k with
  | .ofNat z => digits ++ List.replicate z '0' ++ ['.', '0']
  | .negSucc z =>
    let places := z + 1
    if digits.length ≤ places then
      '0' :: '.' :: List.replicate (places - digits.length) '0' ++ digits
    else
      digits.take (digits.length - places) ++ '.' :: digits.drop (digits.length - places)

/-- Scientific notation of `d · 10 ^ k`: one digit before the point, and a
signed exponent of at least two digits. -/
def scientific (d : Nat) (k : Int) : List Char :=
  let digits := digitsOf d
  let e := k + (digits.length : Int) - 1
  let mantissa := match digits with
    | [] => ['0']
    | [c] => [c]
    | c :: rest => c :: '.' :: rest
  let places := digitsOf e.natAbs
  mantissa ++ 'e' :: (if e < 0 then '-' else '+') ::
    (if places.length < 2 then '0' :: places else places)

/-- Numbers from `10 ^ (-4)` up to `10 ^ 16` are written positionally, all
others in scientific notation; a whole number keeps its `.0`. -/
def notate (d : Nat) (k : Int) : List Char :=
  let e := k + ((digitsOf d).length : Int) - 1
  if -4 ≤ e ∧ e < 16 then positional d k else scientific d k

/-- The texts of the numbers that have no digits. -/
structure Specials where
  nan : String
  infinity : String

/-- The text of a number. -/
def render (specials : Specials) : Binary64 → String
  | nan => specials.nan
  | infinite s => (if s then "-" else "") ++ specials.infinity
  | finite s m e =>
    (if s then "-" else "") ++
      (if m = 0 then "0.0"
      else
        let (d, k) := shortestDecimal m e
        String.ofList (notate d k))

/-- The text of a number in messages. -/
def text (x : Binary64) : String :=
  render ⟨"nan", "inf"⟩ x

end Binary64

end RouteAccess
