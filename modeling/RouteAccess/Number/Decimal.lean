/-
RouteAccess/Number/Decimal.lean

Decimal texts with a chosen number of digits: fixed, with so many digits after
the point; scientific, with so many after the first digit; and general, which is
whichever of the two is shorter.  The exact value is rounded once, a tie going
to the even digit.
-/
import RouteAccess.Number.Shortest

namespace RouteAccess

namespace Binary64

/-! ### Fixed and scientific -/

/-- A number of digits after the point, the point itself kept only if digits
follow or if `point` asks for it. -/
def fractionText (point : Bool) (digits : List Char) : List Char :=
  if digits = [] && !point then [] else '.' :: digits

/-- `num / den` with `places` digits after the point. -/
def fixedText (point : Bool) (places num den : Nat) : List Char :=
  let digits := digitsOf (roundHalfEven (num * Nat.pow 10 places) den)
  let digits := List.replicate (places + 1 - digits.length) '0' ++ digits
  let whole := digits.length - places
  digits.take whole ++ fractionText point (digits.drop whole)

/-- The least number of tens that `num` has to be multiplied by to reach `den`,
up to `fuel`. -/
def tensBelow (num den : Nat) : Nat → Nat
  | 0 => 0
  | fuel + 1 => if den ≤ num then 0 else tensBelow (num * 10) den fuel + 1

/-- The exponent of the first digit of `num / den`. -/
def firstExponent (num den : Nat) : Int :=
  if num = 0 then 0
  else if den ≤ num then (digitsOf (num / den)).length - 1
  else -(tensBelow num den 400 : Int)

/-- The digits of `num / den`, the first and `places` more, and the exponent of
the first one. -/
def leadingDigits (places num den : Nat) : List Char × Int :=
  let e := firstExponent num den
  let shift := (places : Int) - e
  let n := roundHalfEven (num * Nat.pow 10 shift.toNat) (den * Nat.pow 10 (-shift).toNat)
  if n = Nat.pow 10 (places + 1) then (digitsOf (Nat.pow 10 places), e + 1)
  else (List.replicate (places + 1 - (digitsOf n).length) '0' ++ digitsOf n, e)

/-- An exponent with its sign and at least two digits. -/
def exponentText (e : Int) : List Char :=
  let digits := digitsOf e.natAbs
  'e' :: (if e < 0 then '-' else '+') :: (if digits.length < 2 then '0' :: digits else digits)

/-- `num / den` in scientific notation, with `places` digits after the point. -/
def scientificText (point : Bool) (places num den : Nat) : List Char :=
  let (digits, e) := leadingDigits places num den
  digits.take 1 ++ fractionText point (digits.drop 1) ++ exponentText e

/-! ### General -/

/-- Digits without the zeros at their end. -/
def trimTail (digits : List Char) : List Char :=
  (digits.reverse.dropWhile (· = '0')).reverse

/-- The digits after the point, all of them if `point` asks for it, else without
zeros at the end. -/
def generalFraction (point : Bool) (digits : List Char) : List Char :=
  fractionText point (if point then digits else trimTail digits)

/-- `num / den` with `digits` digits in all, at least one: fixed when the exponent
is from -4 up to the number of digits, else scientific. -/
def generalText (point : Bool) (digits num den : Nat) : List Char :=
  let digits := max digits 1
  let (cs, e) := leadingDigits (digits - 1) num den
  if -4 ≤ e ∧ e < digits then
    match e with
    | .ofNat k => cs.take (k + 1) ++ generalFraction point (cs.drop (k + 1))
    | .negSucc k => '0' :: generalFraction point (List.replicate k '0' ++ cs)
  else cs.take 1 ++ generalFraction point (cs.drop 1) ++ exponentText e

/-! ### Numbers -/

/-- Which of the three texts. -/
inductive DecimalStyle
  | fixed
  | scientific
  | general
deriving DecidableEq, Repr

/-- The text of a number, its sign apart. -/
def decimalText (style : DecimalStyle) (point : Bool) (digits : Nat) : Binary64 → List Char
  | nan => ['n', 'a', 'n']
  | infinite _ => ['i', 'n', 'f']
  | finite _ m e =>
    let (num, den) := ratio m e
    match style with
    | .fixed => fixedText point digits num den
    | .scientific => scientificText point digits num den
    | .general => generalText point digits num den

end Binary64

end RouteAccess
