/-
RouteAccess/Number/Binary64.lean

Binary floating-point numbers of 64 bits, as exact values: a finite number is
`± mantissa · 2 ^ exponent`.  Every operation is exact arithmetic on integers
followed by one rounding to the nearest number, a tie going to the even
mantissa (`ofRatio`).

A finite number is kept in the form that `ofRatio` gives it: zero has exponent
`0`; else the mantissa has 53 bits, or fewer at the lowest exponent.
-/

namespace RouteAccess

/-- A floating-point number. -/
inductive Binary64
  | finite (negative : Bool) (mantissa : Nat) (exponent : Int)
  | infinite (negative : Bool)
  | nan
deriving DecidableEq, Repr

namespace Binary64

/-- The exponent of the smallest positive number. -/
def lowestExponent : Int := -1074

/-- The exponent of the largest finite number. -/
def highestExponent : Int := 971

/-- Zero. -/
def zero : Binary64 := finite false 0 0

instance : Inhabited Binary64 := ⟨zero⟩

/-! ### Rounding -/

/-- The nearest integer to `num / den`, a tie going to the even one. -/
def roundHalfEven (num den : Nat) : Nat :=
  let q := num / den
  let r := 2 * (num % den)
  if r < den then q
  else if den < r then q + 1
  else q + q % 2

/-- The pair `(num', den')` with `num' / den' = (num / den) · 2 ^ (-e)`. -/
def unscale (num den : Nat) (e : Int) : Nat × Nat :=
  match e with
  | .ofNat k => (num, den * Nat.pow 2 k)
  | .negSucc k => (num * Nat.pow 2 (k + 1), den)

/-- The greatest `e` with `2 ^ e ≤ num / den`, for positive `num` and `den`. -/
def floorLog2 (num den : Nat) : Int :=
  let e : Int := (Nat.log2 num : Int) - Nat.log2 den
  let (n, d) := unscale num den e
  if d ≤ n then e else e - 1

/-- The number nearest to `± num / den`. -/
def ofRatio (negative : Bool) (num den : Nat) : Binary64 :=
  if num = 0 then finite negative 0 0
  else
    let e := max (floorLog2 num den - 52) lowestExponent
    let (n, d) := unscale num den e
    let m := roundHalfEven n d
    let (m, e) := if m = Nat.pow 2 53 then (Nat.pow 2 52, e + 1) else (m, e)
    if m = 0 then finite negative 0 0
    else if highestExponent < e then infinite negative
    else finite negative m e

/-- The number nearest to an integer. -/
def ofInt (n : Int) : Binary64 :=
  ofRatio (n < 0) n.natAbs 1

/-- The number nearest to `± digits · 10 ^ exponent`.  Far outside the range of
finite numbers the power is not computed. -/
def ofDecimal (negative : Bool) (digits : Nat) (exponent : Int) : Binary64 :=
  if digits = 0 then finite negative 0 0
  else if 400 < exponent then infinite negative
  else
    match exponent with
    | .ofNat k => ofRatio negative (digits * Nat.pow 10 k) 1
    | .negSucc k =>
      if Nat.log2 digits + 1200 < 3 * (k + 1) then finite negative 0 0
      else ofRatio negative digits (Nat.pow 10 (k + 1))

/-! ### Parts and comparison -/

/-- Whether the sign is negative. -/
def isNegative : Binary64 → Bool
  | finite s _ _ => s
  | infinite s => s
  | nan => false

/-- Whether the number is zero, of either sign. -/
def isZero : Binary64 → Bool
  | finite _ m _ => m == 0
  | _ => false

/-- The number with its sign turned. -/
def negate : Binary64 → Binary64
  | finite s m e => finite (!s) m e
  | infinite s => infinite (!s)
  | nan => nan

/-- The number without its sign. -/
def abs : Binary64 → Binary64
  | finite _ m e => finite false m e
  | infinite _ => infinite false
  | nan => nan

/-- `± mantissa` with the sign applied. -/
def signed (negative : Bool) (m : Nat) : Int :=
  if negative then -(m : Int) else m

/-- The two mantissas, signed, at the lower of the two exponents. -/
def aligned (s₁ : Bool) (m₁ : Nat) (e₁ : Int) (s₂ : Bool) (m₂ : Nat) (e₂ : Int) : Int × Int × Int :=
  let e := min e₁ e₂
  (signed s₁ m₁ * Nat.pow 2 (e₁ - e).toNat, signed s₂ m₂ * Nat.pow 2 (e₂ - e).toNat, e)

/-- Whether the first number is below the second; `nan` is below nothing. -/
def less : Binary64 → Binary64 → Bool
  | nan, _ => false
  | _, nan => false
  | infinite s, infinite t => s && !t
  | infinite s, finite _ _ _ => s
  | finite _ _ _, infinite t => !t
  | finite s₁ m₁ e₁, finite s₂ m₂ e₂ =>
    let (a, b, _) := aligned s₁ m₁ e₁ s₂ m₂ e₂
    a < b

/-- Whether the first number is at most the second; `nan` is at most nothing. -/
def atMost : Binary64 → Binary64 → Bool
  | nan, _ => false
  | _, nan => false
  | a, b => !less b a

/-- The integer part, towards zero; only finite numbers have one. -/
def truncate? : Binary64 → Option Int
  | finite s m e =>
    match e with
    | .ofNat k => some (signed s (m * Nat.pow 2 k))
    | .negSucc k => some (signed s (m / Nat.pow 2 (k + 1)))
  | _ => none

/-- The fraction `(num, den)` that a finite number is, its sign apart. -/
def ratio (m : Nat) (e : Int) : Nat × Nat :=
  match e with
  | .ofNat k => (m * Nat.pow 2 k, 1)
  | .negSucc k => (m, Nat.pow 2 (k + 1))

/-! ### Arithmetic -/

/-- The sum, rounded once. -/
def add : Binary64 → Binary64 → Binary64
  | nan, _ => nan
  | _, nan => nan
  | infinite s, infinite t => if s = t then infinite s else nan
  | infinite s, finite _ _ _ => infinite s
  | finite _ _ _, infinite t => infinite t
  | finite s₁ m₁ e₁, finite s₂ m₂ e₂ =>
    let (a, b, e) := aligned s₁ m₁ e₁ s₂ m₂ e₂
    let sum := a + b
    -- a sum of zero is negative only if both are
    if sum = 0 then finite (s₁ && s₂) 0 0
    else
      match e with
      | .ofNat k => ofRatio (sum < 0) (sum.natAbs * Nat.pow 2 k) 1
      | .negSucc k => ofRatio (sum < 0) sum.natAbs (Nat.pow 2 (k + 1))

instance : Add Binary64 := ⟨add⟩

/-- The difference, rounded once. -/
def sub (a b : Binary64) : Binary64 :=
  add a b.negate

instance : Sub Binary64 := ⟨sub⟩

/-- The product, rounded once. -/
def mul : Binary64 → Binary64 → Binary64
  | finite s₁ m₁ e₁, finite s₂ m₂ e₂ =>
    let (n₁, d₁) := ratio m₁ e₁
    let (n₂, d₂) := ratio m₂ e₂
    ofRatio (s₁ != s₂) (n₁ * n₂) (d₁ * d₂)
  | nan, _ => nan
  | _, nan => nan
  | a, b => if a.isZero || b.isZero then nan else infinite (a.isNegative != b.isNegative)

instance : Mul Binary64 := ⟨mul⟩

/-- The quotient by a positive integer, rounded once. -/
def divNat : Binary64 → Nat → Binary64
  | finite s m e, k =>
    let (n, d) := ratio m e
    ofRatio s n (d * k)
  | x, _ => x

/-- The greatest integer that is not above a finite number. -/
def floor? : Binary64 → Option Int
  | finite s m e =>
    match e with
    | .ofNat k => some (signed s (m * Nat.pow 2 k))
    | .negSucc k => some (signed s m / (Nat.pow 2 (k + 1) : Nat))
  | _ => none

/-- The nearest integer to a finite number, a half going away from zero. -/
def round? : Binary64 → Option Int
  | finite s m e =>
    match e with
    | .ofNat k => some (signed s (m * Nat.pow 2 k))
    | .negSucc k => some (signed s ((2 * m + Nat.pow 2 (k + 1)) / Nat.pow 2 (k + 2)))
  | _ => none

/-- The part of a finite number after the point, without its sign. -/
def fraction : Binary64 → Binary64
  | finite _ m e =>
    match e with
    | .ofNat _ => zero
    | .negSucc k => ofRatio false (m % Nat.pow 2 (k + 1)) (Nat.pow 2 (k + 1))
  | _ => zero

end Binary64

end RouteAccess
