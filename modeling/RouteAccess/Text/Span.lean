/-
RouteAccess/Text/Span.lean

Sets and maps of character codes as ascending tables.

* A `Span` stands for the codes from `first` to `last`; a set is an ascending
  list of them.
* A `CaseRun` stands for the codes `first, first + step, …, last`, which move
  by one fixed distance, so that `first` goes to `target`.

Both searches stop at the first entry that starts beyond the code.
-/

namespace RouteAccess

/-! ### Sets of codes -/

/-- The codes from `first` to `last`, both included. -/
structure Span where
  first : Nat
  last : Nat
deriving DecidableEq, Repr

/-- Whether an ascending list of spans holds the code `n`. -/
def Span.holds : List Span → Nat → Bool
  | [], _ => false
  | s :: rest, n =>
    if n < s.first then false
    else if n ≤ s.last then true
    else Span.holds rest n

/-- The offset of `n` in the span that holds it. -/
def Span.offset? : List Span → Nat → Option Nat
  | [], _ => none
  | s :: rest, n =>
    if n < s.first then none
    else if n ≤ s.last then some (n - s.first)
    else Span.offset? rest n

/-! ### Maps of codes -/

/-- The codes `first, first + step, …, last`, moved so that `first` goes to
`target`. -/
structure CaseRun where
  first : Nat
  last : Nat
  step : Nat
  target : Nat
deriving DecidableEq, Repr

/-- The image of `n` under an ascending list of runs, if one of them moves it. -/
def CaseRun.image? : List CaseRun → Nat → Option Nat
  | [], _ => none
  | r :: rest, n =>
    if n < r.first then none
    else if n ≤ r.last ∧ (n - r.first) % r.step = 0 then some (r.target + (n - r.first))
    else CaseRun.image? rest n

end RouteAccess
