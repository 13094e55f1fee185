/-
RouteAccess/Metrics/Tally.lean

Tallies: how often something happened, apart for each row of label values.  A
row stands in the tally from its first use on, in the order of first uses; a
row that was never used counts zero.  One more of a row raises the count of
that row by one, the counts of all others by nothing (`count_add`), and the
total by one (`total_add`).
-/

namespace RouteAccess

/-- Counts, each of a row of label values. -/
structure Tally where
  rows : List (List String × Nat) := []
deriving DecidableEq, Repr

namespace Tally

/-- The rows with `n` more of one of them. -/
def raise (row : List String) (n : Nat) : List (List String × Nat) → List (List String × Nat)
  | [] => [(row, n)]
  | (r, k) :: rest => if r = row then (r, k + n) :: rest else (r, k) :: raise row n rest

/-- The tally with one more of a row. -/
def add (t : Tally) (row : List String) : Tally :=
  ⟨raise row 1 t.rows⟩

/-- The tally with a row in it, which counts as before. -/
def mention (t : Tally) (row : List String) : Tally :=
  ⟨raise row 0 t.rows⟩

/-- The count in rows of one of them. -/
def countIn (row : List String) : List (List String × Nat) → Nat
  | [] => 0
  | (r, k) :: rest => if r = row then k else countIn row rest

/-- The count of a row. -/
def count (t : Tally) (row : List String) : Nat :=
  countIn row t.rows

/-- The sum of all counts. -/
def total (t : Tally) : Nat :=
  (t.rows.map (·.2)).foldr (· + ·) 0

/-! ### Counts after a change -/

theorem countIn_raise (row row' : List String) (n : Nat) (rows : List (List String × Nat)) :
    countIn row' (raise row n rows) = countIn row' rows + if row = row' then n else 0 := by
  induction rows with
  | nil => by_cases h : row = row' <;> simp [raise, countIn, h]
  | cons p rest ih =>
    obtain ⟨r, k⟩ := p
    by_cases hr : r = row
    · by_cases h : row = row' <;> simp [raise, countIn, hr, h]
    · by_cases h' : r = row'
      · subst h'
        simp [raise, countIn, hr, Ne.symm hr]
      · simp [raise, countIn, hr, h', ih]

theorem sum_raise (row : List String) (n : Nat) (rows : List (List String × Nat)) :
    ((raise row n rows).map (·.2)).foldr (· + ·) 0 = (rows.map (·.2)).foldr (· + ·) 0 + n := by
  induction rows with
  | nil => simp [raise]
  | cons p rest ih =>
    obtain ⟨r, k⟩ := p
    by_cases hr : r = row
    · simp [raise, hr]; omega
    · simp [raise, hr, ih]; omega

theorem count_add (t : Tally) (row row' : List String) :
    (t.add row).count row' = t.count row' + if row = row' then 1 else 0 :=
  countIn_raise row row' 1 t.rows

theorem total_add (t : Tally) (row : List String) : (t.add row).total = t.total + 1 :=
  sum_raise row 1 t.rows

end Tally

end RouteAccess
