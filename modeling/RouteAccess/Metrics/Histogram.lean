/-
RouteAccess/Metrics/Histogram.lean

Histograms of durations: how many of them fell between one bound and the next,
and their sum.  Bounds are reported with the number of durations up to them, so
the count at a bound includes those at all lower ones.
-/
import RouteAccess.Number.Binary64

namespace RouteAccess

/-- Durations by the bucket they fell into, and their sum. -/
structure Histogram where
  counts : List Nat
  sum : Binary64

namespace Histogram

/-- The bounds in seconds, as decimals `(digits, exponent)`; after the last one
comes infinity. -/
def decimals : List (Nat × Int) :=
  [(5, -3), (10, -3), (25, -3), (50, -3), (75, -3), (1, -1), (25, -2), (5, -1), (75, -2), (1, 0),
    (25, -1), (5, 0), (75, -1), (10, 0)]

/-- The upper bounds of the buckets, ascending. -/
def bounds : List Binary64 :=
  decimals.map (fun d => Binary64.ofDecimal false d.1 d.2) ++ [.infinite false]

/-- The histogram of no durations. -/
def empty : Histogram :=
  ⟨bounds.map fun _ => 0, .zero⟩

/-- The counts with one more in the first bucket whose bound a duration does not
exceed. -/
def fill (x : Binary64) : List Binary64 → List Nat → List Nat
  | bound :: bounds, n :: counts =>
    if x.atMost bound then (n + 1) :: counts else n :: fill x bounds counts
  | _, counts => counts

/-- The histogram with one more duration. -/
def observe (h : Histogram) (x : Binary64) : Histogram :=
  ⟨fill x bounds h.counts, h.sum + x⟩

/-- How many durations there are. -/
def count (h : Histogram) : Nat :=
  h.counts.foldr (· + ·) 0

/-- Each count with those before it added to it. -/
def runningFrom (n : Nat) : List Nat → List Nat
  | [] => []
  | k :: rest => (n + k) :: runningFrom (n + k) rest

/-- Each bound with the number of durations up to it. -/
def upTo (h : Histogram) : List (Binary64 × Nat) :=
  bounds.zip (runningFrom 0 h.counts)

end Histogram

/-! ### Histograms apart for label values -/

/-- Histograms, each of a row of label values. -/
structure HistogramTable where
  rows : List (List String × Histogram) := []

namespace HistogramTable

/-- The rows with one more duration in one of them. -/
def observeIn (row : List String) (x : Binary64) :
    List (List String × Histogram) → List (List String × Histogram)
  | [] => [(row, Histogram.empty.observe x)]
  | (r, h) :: rest =>
    if r = row then (r, h.observe x) :: rest else (r, h) :: observeIn row x rest

/-- The table with one more duration in a row. -/
def observe (t : HistogramTable) (row : List String) (x : Binary64) : HistogramTable :=
  ⟨observeIn row x t.rows⟩

end HistogramTable

end RouteAccess
