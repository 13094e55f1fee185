/-
RouteAccess/Time/Calendar.lean

Dates of the Gregorian calendar, carried back to the year 1, and the number of
days from one to another.
-/

namespace RouteAccess

/-- A date. -/
structure Date where
  year : Nat
  month : Nat
  day : Nat
deriving DecidableEq, Repr

namespace Date

/-- Whether a year has a leap day. -/
def isLeap (year : Nat) : Bool :=
  year % 4 == 0 && (year % 100 != 0 || year % 400 == 0)

/-- How many days a month has. -/
def daysIn (year month : Nat) : Nat :=
  match month with
  | 2 => if isLeap year then 29 else 28
  | 4 => 30
  | 6 => 30
  | 9 => 30
  | 11 => 30
  | _ => 31

/-- Whether the month exists and has the day. -/
def exists? (d : Date) : Bool :=
  1 ≤ d.month && d.month ≤ 12 && 1 ≤ d.day && d.day ≤ daysIn d.year d.month

/-- How many days there are in the years before a year, from the year 1 on. -/
def daysBeforeYear (year : Nat) : Nat :=
  let y := year - 1
  y * 365 + y / 4 - y / 100 + y / 400

/-- How many days of a year there are before a month. -/
def daysBeforeMonth (year month : Nat) : Nat :=
  ((List.range (month - 1)).map fun m => daysIn year (m + 1)).foldr (· + ·) 0

/-- The number of a date, the first day of the year 1 having number 0. -/
def number (d : Date) : Nat :=
  daysBeforeYear d.year + daysBeforeMonth d.year d.month + (d.day - 1)

/-- The number of the first of January 1970. -/
def epoch : Nat := 719162

/-- The month and the day after `left` days of a year, from a month on. -/
def monthFrom (year : Nat) : (steps month left : Nat) → Nat × Nat
  | 0, month, left => (month, left + 1)
  | steps + 1, month, left =>
    if left < daysIn year month then (month, left + 1)
    else monthFrom year steps (month + 1) (left - daysIn year month)

/-- The date of a number. -/
def ofNumber (n : Nat) : Date :=
  let (n400, n) := (n / 146097, n % 146097)
  let n100 := min (n / 36524) 3
  let n := n - n100 * 36524
  let (n4, n) := (n / 1461, n % 1461)
  let n1 := min (n / 365) 3
  let n := n - n1 * 365
  let year := n400 * 400 + n100 * 100 + n4 * 4 + n1 + 1
  let (month, day) := monthFrom year 11 1 n
  ⟨year, month, day⟩

end Date

end RouteAccess
