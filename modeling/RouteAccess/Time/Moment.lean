/-
RouteAccess/Time/Moment.lean

Moments: what a clock on the wall shows, with or without its distance from
universal time.  They are read from texts such as `2030-01-01T00:00:00+05:30`,
from plain dates, and from numbers of seconds or milliseconds since 1970; and
they are written in the one form that reads back as the same moment.
-/
import RouteAccess.Number.Binary64
import RouteAccess.Text.CharClass
import RouteAccess.Time.Calendar

namespace RouteAccess

/-- What a clock shows, in microseconds since the start of 1970, and how many
seconds it is ahead of universal time, if that is known. -/
structure Moment where
  wall : Int
  ahead : Option Int
deriving DecidableEq, Repr

namespace Moment

/-- Microseconds in a second. -/
def perSecond : Nat := 1000000

/-- Seconds in a day. -/
def perDay : Nat := 86400

/-! ### Instants -/

/-- The instant of a moment, in microseconds.  Where the distance from universal
time is unknown this is what the clock shows, so that two such moments compare by
their clocks. -/
def instant (m : Moment) : Int :=
  m.wall - m.ahead.getD 0 * perSecond

/-- An instant on a clock that shows universal time. -/
def universal (instant : Int) : Moment :=
  ⟨instant, some 0⟩

/-- The last full second that has begun. -/
def second (instant : Int) : Int :=
  instant / perSecond

/-- A date and a time of day as microseconds. -/
def wallOf (d : Date) (seconds micros : Nat) : Int :=
  (((d.number : Int) - Date.epoch) * perDay + seconds) * perSecond + micros

/-! ### Parts of a text -/

/-- The value of one digit. -/
def digit? (c : Char) : Option Nat :=
  if Text.isDigit c then some (c.toNat - '0'.toNat) else none

/-- Two digits. -/
def two? (a b : Char) : Option Nat := do
  return (← digit? a) * 10 + (← digit? b)

/-- A date at the start of a text. -/
def date? : List Char → Option (Date × List Char)
  | y₁ :: y₂ :: y₃ :: y₄ :: '-' :: m₁ :: m₂ :: '-' :: d₁ :: d₂ :: rest => do
    let century ← two? y₁ y₂
    let year ← two? y₃ y₄
    let month ← two? m₁ m₂
    let day ← two? d₁ d₂
    let date : Date := ⟨century * 100 + year, month, day⟩
    if date.exists? then some (date, rest) else none
  | _ => none

/-- Microseconds from the digits after a point; further digits do not count. -/
def micros (digits : List Char) : Nat :=
  ((digits ++ List.replicate 6 '0').take 6).foldl (fun n c => n * 10 + (c.toNat - '0'.toNat)) 0

/-- Seconds and microseconds at the start of a text, after their colon. -/
def seconds? : List Char → Option (Nat × Nat × List Char)
  | s₁ :: s₂ :: rest => do
    let s ← two? s₁ s₂
    if 59 < s then none
    else match rest with
      | c :: rest =>
        if c = '.' || c = ',' then
          let digits := rest.takeWhile Text.isDigit
          if digits = [] then none
          else some (s, micros digits, rest.drop digits.length)
        else some (s, 0, c :: rest)
      | [] => some (s, 0, [])
  | _ => none

/-- A time of day at the start of a text, in seconds and microseconds. -/
def time? : List Char → Option (Nat × Nat × List Char)
  | h₁ :: h₂ :: ':' :: m₁ :: m₂ :: rest => do
    let h ← two? h₁ h₂
    let m ← two? m₁ m₂
    if 23 < h || 59 < m then none
    else match rest with
      | ':' :: rest =>
        let (s, micros, rest) ← seconds? rest
        return ((h * 60 + m) * 60 + s, micros, rest)
      | rest => some ((h * 60 + m) * 60, 0, rest)
  | _ => none

/-- Hours and minutes of a distance, with or without a colon. -/
def distance? : List Char → Option Nat
  | [h₁, h₂, ':', m₁, m₂] => do
    let h ← two? h₁ h₂
    let m ← two? m₁ m₂
    if 59 < m || 23 < h then none else some ((h * 60 + m) * 60)
  | [h₁, h₂, m₁, m₂] => do
    let h ← two? h₁ h₂
    let m ← two? m₁ m₂
    if 59 < m || 23 < h then none else some ((h * 60 + m) * 60)
  | _ => none

/-- The distance from universal time that a text ends with. -/
def ahead? : List Char → Option (Option Int)
  | [] => some none
  | ['Z'] => some (some 0)
  | ['z'] => some (some 0)
  | '+' :: rest => (distance? rest).map fun (n : Nat) => some (n : Int)
  | '-' :: rest => (distance? rest).map fun (n : Nat) => some (-(n : Int))
  | '−' :: rest => (distance? rest).map fun (n : Nat) => some (-(n : Int))
  | _ => none

/-- Whether a character may stand between a date and a time of day. -/
def isSeparator (c : Char) : Bool :=
  c = 'T' || c = 't' || c = ' ' || c = '_'

/-- A date alone, or with a time of day. -/
def written? (cs : List Char) : Option (Date × Nat × Nat × Option Int) := do
  let (date, rest) ← date? cs
  match rest with
  | [] => return (date, 0, 0, none)
  | c :: rest =>
    if isSeparator c then
      let (s, micros, rest) ← time? rest
      let ahead ← ahead? rest
      return (date, s, micros, ahead)
    else none

/-! ### Numbers since 1970

A number is a count of seconds, or of milliseconds if it is great.  What a count
reaches are the years from 0 on, though no date is of year 0. -/

/-- Numbers of a greater size are milliseconds. -/
def millisecondsAbove : Nat := 20000000000

/-- The first second of the year 0. -/
def firstSecond : Int := -62167219200

/-- The first second of the year 1. -/
def firstDated : Int := -62135596800

/-- The last second of the year 9999. -/
def lastSecond : Int := 253402300799

/-- The moment of so many microseconds, if it is between the first second and
the last one. -/
def ofMicros? (total : Int) : Option Moment :=
  if firstSecond ≤ second total ∧ second total ≤ lastSecond then some (universal total) else none

/-- The microseconds in what a number counts, seconds or milliseconds. -/
def unit (great : Bool) : Nat :=
  if great then 1000 else perSecond

/-- The moment of a whole number. -/
def ofCount? (count : Int) : Option Moment :=
  ofMicros? (count * unit (millisecondsAbove < count.natAbs))

/-- The moment of a number: as much as is whole of it, and the rest in whole
microseconds. -/
def ofNumber? (number : Binary64) : Option Moment := do
  let unit := unit (Binary64.less (.ofInt millisecondsAbove) number.abs)
  let count ← number.floor?
  let micros ← ((number - Binary64.ofInt count) * Binary64.ofInt unit).round?
  ofMicros? (count * unit + micros)

/-- The number with a point that a text is, added up place by place. -/
def places (value : Binary64) : (power : Nat) → List Char → Option Binary64
  | _, [] => some value
  | power, c :: rest => do
    let d ← digit? c
    places (value + (Binary64.ofInt d).divNat power) (power * 10) rest

/-- The moment of a text that is a number since 1970.  Digits may be missing on
either side of a point, but not on both. -/
def counted? (cs : List Char) : Option Moment := do
  let (negative, cs) := match cs with
    | '-' :: rest => (true, rest)
    | '+' :: rest => (false, rest)
    | cs => (false, cs)
  let whole := cs.takeWhile Text.isDigit
  let n : Nat := whole.foldl (fun n c => n * 10 + (c.toNat - '0'.toNat)) 0
  -- a number this long is not read as one
  if Nat.pow 2 63 ≤ n then none
  else match cs.drop whole.length with
    | [] => if whole = [] then none else ofCount? (if negative then -(n : Int) else n)
    | '.' :: rest =>
      if whole = [] ∧ rest = [] then none
      else
        let number ← places (Binary64.ofInt n) 10 rest
        ofNumber? (if negative then number.negate else number)
    | _ => none

/-! ### Reading -/

/-- Why something is no moment. -/
inductive Fault
  /-- a value of another kind -/
  | kind
  /-- a number or a date that no calendar here reaches -/
  | range
  /-- a text of no known form -/
  | text
deriving DecidableEq, Repr

/-- Whether a moment has a date. -/
def hasDate (m : Moment) : Bool :=
  firstDated ≤ second m.wall && second m.wall ≤ lastSecond

/-- A moment, unless no date is so early. -/
def dated (m : Moment) : Except Fault Moment :=
  if second m.wall < firstDated then .error .range else .ok m

/-- The moment that a text is. -/
def ofText (s : String) : Except Fault Moment :=
  match written? s.toList with
  | some (date, s, micros, ahead) =>
    if date.year = 0 then .error .range else .ok ⟨wallOf date s micros, ahead⟩
  | none =>
    match counted? s.toList with
    | some m => dated m
    | none => .error .text

/-- The moment that a whole number since 1970 is. -/
def ofInt (n : Int) : Except Fault Moment :=
  if n < -(Nat.pow 2 63) ∨ Nat.pow 2 63 ≤ n then .error .kind
  else match ofCount? n with
    | some m => dated m
    | none => .error .range

/-- The moment that a number since 1970 is. -/
def ofFloat (x : Binary64) : Except Fault Moment :=
  match ofNumber? x with
  | some m => dated m
  | none => .error .range

/-! ### Writing -/

/-- A number with zeros before it. -/
def padded (width n : Nat) : List Char :=
  let digits := Nat.toDigits 10 n
  List.replicate (width - digits.length) '0' ++ digits

/-- A distance from universal time. -/
def aheadText (n : Int) : List Char :=
  let minutes := n.natAbs / 60
  (if n < 0 then '-' else '+') :: padded 2 (minutes / 60) ++ ':' :: padded 2 (minutes % 60)

/-- The text of a moment; microseconds and the distance from universal time
are written if there are any. -/
def text (m : Moment) : String :=
  let seconds := m.wall / perSecond
  let micros := (m.wall % perSecond).toNat
  let date := Date.ofNumber (seconds / perDay + Date.epoch).toNat
  let s := (seconds % perDay).toNat
  String.ofList <|
    padded 4 date.year ++ '-' :: padded 2 date.month ++ '-' :: padded 2 date.day ++
      'T' :: padded 2 (s / 3600) ++ ':' :: padded 2 (s / 60 % 60) ++ ':' :: padded 2 (s % 60) ++
      (if micros = 0 then [] else '.' :: padded 6 micros) ++
      (match m.ahead with
        | none => []
        | some n => aheadText n)

end Moment

end RouteAccess
