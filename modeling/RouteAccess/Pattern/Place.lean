/-
RouteAccess/Pattern/Place.lean

Places in a text: what stands before, and what follows.  The places of a text
are kept in a row, each with a mark or without; and a step through the text is
given by what it does to the marks, from the end back: it marks the places from
which it can lead to a marked one.  So all choices are followed at once, and
each step takes one walk along the row.

A row shows a property of places if it marks those that have it.  Every
operation turns a row that shows a property into one that shows another:

    row shows G  →  row.one p shows "a character of p leads to G"

and so on for the others (`Shows.one`, `Shows.many`, `Shows.keep`,
`Shows.either`).
-/

namespace RouteAccess

/-- A place in a text: the character before it, if there is one, and the
characters that follow. -/
structure Place where
  before : Option Char
  after : List Char
deriving DecidableEq, Repr

namespace Place

/-- Whether the next character belongs to a class. -/
def isNext (p : Char → Bool) (x : Place) : Bool :=
  match x.after with
  | [] => false
  | c :: _ => p c

/-- From the first place over any number of characters of a class to the
second one. -/
inductive Over (p : Char → Bool) : Place → Place → Prop
  | stay (x : Place) : Over p x x
  | next {b : Option Char} {c : Char} {rest : List Char} {y : Place} :
      p c = true → Over p ⟨some c, rest⟩ y → Over p ⟨b, c :: rest⟩ y

end Place

/-! ### Rows -/

/-- The places of a text from left to right, each with a mark or without. -/
abbrev Row := List (Place × Bool)

namespace Row

/-- The places of a text that follows a character, the last of them marked. -/
def atEnd (before : Option Char) : List Char → Row
  | [] => [(⟨before, []⟩, true)]
  | c :: rest => (⟨before, c :: rest⟩, false) :: atEnd (some c) rest

/-- Whether the first place is marked. -/
def first : Row → Bool
  | [] => false
  | (_, b) :: _ => b

/-- The places before one character of a class that leads to a marked place. -/
def one (p : Char → Bool) : Row → Row
  | [] => []
  | (x, _) :: rest => (x, x.isNext p && first rest) :: one p rest

/-- The places before any number of characters of a class that lead to a marked
place. -/
def many (p : Char → Bool) : Row → Row
  | [] => []
  | (x, b) :: rest =>
    let rest := many p rest
    (x, b || (x.isNext p && first rest)) :: rest

/-- The places that are marked in one of two rows. -/
def either : Row → Row → Row
  | (x, a) :: m, (_, b) :: n => (x, a || b) :: either m n
  | _, _ => []

/-- The marked places that satisfy a condition. -/
def keep (q : Place → Bool) : Row → Row
  | [] => []
  | (x, b) :: rest => (x, b && q x) :: keep q rest

/-- The places before at least one character of a class. -/
def atLeastOne (p : Char → Bool) (m : Row) : Row :=
  one p (many p m)

/-- The places before one character of a class or none. -/
def optional (p : Char → Bool) (m : Row) : Row :=
  either m (one p m)

/-- The places before one character of each class, in order. -/
def each (ps : List (Char → Bool)) (m : Row) : Row :=
  ps.foldr one m

/-! ### What rows show -/

/-- A row of the places of a text marks those that have a property. -/
inductive Shows (G : Place → Prop) : Option Char → List Char → Row → Prop
  | stop {before : Option Char} {b : Bool} :
      (b = true ↔ G ⟨before, []⟩) → Shows G before [] [(⟨before, []⟩, b)]
  | step {before : Option Char} {c : Char} {rest : List Char} {b : Bool} {m : Row} :
      (b = true ↔ G ⟨before, c :: rest⟩) → Shows G (some c) rest m →
        Shows G before (c :: rest) ((⟨before, c :: rest⟩, b) :: m)

theorem shows_atEnd (before : Option Char) (cs : List Char) :
    Shows (fun x => x.after = []) before cs (atEnd before cs) := by
  induction cs generalizing before with
  | nil => exact .stop (by simp)
  | cons c rest ih => exact .step (by simp) (ih (some c))

variable {G H : Place → Prop} {before : Option Char} {cs : List Char} {m n : Row}

/-- The first mark of a row tells whether the first place has the property. -/
theorem Shows.first_iff (h : Shows G before cs m) : first m = true ↔ G ⟨before, cs⟩ := by
  cases h with
  | stop hb => exact hb
  | step hb _ => exact hb

theorem Shows.one (h : Shows G before cs m) (p : Char → Bool) :
    Shows (fun x => ∃ c rest, x.after = c :: rest ∧ p c = true ∧ G ⟨some c, rest⟩)
      before cs (one p m) := by
  induction h with
  | stop _ => exact .stop (by simp [Place.isNext, first])
  | step _ hrest ih =>
    refine .step ?_ ih
    simp only [Place.isNext, Bool.and_eq_true, hrest.first_iff]
    constructor
    · exact fun ⟨hc, hg⟩ => ⟨_, _, rfl, hc, hg⟩
    · rintro ⟨_, _, heq, hc, hg⟩
      cases heq
      exact ⟨hc, hg⟩

theorem Shows.many (h : Shows G before cs m) (p : Char → Bool) :
    Shows (fun x => ∃ y, Place.Over p x y ∧ G y) before cs (many p m) := by
  induction h with
  | stop hb =>
    refine .stop ?_
    simp only [Place.isNext, Bool.false_and, Bool.or_false, hb]
    constructor
    · exact fun hg => ⟨_, .stay _, hg⟩
    · rintro ⟨y, hy, hg⟩
      cases hy
      exact hg
  | step hb _ ih =>
    refine .step ?_ ih
    simp only [Place.isNext, Bool.or_eq_true, Bool.and_eq_true, hb, ih.first_iff]
    constructor
    · rintro (hg | ⟨hc, y, hy, hg⟩)
      · exact ⟨_, .stay _, hg⟩
      · exact ⟨y, .next hc hy, hg⟩
    · rintro ⟨y, hy, hg⟩
      cases hy with
      | stay => exact .inl hg
      | next hc hy => exact .inr ⟨hc, y, hy, hg⟩

theorem Shows.either (h : Shows G before cs m) (k : Shows H before cs n) :
    Shows (fun x => G x ∨ H x) before cs (either m n) := by
  induction h generalizing n with
  | stop hb =>
    cases k with
    | stop kb => exact .stop (by simp [hb, kb])
  | step hb _ ih =>
    cases k with
    | step kb krest => exact .step (by simp [hb, kb]) (ih krest)

theorem Shows.keep (h : Shows G before cs m) (q : Place → Bool) :
    Shows (fun x => G x ∧ q x = true) before cs (keep q m) := by
  induction h with
  | stop hb => exact .stop (by simp [hb])
  | step hb _ ih => exact .step (by simp [hb]) ih

end Row

end RouteAccess
