/-
RouteAccess/Text/Blank.lean

Blank characters, and the ways of cutting a text that depend on them: trimming,
cutting at every separator, and reading off the words between blanks.

Cutting at separators loses nothing but the separators themselves, and a text
without one is a single piece (`cutAt_append_cons`, `cutAt_eq_singleton`).
-/
import RouteAccess.Text.Span

namespace RouteAccess

namespace Text

/-! ### Blanks -/

/-- The blank characters: tabs, line ends, the four information separators and
the spaces of all widths. -/
def blanks : List Span :=
  [⟨0x09, 0x0D⟩, ⟨0x1C, 0x20⟩, ⟨0x85, 0x85⟩, ⟨0xA0, 0xA0⟩, ⟨0x1680, 0x1680⟩, ⟨0x2000, 0x200A⟩,
   ⟨0x2028, 0x2029⟩, ⟨0x202F, 0x202F⟩, ⟨0x205F, 0x205F⟩, ⟨0x3000, 0x3000⟩]

/-- Whether a character is blank. -/
def isBlank (c : Char) : Bool :=
  Span.holds blanks c.toNat

/-- The text without the blanks at its start. -/
def trimStart (cs : List Char) : List Char :=
  cs.dropWhile isBlank

/-- The text without the blanks at its end. -/
def trimEnd (cs : List Char) : List Char :=
  (cs.reverse.dropWhile isBlank).reverse

/-- The text without the blanks at both of its ends. -/
def trimChars (cs : List Char) : List Char :=
  trimEnd (trimStart cs)

/-- The text without the blanks at both of its ends. -/
def trim (s : String) : String :=
  String.ofList (trimChars s.toList)

/-! ### Cutting -/

/-- The pieces between the characters that satisfy `p`, empty ones included. -/
def cutAt (p : Char → Bool) : List Char → List (List Char)
  | [] => [[]]
  | c :: rest =>
    if p c then [] :: cutAt p rest
    else match cutAt p rest with
      | [] => [[c]]
      | piece :: pieces => (c :: piece) :: pieces

/-- The longest runs of characters that are not blank. -/
def wordsChars (cs : List Char) : List (List Char) :=
  (cutAt isBlank cs).filter (· ≠ [])

/-- The words of a text: its longest runs of characters that are not blank. -/
def words (s : String) : List String :=
  (wordsChars s.toList).map String.ofList

/-- The pieces between the occurrences of one separator, empty ones included. -/
def fields (separator : Char) (s : String) : List String :=
  (cutAt (· == separator) s.toList).map String.ofList

/-! ### Laws of cutting -/

theorem cutAt_ne_nil (p : Char → Bool) (cs : List Char) : cutAt p cs ≠ [] := by
  induction cs with
  | nil => simp [cutAt]
  | cons c rest ih =>
    by_cases h : p c
    · simp [cutAt, h]
    · cases hr : cutAt p rest with
      | nil => exact absurd hr ih
      | cons piece pieces => simp [cutAt, h, hr]

/-- A text without a separator is its own single piece. -/
theorem cutAt_eq_singleton {p : Char → Bool} {cs : List Char} (h : ∀ c ∈ cs, p c = false) :
    cutAt p cs = [cs] := by
  induction cs with
  | nil => rfl
  | cons c rest ih =>
    have hr := ih fun d hd => h d (List.mem_cons_of_mem c hd)
    simp [cutAt, h c List.mem_cons_self, hr]

/-- A separator cuts a text into the pieces of what stands before it and of
what stands after it. -/
theorem cutAt_append_cons {p : Char → Bool} {c : Char} (h : p c = true) (a b : List Char) :
    cutAt p (a ++ c :: b) = cutAt p a ++ cutAt p b := by
  induction a with
  | nil => simp [cutAt, h]
  | cons d rest ih =>
    by_cases hd : p d
    · simp [cutAt, hd, ih]
    · cases hr : cutAt p rest with
      | nil => exact absurd hr (cutAt_ne_nil p rest)
      | cons piece pieces => simp [cutAt, hd, ih, hr]

end Text

end RouteAccess
