/-
RouteAccess/Subject/List.lean

Lists of subjects in one text: trimmed, upper-cased, each once, in ascending
order, with a separator between them.
-/
import RouteAccess.Policy.Rule

namespace RouteAccess

namespace Subject

/-- The subjects among texts, in upper case and ascending order, each once. -/
def normalise (values : List (Option String)) : List String :=
  let trimmed := (values.filterMap id).map Text.trim |>.filter (· ≠ "")
  ((trimmed.map Text.upper).eraseDups).mergeSort fun a b => decide (a ≤ b)

/-- The subjects among texts, in one text. -/
def join (values : List (Option String)) : String :=
  String.intercalate (String.singleton separator) (normalise values)

end Subject

end RouteAccess
