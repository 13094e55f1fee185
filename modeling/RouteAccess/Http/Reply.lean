/-
RouteAccess/Http/Reply.lean

Replies, as far as they are told apart: status, content, where to go instead,
and the methods that are allowed.
-/
import RouteAccess.Fault

namespace RouteAccess

/-- What a reply holds. -/
inductive Content
  | json (value : Json)
  | lines (lines : List String)
  | nothing

/-- A reply. -/
structure Reply where
  status : Nat
  content : Content
  location : Option String := none
  allow : List String := []

/-- Why a reply cannot be sent. -/
inductive Unsendable
  /-- it holds a number that is not finite -/
  | number
  /-- it holds a text with half of a pair of surrogates -/
  | text
deriving DecidableEq, Repr

namespace Reply

/-- A reply with a JSON value. -/
def ofJson (status : Nat) (fields : List (String × Json)) : Reply :=
  ⟨status, .json (.obj fields), none, []⟩

/-- A reply with nothing but a word about what is wrong. -/
def ofDetail (status : Nat) (detail : String) : Reply :=
  ofJson status [("detail", .str detail)]

/-- A reply that reports a fault. -/
def ofFault (fault : Fault) : Reply :=
  ⟨fault.status, .json (fault.body none), none, []⟩

/-- Why a reply cannot be sent; a number comes before a text. -/
def unsendable? (r : Reply) : Option Unsendable :=
  match r.content with
  | .json value =>
    if !value.allFinite then some .number else if value.hasHalf then some .text else none
  | .lines lines => if lines.any Surrogate.hasHalf then some .text else none
  | .nothing => none

/-- The reply to a request that nobody could deal with. -/
def internal : Reply :=
  ofJson 500
    [("code", .str "INTERNAL_ERROR"), ("message", .str "Internal server error"),
      ("details", .obj [])]

end Reply

end RouteAccess
