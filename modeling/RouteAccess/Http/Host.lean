/-
RouteAccess/Http/Host.lean

Hosts as requests name them: a name or an address in brackets, and a port after
a colon if wanted.  What has another form is no host.
-/
import RouteAccess.Text.Blank
import RouteAccess.Text.CharClass

namespace RouteAccess

namespace Host

/-! ### Names and ports -/

/-- The characters of a name, besides letters and digits. -/
def marks : List Char :=
  "-._~!$&'()*+,;=%".toList

/-- Whether a character may stand in the name of a host. -/
def isNameChar (c : Char) : Bool :=
  Text.isLetter c || Text.isDigit c || marks.contains c

/-- The number that digits are. -/
def numberOf (digits : List Char) : Nat :=
  digits.foldl (fun n c => n * 10 + (c.toNat - '0'.toNat)) 0

/-- Whether a text is a port after its colon. -/
def isPort (cs : List Char) : Bool :=
  cs ≠ [] && cs.all Text.isDigit && numberOf cs < Nat.pow 2 16

/-- Whether a text is nothing, or a colon and a port. -/
def isPortEnd : List Char → Bool
  | [] => true
  | ':' :: port => isPort port
  | _ => false

/-! ### Addresses -/

/-- Whether a text is one of the four numbers of a short address. -/
def isByte (cs : List Char) : Bool :=
  cs ≠ [] && cs.all Text.isDigit && cs.length ≤ 3 && numberOf cs < Nat.pow 2 8 &&
    (cs.length = 1 || cs.head? ≠ some '0')

/-- Whether a text is a short address: four numbers with points between them. -/
def isShort (cs : List Char) : Bool :=
  let numbers := Text.cutAt (· = '.') cs
  numbers.length = 4 && numbers.all isByte

/-- Whether a text is a group of a long address. -/
def isGroup (cs : List Char) : Bool :=
  cs ≠ [] && cs.length ≤ 4 && cs.all fun c => (Text.hexValue? c).isSome

/-- The groups of a long address; the last two may be written as a short one. -/
def groups (cs : List Char) : List (List Char) :=
  let groups := Text.cutAt (· = ':') cs
  match groups.getLast? with
  | some last => if isShort last then groups.dropLast ++ [['0'], ['0']] else groups
  | none => groups

/-- The groups before a gap and after it; at either end of the address the gap
has an empty group more. -/
def aroundGap (groups : List (List Char)) : Option (List (List Char) × List (List Char)) :=
  let inner := (groups.drop 1).dropLast
  let before := inner.takeWhile (· ≠ [])
  let after := inner.drop (before.length + 1)
  if before.length = inner.length ∨ after.contains [] then none
  else
    let first := groups.head?.getD []
    let last := groups.getLast?.getD []
    let before := if first = [] && before = [] then [] else first :: before
    let after := if last = [] && after = [] then [] else after ++ [last]
    some (before, after)

/-- Whether a text is a long address: eight groups, or fewer with one gap. -/
def isLong (cs : List Char) : Bool :=
  let groups := groups cs
  match aroundGap groups with
  | some (before, after) =>
    3 ≤ groups.length && before.length + after.length < 8 && (before ++ after).all isGroup
  | none => groups.length = 8 && groups.all isGroup

/-- Whether a text is a long address, with the name of a zone after a percent
sign if wanted. -/
def isZoned (cs : List Char) : Bool :=
  match Text.cutAt (· = '%') cs with
  | [address] => isLong address
  | [address, zone] => isLong address && zone ≠ []
  | _ => false

/-- Whether a text is an address of a later version, which its first part, in
hexadecimal digits, tells. -/
def isVersioned : List Char → Bool
  | 'v' :: cs =>
    let version := cs.takeWhile fun c => (Text.hexValue? c).isSome
    match cs.drop version.length with
    | '.' :: address => version ≠ [] && address ≠ []
    | _ => false
  | _ => false

/-- Whether a text is an address that stands in brackets. -/
def isBracketed (cs : List Char) : Bool :=
  (cs.all fun c => isNameChar c || c = ':') && (isVersioned cs || isZoned cs)

/-- Whether a text names a host. -/
def isHost (s : String) : Bool :=
  match s.toList with
  | '[' :: cs =>
    let address := cs.takeWhile (· ≠ ']')
    match cs.drop address.length with
    | _ :: rest => isBracketed address && isPortEnd rest
    | [] => false
  | cs =>
    let name := cs.takeWhile isNameChar
    name ≠ [] && isPortEnd (cs.drop name.length)

end Host

end RouteAccess
