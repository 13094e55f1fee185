/-
RouteAccess/Form/Scalar.lean

Forms of truth values and whole numbers, which may also be written as text or
as numbers of another kind, as long as nothing is lost.
-/
import RouteAccess.Form
import RouteAccess.Number.Whole

namespace RouteAccess

namespace Form

/-! ### Truth values -/

/-- The words for true. -/
def trueWords : List String := ["1", "t", "y", "on", "yes", "true"]

/-- The words for false. -/
def falseWords : List String := ["0", "f", "n", "no", "off", "false"]

/-- The first number beyond 64 bits. -/
def beyondWord : Int := 9223372036854775808

/-- A truth value from a number, which has to be at least `lowest` to count as
one. -/
def flagOfInt (lowest n : Int) : Form Bool :=
  if n = 0 then valid false
  else if n = 1 then valid true
  else if lowest ≤ n ∧ n < beyondWord then fault .boolText
  else fault .notBool

/-- Whether a finite number has nothing after the point. -/
def isWhole (x : Binary64) : Bool :=
  x.fraction.isZero

/-- A truth value, one of its words in any case, or zero or one. -/
def flag : Json → Form Bool
  | .bool b => valid b
  | .int n => flagOfInt (-beyondWord) n
  | .float x =>
    match x.truncate? with
    | some n => if isWhole x then flagOfInt (1 - beyondWord) n else fault .notBool
    | none => fault .notBool
  | .str s =>
    if trueWords.contains s.toLower then valid true
    else if falseWords.contains s.toLower then valid false
    else fault .boolText
  | _ => fault .notBool

/-! ### Whole numbers -/

/-- Whether digits may go on with a character when the zeros before them are
left out: with another digit, or with the sign of the number. -/
def startsNumber (c : Char) : Bool :=
  c = '-' || Text.isDigit c && c ≠ '0'

/-- A number without the zeros at its start, and the underscores among these.
The last one stays if nothing follows or a point does. -/
def dropZeros (cs : List Char) : Option (List Char) :=
  match cs with
  | '0' :: rest =>
    let zeros := rest.takeWhile fun c => c = '0' || c = '_'
    let last := zeros.getLast?.getD '0'
    match rest.drop zeros.length with
    | [] => some [last]
    | '.' :: places => some (last :: '.' :: places)
    | c :: rest => if startsNumber c then some (c :: rest) else none
  | c :: rest => if startsNumber c then some (c :: rest) else none
  | [] => none

/-- A number without a point and the zeros after it. -/
def dropZeroPlaces (cs : List Char) : List Char :=
  let whole := cs.takeWhile (· ≠ '.')
  match cs.drop (whole.length + 1) with
  | [] => cs
  | places => if places.all (· = '0') then whole else cs

/-- Whether all underscores stand alone between other characters. -/
def underscoresApart : List Char → Bool
  | [] => true
  | '_' :: _ => false
  | [_] => true
  | _ :: '_' :: rest => !rest.isEmpty && underscoresApart rest
  | _ :: rest => underscoresApart rest

/-- A number without its underscores, if they stand where they may. -/
def dropUnderscores (cs : List Char) : List Char :=
  if underscoresApart cs then cs.filter (· ≠ '_') else cs

/-- The whole number that digits are: no zero stands before others. -/
def wholeOfDigits (negative : Bool) (cs : List Char) : Form Int :=
  let digits := cs.takeWhile Text.isDigit
  if digits.head? = some '0' ∧ 1 < digits.length then fault .intText
  else if Whole.maxDigits < digits.length then fault .intSize
  else if digits = [] ∨ digits.length < cs.length then fault .intText
  else
    let n : Nat := digits.foldl (fun n c => n * 10 + (c.toNat - '0'.toNat)) 0
    valid (if negative then -(n : Int) else n)

/-- A whole number from a text: space around it, a sign, zeros before it, which
the minus sign may follow, underscores between its digits, and zeros after a
point do not count. -/
def wholeOfText (s : String) : Form Int :=
  let cs := ((s.toList.dropWhile Whole.isSpace).reverse.dropWhile Whole.isSpace).reverse
  let (negative, cs) := Whole.splitSign cs
  match (dropZeros cs).map fun cs => dropUnderscores (dropZeroPlaces cs) with
  | none => fault .intText
  | some ('-' :: cs) => if negative then fault .intText else wholeOfDigits true cs
  | some cs => wholeOfDigits negative cs

/-- A whole number, a text that is one, or a number without a fraction. -/
def whole : Json → Form Int
  | .int n => valid n
  | .bool b => valid (if b then 1 else 0)
  | .float x =>
    match x.truncate? with
    | none => fault .notFinite
    | some n =>
      if !isWhole x then fault .intFraction
      else if -beyondWord < n ∧ n < beyondWord then valid n
      else fault .intSize
  | .str s => wholeOfText s
  | _ => fault .notInt

end Form

end RouteAccess
