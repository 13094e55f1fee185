/-
RouteAccess/Json/Reader.lean

Reading JSON texts.  The grammar is the strict one, with `NaN`, `Infinity` and
`-Infinity` as further numbers: no comments, no trailing commas, no leading
zeros, no control characters in texts.  A `Dialect` fixes what the standard
leaves open: how deep values may nest, whether half of a pair of surrogates may
stand alone, how long numbers may be, and whether they are read as values or as
texts.

Each function gives the value together with the rest of the text.
-/
import RouteAccess.Json.Value
import RouteAccess.Text.CharClass
import RouteAccess.Text.Surrogate

namespace RouteAccess

namespace Json

/-- Why a text cannot be read. -/
inductive ReadFault
  /-- the text is no value -/
  | malformed
  /-- more arrays and objects inside each other than a reader follows -/
  | tooDeep
  /-- a whole number with more digits than a reader takes -/
  | tooManyDigits
  /-- an escaped surrogate without its partner -/
  | loneSurrogate
deriving DecidableEq, Repr

/-- What has been read; nothing is malformed. -/
def orMalformed {α : Type} : Option α → Except ReadFault α
  | some a => .ok a
  | none => .error .malformed

/-- What the standard leaves to a reader. -/
structure Dialect where
  /-- How many arrays and objects with contents may stand inside each other. -/
  maxDepth : Nat
  /-- Whether an escaped surrogate may be without its partner. -/
  halves : Bool
  /-- Whether the limit for digits holds in front of a point or an exponent too. -/
  limitsFractions : Bool
  /-- Whether numbers are read as their texts. -/
  numbersAsText : Bool

/-- The dialect of documents that are checked before use. -/
def Dialect.document : Dialect := ⟨200, false, true, false⟩

/-- The dialect of messages between programs.  They may nest as deep as the stack of
the program that reads them has room, which is about a thousand levels less those that
are in use already; 900 stands for this limit and is no exact one. -/
def Dialect.message : Dialect := ⟨900, true, false, false⟩

/-- The dialect of keys, in which a number is no more than its text.  Its depth is that
of messages, and as little exact. -/
def Dialect.key : Dialect := ⟨900, true, false, true⟩

/-- The most digits that a whole number may have. -/
def maxDigits : Nat := 4300

/-! ### Blanks -/

/-- The characters that may stand between the parts of a value. -/
def isSpace (c : Char) : Bool :=
  c = ' ' || c = '\t' || c = '\n' || c = '\r'

/-- The text without the space at its start. -/
def skip (cs : List Char) : List Char :=
  cs.dropWhile isSpace

/-! ### Texts -/

/-- A part of a text between quotes: a character, or a 16-bit unit from an
escape. -/
inductive TextUnit
  | char (c : Char)
  | unit (n : Nat)

/-- The character that a one-letter escape stands for. -/
def unescape? : Char → Option Char
  | '"' => some '"'
  | '\\' => some '\\'
  | '/' => some '/'
  | 'b' => some '\x08'
  | 'f' => some '\x0c'
  | 'n' => some '\n'
  | 'r' => some '\r'
  | 't' => some '\t'
  | _ => none

/-- The value of four hexadecimal digits. -/
def hexUnit? (a b c d : Char) : Option Nat := do
  let a ← Text.hexValue? a
  let b ← Text.hexValue? b
  let c ← Text.hexValue? c
  let d ← Text.hexValue? d
  return ((a * 16 + b) * 16 + c) * 16 + d

/-- The parts of a text, up to and without its closing quote. -/
def units : List Char → Option (List TextUnit × List Char)
  | [] => none
  | '"' :: rest => some ([], rest)
  | '\\' :: 'u' :: a :: b :: c :: d :: rest => do
    let n ← hexUnit? a b c d
    let (us, rest) ← units rest
    return (.unit n :: us, rest)
  | '\\' :: e :: rest => do
    let c ← unescape? e
    let (us, rest) ← units rest
    return (.char c :: us, rest)
  | c :: rest =>
    -- a control character is refused, and so is a backslash at the end
    if c.toNat < 0x20 || c = '\\' then none
    else do
      let (us, rest) ← units rest
      return (.char c :: us, rest)

/-- The characters that the parts of a text stand for. -/
def joinUnits : List TextUnit → List Char
  | [] => []
  | .char c :: rest => c :: joinUnits rest
  | [.unit n] => Surrogate.charsOf n
  | .unit n :: .unit k :: rest =>
    if Surrogate.isHigh n && Surrogate.isLow k then Surrogate.pair n k :: joinUnits rest
    else Surrogate.charsOf n ++ joinUnits (.unit k :: rest)
  | .unit n :: .char c :: rest => Surrogate.charsOf n ++ c :: joinUnits rest

/-- Whether half of a pair stands alone among the parts of a text. -/
def hasLone : List TextUnit → Bool
  | [] => false
  | .char _ :: rest => hasLone rest
  | [.unit n] => Surrogate.isHalf n
  | .unit n :: .unit k :: rest =>
    if Surrogate.isHigh n && Surrogate.isLow k then hasLone rest
    else Surrogate.isHalf n || hasLone (.unit k :: rest)
  | .unit n :: .char _ :: rest => Surrogate.isHalf n || hasLone rest

/-- A text whose opening quote has been read. -/
def readText (halves : Bool) (cs : List Char) : Except ReadFault (String × List Char) := do
  let (us, rest) ← orMalformed (units cs)
  if !halves && hasLone us then .error .loneSurrogate
  else return (String.ofList (joinUnits us), rest)

/-! ### Numbers -/

/-- The number that a run of digits is. -/
def natOf (digits : List Char) : Nat :=
  digits.foldl (fun n c => n * 10 + (c.toNat - '0'.toNat)) 0

/-- The digits at the start of a text, and what follows them. -/
def spanDigits (cs : List Char) : List Char × List Char :=
  (cs.takeWhile Text.isDigit, cs.dropWhile Text.isDigit)

/-- The digits after a point, if there is a point; a point needs a digit. -/
def readFraction : List Char → Option (Option (List Char) × List Char)
  | '.' :: rest =>
    let (digits, rest) := spanDigits rest
    if digits = [] then none else some (some digits, rest)
  | cs => some (none, cs)

/-- The sign of an exponent, if there is one, and what follows it. -/
def readSign : List Char → Bool × List Char
  | '+' :: rest => (false, rest)
  | '-' :: rest => (true, rest)
  | cs => (false, cs)

/-- The exponent, if there is one; its letter needs a digit. -/
def readExponent : List Char → Option (Option Int × List Char)
  | c :: rest =>
    if c = 'e' || c = 'E' then
      let (negative, rest) := readSign rest
      let (digits, rest) := spanDigits rest
      if digits = [] then none
      else
        let n : Int := natOf digits
        some (some (if negative then -n else n), rest)
    else some (none, c :: rest)
  | [] => some (none, [])

/-- The parts of a number without its sign. -/
structure NumberParts where
  whole : List Char
  fraction : Option (List Char)
  exponent : Option Int

/-- The parts of a number, and what follows it. -/
def readParts (cs : List Char) : Option (NumberParts × List Char) := do
  let (whole, rest) := spanDigits cs
  if whole = [] || (whole.head? = some '0' && whole.length ≠ 1) then none
  else
    let (fraction, rest) ← readFraction rest
    let (exponent, rest) ← readExponent rest
    return (⟨whole, fraction, exponent⟩, rest)

/-- The value of a number: whole unless it has a point or an exponent. -/
def NumberParts.value (negative : Bool) (p : NumberParts) : Json :=
  match p.fraction, p.exponent with
  | none, none =>
    let n : Int := natOf p.whole
    .int (if negative then -n else n)
  | _, _ =>
    let places := p.fraction.getD []
    .float (Binary64.ofDecimal negative (natOf (p.whole ++ places))
      (p.exponent.getD 0 - places.length))

/-- Whether the limit for digits holds for a number. -/
def NumberParts.isLimited (d : Dialect) (p : NumberParts) : Bool :=
  d.limitsFractions || (p.fraction.isNone && p.exponent.isNone)

/-- A number with its sign, as its value or as its text. -/
def readSigned (d : Dialect) (negative : Bool) (cs : List Char) :
    Except ReadFault (Json × List Char) := do
  let (parts, rest) ← orMalformed (readParts cs)
  if d.numbersAsText then
    let text := cs.take (cs.length - rest.length)
    return (.str (String.ofList (if negative then '-' :: text else text)), rest)
  else if parts.isLimited d && maxDigits < parts.whole.length then .error .tooManyDigits
  else return (parts.value negative, rest)

/-- A number, or one of the words that stand for numbers without digits. -/
def readNumber (d : Dialect) : List Char → Except ReadFault (Json × List Char)
  | 'N' :: 'a' :: 'N' :: rest => .ok (.float .nan, rest)
  | 'I' :: 'n' :: 'f' :: 'i' :: 'n' :: 'i' :: 't' :: 'y' :: rest =>
    .ok (.float (.infinite false), rest)
  | '-' :: 'I' :: 'n' :: 'f' :: 'i' :: 'n' :: 'i' :: 't' :: 'y' :: rest =>
    .ok (.float (.infinite true), rest)
  | '-' :: rest => readSigned d true rest
  | cs => readSigned d false cs

/-! ### Values -/

mutual

/-- A value at the start of a text, inside `depth` more levels at most. -/
def readValue (d : Dialect) : (fuel depth : Nat) → List Char → Except ReadFault (Json × List Char)
  | 0, _, _ => .error .malformed
  | fuel + 1, depth, cs =>
    match cs with
    | 'n' :: 'u' :: 'l' :: 'l' :: rest => .ok (.null, rest)
    | 't' :: 'r' :: 'u' :: 'e' :: rest => .ok (.bool true, rest)
    | 'f' :: 'a' :: 'l' :: 's' :: 'e' :: rest => .ok (.bool false, rest)
    | '"' :: rest => do
      let (s, rest) ← readText d.halves rest
      return (.str s, rest)
    | '[' :: rest =>
      match skip rest with
      | ']' :: rest => .ok (.arr [], rest)
      | rest =>
        -- only what has contents takes a level
        match depth with
        | 0 => .error .tooDeep
        | depth + 1 => do
          let (items, rest) ← readItems d fuel depth rest
          return (.arr items, rest)
    | '\x7b' :: rest =>
      match skip rest with
      | '\x7d' :: rest => .ok (.obj [], rest)
      | rest =>
        match depth with
        | 0 => .error .tooDeep
        | depth + 1 => do
          let (fields, rest) ← readFields d fuel depth rest
          return (ofFields fields, rest)
    | cs => readNumber d cs

/-- The items of an array, up to and with its closing bracket. -/
def readItems (d : Dialect) : (fuel depth : Nat) → List Char →
    Except ReadFault (List Json × List Char)
  | 0, _, _ => .error .malformed
  | fuel + 1, depth, cs => do
    let (item, rest) ← readValue d fuel depth cs
    match skip rest with
    | ']' :: rest => return ([item], rest)
    | ',' :: rest =>
      let (items, rest) ← readItems d fuel depth (skip rest)
      return (item :: items, rest)
    | _ => .error .malformed

/-- The fields of an object, up to and with its closing brace. -/
def readFields (d : Dialect) : (fuel depth : Nat) → List Char →
    Except ReadFault (List (String × Json) × List Char)
  | 0, _, _ => .error .malformed
  | fuel + 1, depth, cs =>
    match cs with
    | '"' :: rest => do
      let (name, rest) ← readText d.halves rest
      match skip rest with
      | ':' :: rest =>
        let (value, rest) ← readValue d fuel depth (skip rest)
        match skip rest with
        | '\x7d' :: rest => return ([(name, value)], rest)
        | ',' :: rest =>
          let (fields, rest) ← readFields d fuel depth (skip rest)
          return ((name, value) :: fields, rest)
        | _ => .error .malformed
      | _ => .error .malformed
    | _ => .error .malformed

end

/-- The value that a text is, space around it aside. -/
def readChars (dialect : Dialect) (cs : List Char) : Except ReadFault Json := do
  let (value, rest) ← readValue dialect (2 * cs.length + 2) dialect.maxDepth (skip cs)
  if skip rest = [] then return value else .error .malformed

/-- The value that a text is, space around it aside, or why it is none. -/
def read (dialect : Dialect) (s : String) : Except ReadFault Json :=
  readChars dialect s.toList

/-- The value that a text is, if it is one. -/
def read? (dialect : Dialect) (s : String) : Option Json :=
  (read dialect s).toOption

end Json

end RouteAccess
