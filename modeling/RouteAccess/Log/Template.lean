/-
RouteAccess/Log/Template.lean

Templates: texts with places where values go.  A place starts with a percent
sign; then come, each if wanted, the name of the value in parentheses, flags, a
width, a precision after a point, and a size letter that means nothing; and
last the letter that says how the value is written.  A width or precision of
`*` is taken from the values.  Two percent signs in a row stand for one of them.

A template is read into parts (`parts`), and the parts are filled one after the
other (`fill`), so the first fault from the left is the one that is reported.
-/
import RouteAccess.Json.Display
import RouteAccess.Number.Decimal

namespace RouteAccess

namespace Template

/-! ### Parts -/

/-- How a value is written. -/
inductive Style
  | plain
  | shown
  | shownAscii
  | whole
  | based (base : Nat) (capital : Bool)
  | decimal (style : Binary64.DecimalStyle) (capital : Bool)
  | character
  | unknown
deriving DecidableEq, Repr

/-- The style that a letter asks for. -/
def Style.ofChar : Char → Style
  | 's' => plain
  | 'r' => shown
  | 'a' => shownAscii
  | 'd' => whole
  | 'i' => whole
  | 'u' => whole
  | 'o' => based 8 false
  | 'x' => based 16 false
  | 'X' => based 16 true
  | 'e' => decimal .scientific false
  | 'E' => decimal .scientific true
  | 'f' => decimal .fixed false
  | 'F' => decimal .fixed true
  | 'g' => decimal .general false
  | 'G' => decimal .general true
  | 'c' => character
  | _ => unknown

/-- A width or a precision: not given, given, or taken from the values. -/
inductive Measure
  | absent
  | given (n : Nat)
  | taken
deriving DecidableEq, Repr

/-- The name of the value for a place. -/
inductive Key
  | absent
  | named (name : List Char)
  | unclosed
deriving DecidableEq, Repr

/-- The flags of a place. -/
structure Flags where
  left : Bool := false
  plus : Bool := false
  blank : Bool := false
  alternate : Bool := false
  zero : Bool := false
deriving DecidableEq, Repr

/-- A place in a template; without a style it is cut off. -/
structure Place where
  key : Key
  flags : Flags
  width : Measure
  precision : Measure
  style : Option Style
deriving DecidableEq, Repr

/-- A part of a template. -/
inductive Part
  | char (c : Char)
  | place (p : Place)
deriving DecidableEq, Repr

/-! ### Reading -/

/-- The name up to the parenthesis that closes it, and the rest; parentheses
inside it come in pairs. -/
def closeKey (depth : Nat) (name : List Char) : List Char → Key × List Char
  | [] => (.unclosed, [])
  | ')' :: rest =>
    match depth with
    | 0 => (.named name.reverse, rest)
    | depth + 1 => closeKey depth (')' :: name) rest
  | '(' :: rest => closeKey (depth + 1) ('(' :: name) rest
  | c :: rest => closeKey depth (c :: name) rest

/-- The name at the start of a place, if there is one. -/
def readKey : List Char → Key × List Char
  | '(' :: rest => closeKey 0 [] rest
  | cs => (.absent, cs)

/-- The flags at the start of a place. -/
def readFlags (f : Flags) : List Char → Flags × List Char
  | '-' :: rest => readFlags { f with left := true } rest
  | '+' :: rest => readFlags { f with plus := true } rest
  | ' ' :: rest => readFlags { f with blank := true } rest
  | '#' :: rest => readFlags { f with alternate := true } rest
  | '0' :: rest => readFlags { f with zero := true } rest
  | cs => (f, cs)

/-- The number that digits are. -/
def numberOf (digits : List Char) : Nat :=
  digits.foldl (fun n c => n * 10 + (c.toNat - '0'.toNat)) 0

/-- A measure at the start of a text; no digits are `without`. -/
def readMeasure (without : Measure) : List Char → Measure × List Char
  | '*' :: rest => (.taken, rest)
  | cs =>
    let digits := cs.takeWhile Text.isDigit
    if digits = [] then (without, cs) else (.given (numberOf digits), cs.drop digits.length)

/-- A precision at the start of a text; a point alone means zero. -/
def readPrecision : List Char → Measure × List Char
  | '.' :: rest => readMeasure (.given 0) rest
  | cs => (.absent, cs)

/-- A text without the size letter at its start. -/
def skipSize : List Char → List Char
  | 'h' :: rest => rest
  | 'l' :: rest => rest
  | 'L' :: rest => rest
  | cs => cs

/-- The place after a percent sign, and the rest of the text. -/
def readPlace (cs : List Char) : Place × List Char :=
  let (key, cs) := readKey cs
  let (flags, cs) := readFlags {} cs
  let (width, cs) := readMeasure .absent cs
  let (precision, cs) := readPrecision cs
  match skipSize cs with
  | [] => (⟨key, flags, width, precision, none⟩, [])
  | c :: rest => (⟨key, flags, width, precision, some (Style.ofChar c)⟩, rest)

/-- The parts of a text, at most `fuel` of them. -/
def partsFrom : (fuel : Nat) → List Char → List Part
  | 0, _ => []
  | _, [] => []
  | fuel + 1, '%' :: '%' :: rest => .char '%' :: partsFrom fuel rest
  | fuel + 1, '%' :: rest =>
    let (p, rest) := readPlace rest
    .place p :: partsFrom fuel rest
  | fuel + 1, c :: rest => .char c :: partsFrom fuel rest

/-- The parts of a text. -/
def parts (cs : List Char) : List Part :=
  partsFrom cs.length cs

/-! ### Faults -/

/-- Why a template cannot be filled. -/
inductive Fault
  | tooFewValues
  | tooManyValues
  | needsNames
  | noSuchName
  | unclosedName
  | cutOff
  | unknownStyle
  | measureTooLarge
  /-- a value that cannot be written in the style, or be a measure -/
  | wrongValue
  /-- a number out of the range that the style can write -/
  | outOfRange
  | notANumber
  /-- more characters than can be held -/
  | tooLong
deriving DecidableEq, Repr

/-! ### Writing one value -/

/-- The most that a width may be. -/
def maxWidth : Nat := 9223372036854775807

/-- The most that a precision may be. -/
def maxPrecision : Nat := 2147483647

/-- The most characters that a place may ask for. -/
def maxLength : Nat := 4294967296

/-- Characters with the letters in upper case. -/
def capitals (capital : Bool) (cs : List Char) : List Char :=
  if capital then cs.map Char.toUpper else cs

/-- A character of a text that is shown in ASCII. -/
def asciiChar (c : Char) : List Char :=
  if c.toNat < 0x80 then [c]
  else if c.toNat < 0x100 then '\\' :: 'x' :: Text.hexDigits 2 c.toNat
  else if c.toNat < 0x10000 then '\\' :: 'u' :: Text.hexDigits 4 c.toNat
  else '\\' :: 'U' :: Text.hexDigits 8 c.toNat

/-- What is written of a value: a sign and a mark of the base, if any, the
digits or characters, and whether zeros may stand before them. -/
structure Written where
  sign : List Char := []
  mark : List Char := []
  body : List Char
  numeric : Bool := false

/-- The sign of a number. -/
def signOf (f : Flags) (negative : Bool) : List Char :=
  if negative then ['-'] else if f.plus then ['+'] else if f.blank then [' '] else []

/-- A whole number from a value. -/
def wholeOf : Json → Except Fault Int
  | .bool b => .ok (if b then 1 else 0)
  | .int n => .ok n
  | .float x =>
    match x with
    | .nan => .error .notANumber
    | x =>
      match x.truncate? with
      | some n => .ok n
      | none => .error .outOfRange
  | _ => .error .wrongValue

/-- A whole number from a value that has no fraction by its kind. -/
def indexOf : Json → Except Fault Int
  | .bool b => .ok (if b then 1 else 0)
  | .int n => .ok n
  | _ => .error .wrongValue

/-- A floating-point number from a value. -/
def floatOf : Json → Except Fault Binary64
  | .float x => .ok x
  | value =>
    match indexOf value with
    | .error e => .error e
    | .ok n =>
      match Binary64.ofInt n with
      | .infinite _ => .error .outOfRange
      | x => .ok x

/-- The character that a value is; a number may also give half of a pair. -/
def characterOf : Json → Except Fault (List Char)
  | .str s =>
    match s.toList with
    | [c] => .ok [c]
    | _ => .error .wrongValue
  | value =>
    match indexOf value with
    | .error e => .error e
    | .ok n =>
      if n < 0 ∨ 0x10FFFF < n then .error .outOfRange
      else .ok (Surrogate.charsOf n.toNat)

/-- A text, cut to a precision. -/
def cut (precision : Option Nat) (cs : List Char) : List Char :=
  match precision with
  | some n => cs.take n
  | none => cs

/-- A whole number in a base, with at least as many digits as the precision
asks for. -/
def writeWhole (f : Flags) (precision : Option Nat) (mark : List Char) (base : Nat) (n : Int) :
    Written :=
  let digits := Nat.toDigits base n.natAbs
  { sign := signOf f (n < 0), mark := mark, numeric := true,
    body := List.replicate (precision.getD 0 - digits.length) '0' ++ digits }

/-- What is written of a value in a style. -/
def written (f : Flags) (precision : Option Nat) (value : Json) : Style → Except Fault Written
  | .plain => .ok { body := cut precision (Json.plain value).toList }
  | .shown => .ok { body := cut precision (Json.display value) }
  | .shownAscii => .ok { body := cut precision ((Json.display value).flatMap asciiChar) }
  | .whole => (wholeOf value).map (writeWhole f precision [] 10)
  | .based base capital => do
    let n ← indexOf value
    let letter := if base = 8 then 'o' else 'x'
    let mark := if f.alternate then capitals capital ['0', letter] else []
    let w := writeWhole f precision mark base n
    return { w with body := capitals capital w.body }
  | .decimal style capital => do
    let x ← floatOf value
    let body := x.decimalText style f.alternate (precision.getD 6)
    return { sign := signOf f x.isNegative, body := capitals capital body, numeric := true }
  | .character => (characterOf value).map fun cs => { body := cs }
  | .unknown => .error .unknownStyle

/-- What is written, brought to a width: with spaces after it, with zeros
between sign and digits, or with spaces before it. -/
def padded (f : Flags) (width : Nat) (w : Written) : List Char :=
  let used := w.sign.length + w.mark.length + w.body.length
  let missing := width - used
  if f.zero && w.numeric then
    if f.left then w.sign ++ w.mark ++ w.body ++ List.replicate missing ' '
    else w.sign ++ w.mark ++ List.replicate missing '0' ++ w.body
  else if f.left then w.sign ++ w.mark ++ w.body ++ List.replicate missing ' '
  else List.replicate missing ' ' ++ w.sign ++ w.mark ++ w.body

/-! ### Filling -/

/-- The values that have names. -/
inductive Names
  /-- values have no names -/
  | absent
  /-- values have places instead, which no name tells -/
  | places
  | fields (fields : List (String × Json))

/-- Whether there are values apart from those that are used one by one. -/
def Names.arePresent : Names → Bool
  | .absent => false
  | _ => true

/-- The values that are still to be used, and those that have names. -/
structure Supply where
  pending : List Json
  names : Names

/-- The next value. -/
def Supply.next (s : Supply) : Except Fault (Json × Supply) :=
  match s.pending with
  | [] => .error .tooFewValues
  | v :: rest => .ok (v, { s with pending := rest })

/-- The values for a place: those of its name, if it has one. -/
def Supply.select (s : Supply) : Key → Except Fault Supply
  | .absent => .ok s
  | .unclosed => .error (if s.names.arePresent then .unclosedName else .needsNames)
  | .named name =>
    match s.names with
    | .fields fields =>
      match fields.lookup (String.ofList name) with
      | some v => .ok { s with pending := [v] }
      | none => .error .noSuchName
    | _ => .error .needsNames

/-- The number that a measure is, at most `limit`. -/
def Supply.measure (s : Supply) (limit : Nat) : Measure → Except Fault (Option Int × Supply)
  | .absent => .ok (none, s)
  | .given n => if limit < n then .error .measureTooLarge else .ok (some n, s)
  | .taken => do
    let (v, s) ← s.next
    let n ← indexOf v
    if (limit : Int) < n ∨ n < -(limit : Int) then .error .outOfRange else .ok (some n, s)

/-- A place with its value. -/
def fillPlace (p : Place) (s : Supply) : Except Fault (List Char × Supply) := do
  let s ← s.select p.key
  -- width and precision are taken before the value itself
  let (width, s) ← s.measure maxWidth p.width
  let (precision, s) ← s.measure maxPrecision p.precision
  match p.style with
  | none => .error .cutOff
  | some style =>
    let (v, s) ← s.next
    let precision := precision.map Int.toNat
    let width := width.getD 0
    -- a negative width that is taken from the values asks for the left
    let flags := if width < 0 then { p.flags with left := true } else p.flags
    let w ← written p.flags precision v style
    if maxLength < width.natAbs then .error .tooLong
    else return (padded flags width.natAbs w, s)

/-- The parts with their values; in the end no value may be left over. -/
def fillParts : List Part → Supply → Except Fault (List Char)
  | [], s => if !s.pending.isEmpty && !s.names.arePresent then .error .tooManyValues else .ok []
  | .char c :: rest, s => (fillParts rest s).map (c :: ·)
  | .place p :: rest, s => do
    let (cs, s) ← fillPlace p s
    let more ← fillParts rest s
    return cs ++ more

/-- What a template is filled with: values one by one, or one value as it is. -/
inductive Values
  | each (values : List Json)
  | one (value : Json)

/-- The values for a template: an object gives its fields names, and so does an
object with fields that is the only one of several values. -/
def Values.supply : Values → Supply
  | .each [.obj (f :: fs)] => ⟨[.obj (f :: fs)], .fields (f :: fs)⟩
  | .each values => ⟨values, .absent⟩
  | .one (.arr [.obj (f :: fs)]) => ⟨[.obj (f :: fs)], .fields (f :: fs)⟩
  | .one (.arr items) => ⟨[.arr items], .places⟩
  | .one (.obj fields) => ⟨[.obj fields], .fields fields⟩
  | .one value => ⟨[value], .absent⟩

/-- A template with its values. -/
def fill (template : String) (values : Values) : Except Fault String :=
  (fillParts (parts template.toList) values.supply).map String.ofList

end Template

end RouteAccess
