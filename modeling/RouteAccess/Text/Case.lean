/-
RouteAccess/Text/Case.lean

Upper, lower and title case by the full mappings, so that an image may be
longer than its source.  Only the capital sigma depends on its neighbours: it
becomes the final sigma where the next character before it that is not
case-ignorable has a case, and the next one after it has none.
-/
import RouteAccess.Text.CaseTable
import RouteAccess.Text.ClassTable

namespace RouteAccess

namespace Text

/-! ### One character -/

/-- Whether a character has a case. -/
def isCased (c : Char) : Bool :=
  Span.holds ClassTable.cased c.toNat

/-- Whether a character is skipped when the neighbours of a sigma are looked for. -/
def isCaseIgnorable (c : Char) : Bool :=
  Span.holds ClassTable.caseIgnorable c.toNat

/-- The image of a character: its expansion if it has one, else the target of
its run, else the character itself. -/
def mapChar (expansions : List (Nat × List Nat)) (runs : List CaseRun) (c : Char) : List Char :=
  match CaseRun.image? runs c.toNat with
  | some n => [Char.ofNat n]
  | none =>
    match expansions.lookup c.toNat with
    | some codes => codes.map Char.ofNat
    | none => [c]

/-- The upper-case image of a character. -/
def upperChar (c : Char) : List Char :=
  mapChar CaseTable.upperExpansions CaseTable.upperRuns c

/-- The lower-case image of a character where no sigma rule applies. -/
def lowerChar (c : Char) : List Char :=
  mapChar CaseTable.lowerExpansions CaseTable.lowerRuns c

/-- The title-case image of a character. -/
def titleChar (c : Char) : List Char :=
  match CaseTable.titleForms.lookup c.toNat with
  | some codes => codes.map Char.ofNat
  | none => upperChar c

/-! ### The final sigma -/

/-- Whether a cased character follows, case-ignorable ones aside. -/
def casedAhead : List Char → Bool
  | [] => false
  | c :: rest => if isCaseIgnorable c then casedAhead rest else isCased c

/-- What `casedBehind` becomes once `c` has been passed. -/
def casedAfter (casedBehind : Bool) (c : Char) : Bool :=
  if isCaseIgnorable c then casedBehind else isCased c

/-- The lower-case image of `c` with a given left side before `rest`. -/
def lowerAt (casedBehind : Bool) (c : Char) (rest : List Char) : List Char :=
  if c = 'Σ' then
    if casedBehind && !casedAhead rest then ['ς'] else ['σ']
  else lowerChar c

/-! ### Texts -/

/-- The upper-case image of a text. -/
def upperChars (cs : List Char) : List Char :=
  cs.flatMap upperChar

/-- The lower-case image of a text whose left side is summed up by `casedBehind`. -/
def lowerFrom (casedBehind : Bool) : List Char → List Char
  | [] => []
  | c :: rest => lowerAt casedBehind c rest ++ lowerFrom (casedAfter casedBehind c) rest

/-- The lower-case image of a text. -/
def lowerChars (cs : List Char) : List Char :=
  lowerFrom false cs

/-- The title-case image of a text: a letter after a letter is lower-cased, any
other one takes its title form. -/
def titleFrom (casedBehind inWord : Bool) : List Char → List Char
  | [] => []
  | c :: rest =>
    (if inWord then lowerAt casedBehind c rest else titleChar c) ++
      titleFrom (casedAfter casedBehind c) (isCased c) rest

/-- The upper-case image of a text. -/
def upper (s : String) : String :=
  String.ofList (upperChars s.toList)

/-- The lower-case image of a text. -/
def lower (s : String) : String :=
  String.ofList (lowerChars s.toList)

/-- The title-case image of a text. -/
def title (s : String) : String :=
  String.ofList (titleFrom false false s.toList)

end Text

end RouteAccess
