/-
RouteAccess/Settings/EnvFile.lean

Files that set environment names, one a line: `name=value`, with the word
`export` before it if wanted.  A value may stand in quotes, and then go over
several lines and hold escapes; without quotes it ends at a comment, which
starts with a number sign after a blank, also right after the equals sign.  A
name alone has no value.  A line that is none of this is passed over.

In a value, `$` and a name in braces stand for the value of that name, set
further up in the file or outside it; after `:-` a value may follow for a name
that is not set.
-/
import RouteAccess.Text.Blank

namespace RouteAccess

namespace EnvFile

/-! ### Parts of a line -/

/-- A blank that does not end a line. -/
def isGap (c : Char) : Bool :=
  Text.isBlank c && c ≠ '\n'

/-- A text with every end of line as one character. -/
def joinLineEnds : List Char → List Char
  | [] => []
  | '\r' :: '\n' :: rest => '\n' :: joinLineEnds rest
  | '\r' :: rest => '\n' :: joinLineEnds rest
  | c :: rest => c :: joinLineEnds rest

/-- A text without the word `export` at its start, which a gap has to follow. -/
def skipExport (cs : List Char) : List Char :=
  let word := "export".toList
  if word.isPrefixOf cs then
    let rest := cs.drop word.length
    let after := rest.dropWhile isGap
    if after.length < rest.length then after else cs
  else cs

/-- The rest of a text after the end of its line. -/
def nextLine (cs : List Char) : List Char :=
  (cs.dropWhile (· ≠ '\n')).drop 1

/-! ### Names

A reader of a part gives what it has found and the rest of the text, or the
text where it gave up. -/

/-- The name at the start of a text; none before a comment. -/
def readName (cs : List Char) : Except (List Char) (Option (List Char) × List Char) :=
  match cs with
  | '#' :: _ => .ok (none, cs)
  | '\'' :: rest =>
    let name := rest.takeWhile (· ≠ '\'')
    match name, rest.drop name.length with
    | _ :: _, '\'' :: rest => .ok (some name, rest)
    | _, _ => .error cs
  | _ =>
    let name := cs.takeWhile fun c => c ≠ '=' && c ≠ '#' && !Text.isBlank c
    if name = [] then .error cs else .ok (some name, cs.drop name.length)

/-! ### Values -/

/-- The text up to a closing quote.  A backslash belongs to what follows it, so
neither a quote nor a backslash after it counts. -/
def closeQuote (quote : Char) : List Char → Option (List Char × List Char)
  | [] => none
  | '\\' :: c :: rest =>
    (closeQuote quote rest).map fun (value, rest) => ('\\' :: c :: value, rest)
  | c :: rest =>
    if c = quote then some ([], rest)
    else (closeQuote quote rest).map fun (value, rest) => (c :: value, rest)

/-- The character that a letter after a backslash stands for, between quotes of
one kind. -/
def escape? (quote c : Char) : Option Char :=
  if c = '\\' ∨ c = '\'' then some c
  else if quote ≠ '"' then none
  else
    match c with
    | '"' => some '"'
    | 'a' => some '\x07'
    | 'b' => some '\x08'
    | 'f' => some '\x0c'
    | 'n' => some '\n'
    | 'r' => some '\r'
    | 't' => some '\t'
    | 'v' => some '\x0b'
    | _ => none

/-- A value between quotes, with its escapes resolved. -/
def unescape (quote : Char) : List Char → List Char
  | [] => []
  | '\\' :: c :: rest =>
    match escape? quote c with
    | some d => d :: unescape quote rest
    -- a backslash before any other letter stays
    | none => '\\' :: unescape quote (c :: rest)
  | c :: rest => c :: unescape quote rest
termination_by cs => cs.length

/-- A value without quotes up to the comment. -/
def cutComment : List Char → List Char
  | [] => []
  | c :: rest =>
    -- a comment needs a blank before it
    if Text.isBlank c && (rest.dropWhile Text.isBlank).head? = some '#' then []
    else c :: cutComment rest

/-- The value at the start of a text, after a gap. -/
def readValue (cs : List Char) : Except (List Char) (List Char × List Char) :=
  match cs.dropWhile isGap with
  | '\'' :: rest => quoted '\'' rest
  | '"' :: rest => quoted '"' rest
  | _ =>
    let line := cs.takeWhile (· ≠ '\n')
    .ok (Text.trimChars (cutComment line), cs.drop line.length)
where
  /-- The value between quotes, the first of which has been read. -/
  quoted (quote : Char) (cs : List Char) : Except (List Char) (List Char × List Char) :=
    match closeQuote quote cs with
    | some (value, rest) => .ok (unescape quote value, rest)
    | none => .error cs

/-- The value after a name, if an equals sign follows it. -/
def readAssigned (cs : List Char) : Except (List Char) (Option (List Char) × List Char) :=
  match cs with
  | '=' :: rest => do
    let (value, rest) ← readValue rest
    return (some value, rest)
  | _ => .ok (none, cs)

/-! ### Lines -/

/-- A name with its value. -/
abbrev Entry := List Char × Option (List Char)

/-- The text after a comment, if there is one, and the end of the line. -/
def readLineEnd (cs : List Char) : Except (List Char) (Unit × List Char) :=
  let after := cs.dropWhile isGap
  let cs := if after.head? = some '#' then after.dropWhile (· ≠ '\n') else cs
  match cs.dropWhile isGap with
  | [] => .ok ((), [])
  | '\n' :: rest => .ok ((), rest)
  | _ => .error cs

/-- The entry at the start of a text that starts with no blank. -/
def readEntry (cs : List Char) : Except (List Char) (Option Entry × List Char) := do
  let (name, cs) ← readName (skipExport cs)
  let (value, cs) ← readAssigned (cs.dropWhile isGap)
  let ((), cs) ← readLineEnd cs
  return (name.map (·, value), cs)

/-- The entries of a text, of at most `fuel` lines. -/
def entriesFrom : (fuel : Nat) → List Char → List Entry
  | 0, _ => []
  | fuel + 1, cs =>
    match cs.dropWhile Text.isBlank with
    | [] => []
    | c :: rest =>
      match readEntry (c :: rest) with
      | .ok (some entry, rest) => entry :: entriesFrom fuel rest
      | .ok (none, rest) => entriesFrom fuel rest
      | .error rest => entriesFrom fuel (nextLine rest)

/-- A text without the mark of its byte order. -/
def skipMark : List Char → List Char
  | '\uFEFF' :: rest => rest
  | cs => cs

/-- The entries of a text, in order. -/
def entries (cs : List Char) : List Entry :=
  let cs := joinLineEnds (skipMark cs)
  entriesFrom (cs.length + 1) cs

/-! ### References -/

/-- A reference after its dollar sign: the name, the value to take without it,
and the rest. -/
def readReference (cs : List Char) : Option (List Char × List Char × List Char) :=
  match cs with
  | '\x7b' :: rest =>
    let name := rest.takeWhile fun c => c ≠ '\x7d' && c ≠ ':'
    match rest.drop name.length with
    | '\x7d' :: rest => some (name, [], rest)
    | ':' :: '-' :: rest =>
      let default := rest.takeWhile (· ≠ '\x7d')
      match rest.drop default.length with
      | _ :: rest => some (name, default, rest)
      | [] => none
    | _ => none
  | _ => none

/-- Names and values, later ones first. -/
abbrev Setting := List (List Char × Option (List Char))

/-- The text that a reference stands for. -/
def resolve (known : Setting) (name default : List Char) : List Char :=
  match known.lookup name with
  | some value => value.getD []
  | none => default

/-- A value with its references resolved, at most `fuel` characters of it. -/
def expandFrom (known : Setting) : (fuel : Nat) → List Char → List Char
  | 0, cs => cs
  | _, [] => []
  | fuel + 1, c :: rest =>
    match if c = '$' then readReference rest else none with
    | some (name, default, rest) => resolve known name default ++ expandFrom known fuel rest
    -- what a reference stands for is not looked through again
    | none => c :: expandFrom known fuel rest

/-- The entries with all references resolved, from the first one on. -/
def expandAll (known : Setting) : List Entry → List Entry
  | [] => []
  | (name, value) :: rest =>
    let value := value.map fun cs => expandFrom known cs.length cs
    -- those that follow see this entry before the environment
    (name, value) :: expandAll ((name, value) :: known) rest

/-- The names that a text sets, each with its value, in an environment. -/
def read (environment : List (String × String)) (text : String) :
    List (String × Option String) :=
  let known := environment.reverse.map fun (n, v) => (n.toList, some v.toList)
  (expandAll known (entries text.toList)).map fun (n, v) =>
    (String.ofList n, v.map String.ofList)

end EnvFile

end RouteAccess
