/-
RouteAccess/Policy/Statement.lean

Statements: a policy, a list of verbs, a path pattern and a list of subjects.
A statement stands for one elementary rule per verb and subject: the verbs it
declares get its policy, and all other verbs get the other policy.
-/
import RouteAccess.Fault
import RouteAccess.Json.Display
import RouteAccess.Policy.Rule

namespace RouteAccess

/-! ### What can be wrong -/

/-- Why a statement cannot be read or expanded. -/
inductive StatementFault
  /-- the path pattern is missing -/
  | noPath (verbs subjects : Option String)
  /-- some declared verbs are not in the fixed set -/
  | unknownVerbs (declared : String) (unknown : List String)
  /-- a statement that is no text -/
  | notText (statement : Json)
  /-- a statement with a wrong number of words -/
  | wordCount (statement : String) (count : Nat)
  /-- the first word names no policy -/
  | unknownPolicy (statement word : String)

namespace StatementFault

/-- The message about a faulty statement. -/
def message : StatementFault → String
  | noPath _ _ => "Guard rule requires a path pattern"
  | unknownVerbs _ unknown => "Unknown HTTP verb(s): " ++ String.intercalate ", " unknown
  | notText statement => "Statement must be a string, got " ++ statement.kindName
  | wordCount _ count => "Expected 4 tokens, got " ++ toString count
  | unknownPolicy _ word => "Unknown policy '" ++ word ++ "'"

/-- The details about a faulty statement. -/
def details : StatementFault → List (String × Json)
  | noPath verbs subjects => [("verbs", .ofText? verbs), ("subjects", .ofText? subjects)]
  | unknownVerbs declared _ => [("verbs", .str declared), ("allowed", .ofTexts verbs)]
  | notText statement => [("statement", .str statement.shown)]
  | wordCount statement _ => [("statement", .str statement)]
  | unknownPolicy statement _ => [("statement", .str statement)]

/-- The fault that a faulty statement is reported as. -/
def fault (f : StatementFault) : Fault :=
  .ofKind .ruleSyntax f.message f.details

end StatementFault

/-! ### Expansion -/

/-- The verbs that a list declares: all of them for an empty list or a wildcard,
else each declared one once. -/
def expandVerbs (declared : Option String) : Except StatementFault (List String) :=
  let tokens := tokens declared
  if tokens = [] ∨ wildcard ∈ tokens then .ok verbs
  else
    -- without a wildcard one unknown verb is enough to refuse the statement
    let unknown := tokens.filter (· ∉ verbs)
    if unknown ≠ [] then .error (.unknownVerbs (declared.getD "") unknown)
    else .ok tokens.eraseDups

/-- The subjects that a list declares: the wildcard for an empty list, else each
declared one once. -/
def expandSubjects (declared : Option String) : List String :=
  let tokens := tokens declared
  if tokens = [] then [wildcard] else tokens.eraseDups

/-- The rules for one subject: the declared verbs at the policy, then the
remaining ones at the other policy. -/
def rulesFor (policy : Policy) (declared : List String) (path subject : String) : List Rule :=
  declared.map (Rule.normal policy · path subject) ++
    (verbs.filter (· ∉ declared)).map (Rule.normal policy.invert · path subject)

/-- The rules that a statement stands for. -/
def expandStatement (policy : Policy) (verbs : Option String) (path : Option String)
    (subjects : Option String) : Except StatementFault (List Rule) :=
  match path with
  | none => .error (.noPath verbs subjects)
  | some path =>
    if path = "" then .error (.noPath verbs subjects)
    else do
      let declared ← expandVerbs verbs
      return (expandSubjects subjects).flatMap (rulesFor policy declared path)

/-! ### Statements as text -/

/-- A statement in its four parts. -/
structure Statement where
  policy : Policy
  verbs : String
  path : String
  subjects : String
deriving DecidableEq, Repr

namespace Statement

/-- The statement that a text is: four words, the first of which names a
policy. -/
def ofText (text : String) : Except StatementFault Statement :=
  match Text.words text with
  | [policy, verbs, path, subjects] =>
    match Policy.ofToken? policy with
    | some p => .ok ⟨p, Text.upper verbs, path, Text.upper subjects⟩
    | none => .error (.unknownPolicy text policy)
  | words => .error (.wordCount text words.length)

/-- The statement that an entry of a document is. -/
def ofJson : Json → Except StatementFault Statement
  | .str text => ofText text
  | value => .error (.notText value)

/-- The rules that the statement stands for. -/
def rules (s : Statement) : Except StatementFault (List Rule) :=
  expandStatement s.policy (some s.verbs) (some s.path) (some s.subjects)

end Statement

end RouteAccess
