/-
RouteAccess/Policy/Rule.lean

Policies, verbs, and elementary rules: one verb, one path pattern and one
subject at one policy.  A rule is normalised when it is made, so that queries
compare texts as they stand.
-/
import RouteAccess.Text.Blank
import RouteAccess.Text.Case

namespace RouteAccess

/-! ### Policies -/

/-- Whether something is allowed or denied. -/
inductive Policy
  | allow
  | deny
deriving DecidableEq, Repr, Inhabited

namespace Policy

/-- The other policy. -/
def invert : Policy → Policy
  | allow => deny
  | deny => allow

/-- The word for a policy. -/
def word : Policy → String
  | allow => "allow"
  | deny => "deny"

/-- The policy that a word is for, letter by letter. -/
def ofWord? (s : String) : Option Policy :=
  if s = "allow" then some allow
  else if s = "deny" then some deny
  else none

/-- The policy that a token names, in any case and with blanks around it. -/
def ofToken? (token : String) : Option Policy :=
  ofWord? (Text.lower (Text.trim token))

end Policy

/-! ### Lists in one text -/

/-- The separator of lists in one text. -/
def separator : Char := '|'

/-- The tokens of a list in one text: trimmed, upper-cased, blanks dropped. -/
def tokensOf (s : String) : List String :=
  ((Text.cutAt (· == separator) s.toList).map Text.trimChars |>.filter (· ≠ [])).map
    fun cs => String.ofList (Text.upperChars cs)

/-- The tokens of a list that may be missing. -/
def tokens (s : Option String) : List String :=
  match s with
  | none => []
  | some s => tokensOf s

/-- The token that stands for all verbs or all subjects. -/
def wildcard : String := "*"

/-- The subject of a caller who has not been identified. -/
def anonymous : String := "ANONYMOUS"

/-- The verbs that rules speak about, in their fixed order. -/
def verbs : List String :=
  ["GET", "HEAD", "POST", "PUT", "PATCH", "DELETE", "CONNECT"]

/-! ### Rules -/

/-- One elementary rule. -/
structure Rule where
  policy : Policy
  verb : String
  path : String
  subject : String
deriving DecidableEq, Repr

namespace Rule

/-- The rule with verb and subject in upper case and the path in lower case. -/
def normal (policy : Policy) (verb path subject : String) : Rule :=
  ⟨policy, Text.upper verb, Text.lower path, Text.upper subject⟩

/-- Whether the rule is for all subjects. -/
def isWildcard (r : Rule) : Bool :=
  r.subject = wildcard

/-- The rule in one line. -/
def describe (r : Rule) : String :=
  r.policy.word ++ " " ++ r.verb ++ " " ++ r.path ++ " " ++ r.subject

end Rule

/-! ### Rule sets -/

/-- The rules in force, in order, and the policy where none of them applies. -/
structure RuleSet where
  rules : List Rule := []
  default : Policy := .deny
deriving DecidableEq, Repr

namespace RuleSet

/-- The rule set with further rules at the end. -/
def extend (s : RuleSet) (rules : List Rule) : RuleSet :=
  { s with rules := s.rules ++ rules }

/-- The rule set with another default. -/
def withDefault (s : RuleSet) (policy : Policy) : RuleSet :=
  { s with default := policy }

/-- The rule set without its rules. -/
def cleared (s : RuleSet) : RuleSet :=
  { s with rules := [] }

/-- How many rules there are. -/
def size (s : RuleSet) : Nat :=
  s.rules.length

/-- The paths of the rules, each once, in ascending order. -/
def paths (s : RuleSet) : List String :=
  ((s.rules.map Rule.path).eraseDups).mergeSort fun a b => decide (a ≤ b)

end RuleSet

end RouteAccess
