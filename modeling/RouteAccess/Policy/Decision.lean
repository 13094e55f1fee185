/-
RouteAccess/Policy/Decision.lean

Decisions.  A query meets the rules for its verb, for one of its subjects or
all of them, and with a pattern that its path matches.  Rules for a subject
outrank those for all subjects; within a tier one allowing rule is enough; and
where no rule is met the default policy decides.
-/
import RouteAccess.Pattern.Matching
import RouteAccess.Policy.Rule

namespace RouteAccess

/-- Which rules decided. -/
inductive Tier
  | individual
  | wildcard
  | default
deriving DecidableEq, Repr

/-- The word for a tier. -/
def Tier.word : Tier → String
  | individual => "individual"
  | wildcard => "wildcard"
  | default => "default"

/-- Why a decision is as it is. -/
inductive Reason
  | noVerb
  | noRule
  | individualRules
  | wildcardRules
deriving DecidableEq, Repr

/-- A reason in words. -/
def Reason.text : Reason → String
  | noVerb => "Empty verb"
  | noRule => "No rule matched, default policy applied"
  | individualRules => "Subject-specific rules matched"
  | wildcardRules => "Wildcard rules matched"

/-- The answer to a query. -/
structure Decision where
  granted : Bool
  reason : Reason
  tier : Tier
  matched : List Rule
deriving DecidableEq, Repr

/-- Whether a rule speaks about a query with an upper-cased verb, a lower-cased
path and the tokens of its subjects. -/
def Rule.meets (verb path : String) (subjects : List String) (r : Rule) : Bool :=
  r.verb = verb && (r.isWildcard || subjects.contains r.subject) && Pattern.isMatch r.path path

namespace RuleSet

/-- The rules that speak about a query. -/
def meeting (s : RuleSet) (verb path : String) (subjects : List String) : List Rule :=
  s.rules.filter (Rule.meets verb path subjects)

/-- Whether one of the rules allows. -/
def anyAllows (rules : List Rule) : Bool :=
  rules.any (·.policy = .allow)

/-- The decision from the rules that speak about a query. -/
def decideBy (default : Policy) (met : List Rule) : Decision :=
  let individual := met.filter (!·.isWildcard)
  let wild := met.filter (·.isWildcard)
  if individual ≠ [] then ⟨anyAllows individual, .individualRules, .individual, individual⟩
  else if wild ≠ [] then ⟨anyAllows wild, .wildcardRules, .wildcard, wild⟩
  else ⟨default = .allow, .noRule, .default, []⟩

/-- The decision about a query; a query without a verb is denied. -/
def evaluate (s : RuleSet) (verb path subjects : Option String) : Decision :=
  let verb := verb.getD ""
  -- a path may be missing, a verb may not
  if verb = "" then ⟨false, .noVerb, .default, []⟩
  else
    decideBy s.default
      (s.meeting (Text.upper verb) (Text.lower (path.getD "")) (tokens subjects))

end RuleSet

end RouteAccess
