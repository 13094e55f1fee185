/-
RouteAccess/Token/Claims.lean

The checks that the claims of a token must pass, in a fixed order: when it was
issued, from when and until when it holds, for whom and by whom it was issued,
and the form of the remaining registered claims.
-/
import RouteAccess.Json.Value
import RouteAccess.Number.Whole

namespace RouteAccess

/-- The claims of a token. -/
abbrev Claims := List (String × Json)

/-! ### What can be wrong -/

/-- Why claims are refused. -/
inductive ClaimFault
  | issuedAt
  | notBefore
  | notYet
  | expiration
  | expired
  | audienceForm
  | audience
  | issuer
  | subject
  | identifier
  | accessToken
deriving DecidableEq, Repr

/-- The message about refused claims. -/
def ClaimFault.message : ClaimFault → String
  | issuedAt => "Issued At claim (iat) must be an integer."
  | notBefore => "Not Before claim (nbf) must be an integer."
  | notYet => "The token is not yet valid (nbf)"
  | expiration => "Expiration Time claim (exp) must be an integer."
  | expired => "Signature has expired."
  | audienceForm => "Invalid claim format in token"
  | audience => "Invalid audience"
  | issuer => "Invalid issuer"
  | subject => "Subject must be a string."
  | identifier => "JWT ID must be a string."
  | accessToken => "No access_token provided to compare against at_hash claim."

/-- Why a claim cannot be checked at all. -/
inductive ClaimStop
  /-- the claims are refused -/
  | refused (fault : ClaimFault)
  /-- a time that is no number of any kind -/
  | wrongKind
  /-- a time that is infinite -/
  | infinite
deriving DecidableEq, Repr

namespace Claims

/-! ### Times -/

/-- The whole number that a value gives: a fraction is dropped, a truth value
counts as zero or one, and a text is read. -/
def wholeOf (fault : ClaimFault) : Json → Except ClaimStop Int
  | .int n => .ok n
  | .bool b => .ok (if b then 1 else 0)
  | .float x =>
    match x.truncate? with
    | some n => .ok n
    | none => match x with
      | .nan => .error (.refused fault)
      | _ => .error .infinite
  | .str s =>
    match Whole.parse? s with
    | some n => .ok n
    | none => .error (.refused fault)
  | _ => .error .wrongKind

/-- A check of a claim that may be missing. -/
def check (claims : Claims) (name : String) (test : Json → Except ClaimStop Unit) :
    Except ClaimStop Unit :=
  match claims.lookup name with
  | none => .ok ()
  | some value => test value

/-- Go on if a condition holds. -/
def require (condition : Bool) (fault : ClaimFault) : Except ClaimStop Unit :=
  if condition then .ok () else .error (.refused fault)

/-! ### The checks -/

/-- The texts of an audience: one text, or a list of texts. -/
def audiences? : Json → Option (List String)
  | .str s => some [s]
  | .arr items => items.mapM Json.text?
  | _ => none

/-- The audience, if it counts: it has to name the expected one. -/
def checkAudience (claims : Claims) (expected : String) : Except ClaimStop Unit :=
  check claims "aud" fun value =>
    match audiences? value with
    | none => .error (.refused .audienceForm)
    | some names => require (names.contains expected) .audience

/-- All checks at a second of the clock, for an expected issuer and audience. -/
def validate (claims : Claims) (now : Int) (issuer audience : Option String) :
    Except ClaimStop Unit := do
  check claims "iat" fun value => do
    let _ ← wholeOf .issuedAt value
  check claims "nbf" fun value => do
    let start ← wholeOf .notBefore value
    require (start ≤ now) .notYet
  check claims "exp" fun value => do
    let stop ← wholeOf .expiration value
    require (now ≤ stop) .expired
  -- an audience that is missing is no fault, an issuer that is missing is one
  match audience with
  | none => .ok ()
  | some expected => checkAudience claims expected
  match issuer with
  | none => .ok ()
  | some expected =>
    require (((claims.lookup "iss").bind Json.text?) = some expected) .issuer
  check claims "sub" fun value => require value.text?.isSome .subject
  check claims "jti" fun value => require value.text?.isSome .identifier
  check claims "at_hash" fun _ => .error (.refused .accessToken)

end Claims

end RouteAccess
