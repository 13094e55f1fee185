/-
RouteAccess/Token/Signed.lean

Signed tokens: a header, claims and a code, each encoded, with points between
them.  A token is accepted if its header names the expected algorithm, its code
holds under one of the keys of the secret, and its claims pass their checks.
-/
import RouteAccess.Json.Writer
import RouteAccess.Token.Claims
import RouteAccess.Token.Key

namespace RouteAccess

/-! ### What can be wrong -/

/-- Why a token is refused. -/
inductive TokenFault
  | segments
  | headerText
  | headerForm
  | claimsEncoding
  | codeEncoding
  | noAlgorithm
  | otherAlgorithm
  | code
  | claimsText
  | claimsForm
  | claims (fault : ClaimFault)
deriving DecidableEq, Repr

/-- The message about a refused token. -/
def TokenFault.message : TokenFault → String
  | segments => "Not enough segments"
  | headerText => "Invalid header string"
  | headerForm => "Invalid header string: must be a json object"
  | claimsEncoding => "Invalid payload padding"
  | codeEncoding => "Invalid crypto padding"
  | noAlgorithm => "No algorithm was specified in the JWS header."
  | otherAlgorithm => "The specified alg value is not allowed"
  | code => "Signature verification failed."
  | claimsText => "Invalid payload string"
  | claimsForm => "Invalid payload string: must be a json object"
  | claims fault => fault.message

/-- Why there are no claims. -/
inductive TokenStop
  /-- the token is refused -/
  | refused (fault : TokenFault)
  /-- the secret is of no use for codes -/
  | key (fault : KeyFault)
  /-- a time among the claims is no number of any kind -/
  | wrongKind
  /-- a time among the claims is infinite -/
  | infinite
  /-- a part of the token nests deeper than it can be read -/
  | tooDeep
deriving DecidableEq, Repr

/-- How tokens are checked. -/
structure TokenRules where
  secret : String
  algorithm : String := "HS256"
  issuer : Option String := none
  audience : Option String := none

namespace Token

/-! ### Segments -/

/-- The point between segments. -/
def point : UInt8 := 46

/-- A token in its parts. -/
structure Segments where
  header : List UInt8
  claims : List UInt8
  code : List UInt8
  /-- what the code is for: the token up to its last point -/
  signed : List UInt8

/-- The text before the first point and the text after it. -/
def cutFirst (text : List UInt8) : Option (List UInt8 × List UInt8) :=
  match text.dropWhile (· ≠ point) with
  | [] => none
  | _ :: rest => some (text.takeWhile (· ≠ point), rest)

/-- The text before the last point and the text after it. -/
def cutLast (text : List UInt8) : Option (List UInt8 × List UInt8) :=
  match cutFirst text.reverse with
  | none => none
  | some (after, before) => some (before.reverse, after.reverse)

/-- The parts of a token: its last point and its first one count. -/
def segments? (token : List UInt8) : Option Segments := do
  let (signed, code) ← cutLast token
  let (header, claims) ← cutFirst signed
  return ⟨header, claims, code, signed⟩

/-! ### Reading -/

/-- The object that bytes hold as a JSON text. -/
def objectOf (bytes : List UInt8) (text form : TokenFault) :
    Except TokenStop (List (String × Json)) :=
  match String.fromUTF8? ⟨bytes.toArray⟩ with
  | none => .error (.refused text)
  | some s =>
    match Json.read .message s with
    | .ok (.obj fields) => .ok fields
    | .ok _ => .error (.refused form)
    | .error .tooDeep => .error .tooDeep
    | .error _ => .error (.refused text)

/-- Go on with a value that is there. -/
def present {α : Type} (x : Option α) (fault : TokenFault) : Except TokenStop α :=
  match x with
  | some a => .ok a
  | none => .error (.refused fault)

/-- Whether a header names some algorithm; a value that stands for nothing names
none. -/
def namesAlgorithm (alg : Option Json) : Bool :=
  alg.any (!·.isNothing)

/-- Check the code of a token under the keys of a secret. -/
def checkCode (rules : TokenRules) (header : List (String × Json)) (signed code : List UInt8) :
    Except TokenStop Unit :=
  if !namesAlgorithm (header.lookup "alg") then .error (.refused .noAlgorithm)
  else if (header.lookup "alg").bind Json.text? ≠ some rules.algorithm then
    .error (.refused .otherAlgorithm)
  else
    -- the secret is looked at only now, so one of no use stops no other token
    match Secret.candidates rules.secret with
    | .error fault => .error (.key fault)
    | .ok candidates =>
      match Secret.verifies (Secret.KeyUse.ofName? rules.algorithm) signed code candidates with
      | .error fault => .error (.key fault)
      | .ok false => .error (.refused .code)
      | .ok true => .ok ()

/-- The claims of a token whose code holds. -/
def open? (rules : TokenRules) (token : List UInt8) : Except TokenStop Claims := do
  let parts ← present (segments? token) .segments
  let header ← present (Base64.decode parts.header) .segments
  let header ← objectOf header .headerText .headerForm
  let claims ← present (Base64.decode parts.claims) .claimsEncoding
  let code ← present (Base64.decode parts.code) .codeEncoding
  -- the claims are decoded before the code is checked, and read after it
  checkCode rules header parts.signed code
  objectOf claims .claimsText .claimsForm

/-- The claims of a token that is accepted at a second of the clock. -/
def accept (rules : TokenRules) (now : Int) (token : List UInt8) : Except TokenStop Claims := do
  let claims ← open? rules token
  match Claims.validate claims now rules.issuer rules.audience with
  | .ok () => return claims
  | .error (.refused fault) => .error (.refused (.claims fault))
  | .error .wrongKind => .error .wrongKind
  | .error .infinite => .error .infinite

/-! ### Writing -/

/-- The header of the tokens that are issued. -/
def issuedHeader : Json :=
  .obj [("alg", .str "HS256"), ("typ", .str "JWT")]

/-- A JSON value as an encoded segment. -/
def segmentOf (value : Json) : List UInt8 :=
  Base64.encode (value.render .compact).toUTF8.toList

/-- The token for claims, with its code under a key. -/
def issue (key : List UInt8) (claims : Claims) : List UInt8 :=
  let signed := segmentOf issuedHeader ++ point :: segmentOf (.obj claims)
  signed ++ point :: Base64.encode (MacAlgorithm.hs256.code key signed)

end Token

end RouteAccess
