/-
RouteAccess/Fixture.lean

Data to try a service with: users, an access document, a vault with one client,
documents in files, and signed tokens for users.
-/
import RouteAccess.FileStore
import RouteAccess.Json.Writer
import RouteAccess.Policy.Rule
import RouteAccess.Time.Clock
import RouteAccess.Token.Signed

namespace RouteAccess

/-- A user with roles. -/
structure User where
  id : String
  name : String
  roles : List String
deriving DecidableEq, Repr

namespace Fixture

/-! ### Documents -/

/-- Users with one role, with several, and with one that asks for a search. -/
def users : List User :=
  [⟨"user1", "john.doe", ["client"]⟩, ⟨"user2", "jane.smith", ["admin", "prod"]⟩,
    ⟨"user3", "lookup.user", ["client", "DB^"]⟩]

/-- Statements about a path and a part of it. -/
def statements : List Json :=
  [.str "allow * /admin ADMIN|PROD", .str "deny  * /admin/part2 *",
    .str "allow * /admin/part2 ADMIN"]

/-- An access document. -/
def accessDocument (default : Json) (rules : Option (List Json)) : Json :=
  .obj [("default", default), ("rules", .arr (rules.getD statements))]

/-- A vault with one client and one key, which holds for another thirty days or
no longer since yesterday, by local time.  There is none where no date is left for
the key. -/
def vaultDocument (now : Clock) (address : Json) (expired : Bool) : Option Json :=
  let days : Int := if expired then -1 else 30
  let deadline : Moment := ⟨now.wall + days * Moment.perDay * Moment.perSecond, none⟩
  if !deadline.hasDate then none
  else some (.obj [("ApiKeys", .arr [.obj
    [("ClientId", .str "reporting"), ("ClientName", .str "Reporting"),
      ("IpAddresses", .arr [address]),
      ("Keys", .arr [.obj
        [("Secret", .str "reporting-key"), ("ValidUntil", .str deadline.text)]])]])])

/-! ### Files -/

/-- The bytes that a document is written as. -/
def bytes (document : Json) : ByteArray :=
  (document.render .spaced).toUTF8

/-- The files after a document was written to one of them, if it can be. -/
def writeDocument? (store : FileStore) (name : String) (document : Json) : Option FileStore :=
  store.write? name (bytes document)

/-! ### Tokens -/

/-- Why no token can be made. -/
inductive MakerFault
  /-- a number with more digits than are written -/
  | tooManyDigits
  /-- no key can be made of the secret -/
  | key (fault : KeyFault)
deriving DecidableEq, Repr

/-- What tokens are signed with, and what they say about their origin. -/
structure TokenMaker where
  secret : String := "mock-secret"
  issuer : Option String := none
  audience : Option String := none
  roleClaim : String := "rol"

namespace TokenMaker

/-- Claims with a text, unless it is empty. -/
def addText (claims : Claims) (name : String) : Option String → Claims
  | none => claims
  | some s => if s = "" then claims else Json.put claims name (.str s)

/-- The claims about a user, which hold for `lifetime` seconds. -/
def claims (m : TokenMaker) (now : Int) (user : User) (lifetime : Int) : Claims :=
  let second := Int.tdiv now Moment.perSecond
  let claims : Claims :=
    [("sub", .str user.id), ("name", .str user.name), ("iat", .int second),
      ("exp", .int (second + lifetime))]
  let roles := String.intercalate (String.singleton separator) user.roles
  addText (addText (Json.put claims m.roleClaim (.str roles)) "iss" m.issuer) "aud" m.audience

/-- Whether a value is a number with more digits than are written. -/
def isLong : Json → Bool
  | .int n => decide (Json.maxDigits < (Nat.toDigits 10 n.natAbs).length)
  | _ => false

/-- The header of a request that carries a token for a user. -/
def header (m : TokenMaker) (now : Int) (user : User) (lifetime : Int) :
    Except MakerFault String :=
  let claims := m.claims now user lifetime
  if claims.any fun claim => isLong claim.2 then .error .tooManyDigits
  else match Secret.ofLetters m.secret with
    | .error fault => .error (.key fault)
    | .ok key =>
      let token := Token.issue key claims
      .ok ("Bearer " ++ String.ofList (token.map fun b => Char.ofNat b.toNat))

end TokenMaker

end Fixture

end RouteAccess
