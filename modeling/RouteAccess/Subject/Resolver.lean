/-
RouteAccess/Subject/Resolver.lean

Resolvers find out who sends a request.  There are three kinds: one that always
gives the same subjects, one that reads the roles of a signed token, and one
that looks up an identifier and a key in the vault; and an application may bring
resolvers of its own.  No subjects at all mean that the request carries no
identity of this kind; an empty text means an identity without roles.
-/
import RouteAccess.Event
import RouteAccess.Fault
import RouteAccess.Http.Request
import RouteAccess.Json.Display
import RouteAccess.Subject.List
import RouteAccess.Token.Signed
import RouteAccess.Vault.Basic

namespace RouteAccess

/-! ### Resolutions -/

/-- What a resolver finds out, what is logged, and who was looked up. -/
structure Resolution where
  subjects : Option String
  events : List Event := []
  lookups : List String := []

/-- No identity, and nothing to say about it. -/
def Resolution.nobody : Resolution := ⟨none, [], []⟩

/-- Why a resolver comes to a stop. -/
inductive ResolverStop
  /-- a token that cannot be judged -/
  | token (stop : TokenStop)
  /-- an error of the application, in its search for further roles or in a
  resolver of its own -/
  | application (error : String)

/-! ### Searching for further roles -/

/-- What a search for further roles comes to, once it is over. -/
inductive LookupResult
  /-- a value of those that can be written down -/
  | found (value : Json)
  /-- another value, which can be cut at separators as texts can: its parts, up
  to where cutting it fails, if it does -/
  | cut (parts : List String) (failure : Option String)
  /-- an error, and its text -/
  | failed (message : String)
  /-- an error that is not held up: one that ends the whole task, one of which no
  text can be made, or the one that comes of parts that are no texts -/
  | brokeOff (error : String)

/-- What a search has added: roles, what is logged, and who was looked up. -/
structure Findings where
  roles : List String := []
  events : List Event := []
  lookups : List String := []

/-! ### Roles of a token -/

/-- How the roles of a token are found. -/
structure TokenResolver where
  rules : TokenRules
  roleClaim : String := "rol"
  /-- the search for further roles of a user, if there is one -/
  lookup : Option (String → LookupResult) := none

namespace TokenResolver

/-- The name under which token resolvers report. -/
def logger : String := "guardian.jwt_resolver"

/-- What stands before a token in a header. -/
def bearer : List Char := "Bearer ".toList

/-- The role that asks for a search for further roles. -/
def lookupRole : String := "DB^"

/-- The text without the word before the token, if it has it. -/
def stripBearer (s : String) : String :=
  if bearer.isPrefixOf s.toList then String.ofList (s.toList.drop bearer.length) else s

/-- The fault of a resolver without a secret. -/
def noSecret : Fault :=
  .ofKind .authentication "JWT secret is not configured" []

/-- The fault of a token that is refused. -/
def refusal (fault : TokenFault) : Fault :=
  .ofKind .authentication "JWT validation failed" [("error", .str fault.message)]

/-- A resolver; its secret must not be empty. -/
def create (rules : TokenRules) (roleClaim : String) (lookup : Option (String → LookupResult)) :
    Except Fault TokenResolver :=
  if rules.secret = "" then .error noSecret else .ok ⟨rules, roleClaim, lookup⟩

/-- The claims of a token, with or without the word before it. -/
def claims (r : TokenResolver) (now : Int) (token : String) : Except TokenStop Claims :=
  Token.accept r.rules (Moment.second now) (stripBearer token).toUTF8.toList

/-- The roles among claims: the parts of a text, or the items of a list as
texts.  A claim of another kind gives no roles. -/
def roles (r : TokenResolver) (claims : Claims) : List String × List Event :=
  match claims.lookup r.roleClaim with
  | none => ([], [])
  | some .null => ([], [])
  | some (.str s) => (((Text.fields separator s).map Text.trim).filter (· ≠ ""), [])
  | some (.arr items) => ((items.filter (!·.isNull)).map Json.plain, [])
  | some value =>
    ([], [⟨logger, .warning, "Ignoring role claim of unexpected type",
      [("claim", .str r.roleClaim), ("type", .str value.kindName)]⟩])

/-- The user whom claims are about. -/
def user (claims : Claims) : Json :=
  (claims.lookup "sub").getD (.str "")

/-- The identifier that is searched for. -/
def searchedId (claims : Claims) : String :=
  ((user claims).text?).getD ""

/-- What a search for a user has added, and the text of the error that held it up,
if one did; the roles that were there before stay. -/
def findings (id : String) (roles : List String) (failure : Option String) : Findings :=
  let failed := failure.map fun message => Event.mk logger .error "Role lookup failed, continuing"
    [("user_id", .str id), ("error", .str message)]
  ⟨roles, failed.toList, [id]⟩

/-- What the search for a user has added, by what it came to. -/
def findingsOf (id : String) : LookupResult → Except ResolverStop Findings
  | .found value =>
    if value.isNothing then .ok (findings id [] none)
    else match value with
      | .str s => .ok (findings id (Text.fields separator s) none)
      | value =>
        .ok (findings id [] (some ("'" ++ value.kindName ++ "' object has no attribute 'split'")))
  | .cut parts failure => .ok (findings id parts failure)
  | .failed message => .ok (findings id [] (some message))
  | .brokeOff error => .error (.application error)

/-- What is searched for on account of the roles of claims. -/
def search (r : TokenResolver) (claims : Claims) : Except ResolverStop Findings :=
  match r.lookup with
  | none => .ok {}
  | some lookup =>
    if (r.roles claims).1.contains lookupRole then
      findingsOf (searchedId claims) (lookup (searchedId claims))
    else .ok {}

/-- Who the bearer of a token is, with what a search has added. -/
def resolution (r : TokenResolver) (claims : Claims) (found : Findings) : Resolution :=
  let (roles, ignored) := r.roles claims
  let subjects := Subject.join (((roles ++ found.roles).filter (· ≠ lookupRole)).map some)
  let done : Event :=
    ⟨logger, .debug, "Request authenticated with JWT",
      [("user_id", (claims.lookup "sub").getD .null),
        ("username", (claims.lookup "name").getD .null), ("subjects", .str subjects)]⟩
  ⟨some subjects, ignored ++ found.events ++ [done], found.lookups⟩

/-- Who the bearer of a token is, unless the search breaks off. -/
def identify (r : TokenResolver) (claims : Claims) : Except ResolverStop Resolution :=
  (r.search claims).map (r.resolution claims)

/-- Who sends a request, by its token.  A secret of no use, a time of no use among
the claims, and a search that breaks off stop the resolver. -/
def resolve (r : TokenResolver) (now : Int) (request : Request) :
    Except ResolverStop Resolution :=
  match request.header? "Authorization" with
  | none => .ok .nobody
  | some header =>
    if !bearer.isPrefixOf header.toList then .ok .nobody
    else match r.claims now header with
      | .ok claims => r.identify claims
      -- a token that is refused leaves no identity; whatever else goes wrong stops the resolver
      | .error (.refused fault) =>
        let f := refusal fault
        .ok ⟨none, [⟨logger, .warning, "JWT authentication failed",
          [("error", .str f.message), ("details", .obj f.details)]⟩], []⟩
      | .error stop => .error (.token stop)

end TokenResolver

/-! ### Keys of the vault -/

namespace Vault

/-- The name under which key resolvers report. -/
def logger : String := "guardian.api_key_resolver"

/-- A notice about the client of a request. -/
def notice (name : String) (request : Request) (id : String) : Event :=
  ⟨logger, .warning, name,
    [("method", .str request.method), ("path", .str request.seenPath), ("client_id", .str id),
      ("ip", .ofText? request.peer)]⟩

/-- Who sends a request, by its identifier and key. -/
def resolve (v : Vault) (now : Clock) (request : Request) : Resolution :=
  match request.header? "x-client-id" with
  | none => .nobody
  | some id =>
    if id = "" then .nobody
    else if v.clients = [] then
      ⟨none, [⟨logger, .error, "No API keys found, key vault is empty", []⟩], []⟩
    else
      -- the client is found by identifier and address alone, whatever keys it has
      let secrets := ((v.find? id request.peer).map (·.validSecrets now none)).getD []
      match v.find? id request.peer with
      | none => ⟨none, [notice "No valid API key for client" request id], []⟩
      | some client =>
        if secrets = [] then ⟨none, [notice "No valid API key for client" request id], []⟩
        else match request.header? "x-client-key" with
          | some key =>
            if secrets.contains key then ⟨some (Subject.join [some client.name]), [], []⟩
            else ⟨none, [notice "Invalid API key for client" request id], []⟩
          | none => ⟨none, [notice "Invalid API key for client" request id], []⟩

end Vault

/-! ### All kinds -/

/-- A resolver of one of the three kinds, or one of the application's own. -/
inductive Resolver
  | fixed (subjects : Option String)
  | token (r : TokenResolver)
  | vault (v : Vault)
  | own (name : String) (find : Clock → Request → Except ResolverStop Resolution)

namespace Resolver

/-- The name of the kind. -/
def name : Resolver → String
  | fixed _ => "static"
  | token _ => "jwt"
  | vault _ => "api_key"
  | own name _ => name

/-- Who sends a request. -/
def resolve (r : Resolver) (now : Clock) (request : Request) :
    Except ResolverStop Resolution :=
  match r with
  | fixed subjects => .ok ⟨subjects, [], []⟩
  | token t => t.resolve now.instant request
  | vault v => .ok (v.resolve now request)
  | own _ find => find now request

end Resolver

end RouteAccess
