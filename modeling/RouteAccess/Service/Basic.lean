/-
RouteAccess/Service/Basic.lean

A service: its settings, what it has measured, and, if it decides about access,
its desk: the guardian with the rules in force and the guard before the
application.
-/
import RouteAccess.Guard
import RouteAccess.Http.Reply
import RouteAccess.Http.Route
import RouteAccess.Log.Level
import RouteAccess.Settings.Basic
import RouteAccess.Vault.File

namespace RouteAccess

/-- The part of a service that decides about access. -/
structure Desk where
  guardian : Guardian
  guard : Guard

/-- A service. -/
structure Service where
  name : String
  settings : Settings
  metrics : Metrics
  desk : Option Desk

/-- Why a service cannot be started. -/
inductive StartFault
  | level (fault : LevelFault)
  | path (fault : PathFault)
  | vault (stop : VaultStop)
  | token (fault : Fault)

namespace Service

/-! ### Where requests lead -/

/-- What a service can be asked for. -/
inductive Endpoint
  /-- pages about the service itself -/
  | page
  | health
  | metrics
  | root
  | check
  | rules
  | reload
deriving DecidableEq, Repr

/-- The pages about the service; most of them only on the machine of its
developer. -/
def pages (s : Service) : List (Route Endpoint) :=
  let paths :=
    "/openapi.json" ::
      (if s.settings.isLocal then ["/docs", "/docs/oauth2-redirect", "/redoc"] else [])
  paths.map fun path => ⟨path, ["GET", "HEAD"], .page⟩

/-- What every service can be asked for. -/
def commonRoutes : List (Route Endpoint) :=
  [⟨"/health", ["GET"], .health⟩, ⟨"/metrics", ["GET"], .metrics⟩]

/-- What a service that decides about access can be asked for. -/
def deskRoutes : List (Route Endpoint) :=
  [⟨"/", ["GET"], .root⟩, ⟨"/guardian/check", ["POST"], .check⟩,
    ⟨"/guardian/rules", ["GET"], .rules⟩, ⟨"/guardian/reload", ["POST"], .reload⟩]

/-- All routes of a service. -/
def routes (s : Service) : List (Route Endpoint) :=
  s.pages ++ commonRoutes ++ (if s.desk.isSome then deskRoutes else [])

/-- The paths by which the rules are managed. -/
def managementPaths : List String := ["/guardian/rules", "/guardian/reload"]

/-! ### About a service -/

/-- The title of a service. -/
def title (s : Service) : String :=
  Text.title s.name ++ " Service"

/-- What a service is, in one line. -/
def description (s : Service) : String :=
  "Route Guardian - " ++ s.title

/-- The names of the resolvers of a service. -/
def resolverNames (s : Service) : List String :=
  match s.desk with
  | some desk => desk.guard.resolvers.map Resolver.name
  | none => []

/-! ### Starting -/

/-- The name of the service that decides about access. -/
def deskName : String := "guardian"

/-- A service that decides about nothing. -/
def bare (name : String) (settings : Settings) : Except StartFault Service :=
  match logLevel settings.logLevel with
  | .error e => .error (.level e)
  | .ok _ => .ok ⟨name, settings, { service := name }, none⟩

/-- The resolver for tokens, if there is a secret. -/
def tokenResolver (settings : Settings) : Except StartFault (List Resolver) :=
  match settings.jwtSecret with
  | none => .ok []
  | some secret =>
    if secret = "" then .ok []
    else
      match TokenResolver.create
          { secret := secret, algorithm := settings.jwtAlgorithm, issuer := settings.jwtIssuer,
            audience := settings.jwtAudience }
          settings.jwtRoleClaim none with
      | .ok r => .ok [.token r]
      | .error f => .error (.token f)

/-- The resolver for keys, if there is a file of them. -/
def vaultResolver (store : FileStore) (settings : Settings) :
    Except StartFault (List Resolver × List Event) :=
  match store.isFile settings.apiKeysFile with
  | .error e => .error (.path e)
  | .ok false => .ok ([], [])
  | .ok true =>
    match Vault.ofFile store settings.apiKeysFile with
    | .ok (vault, events) => .ok ([.vault vault], events)
    | .error stop => .error (.vault stop)

/-- The guardian of a service: with these rules, or with those of its access
file. -/
def guardianFor (store : FileStore) (settings : Settings) :
    Option RuleSet → Except StartFault (Guardian × List Event)
  | some rules =>
    .ok ({ accessFile := none, current := ⟨0, rules⟩ }, [])
  | none =>
    match Guardian.create store (some settings.accessFile) {} with
    | .ok (g, notices) => .ok (g, notices.map LoadNotice.event)
    | .error e => .error (.path e)

/-- The prefixes that the guard looks at. -/
def guardedPrefixes (settings : Settings) : List String :=
  settings.guardedPath :: (if settings.guardManagement then managementPaths else [])

/-- A service that decides about access, and what is logged at its start. -/
def start (store : FileStore) (settings : Settings) (rules : Option RuleSet) :
    Except StartFault (Service × List Event) := do
  let service ← bare deskName settings
  let (guardian, loaded) ← guardianFor store settings rules
  let tokens ← tokenResolver settings
  let (keys, problems) ← vaultResolver store settings
  let resolvers := tokens ++ keys
  let ready : Event :=
    ⟨deskName, .info, "Subject resolvers configured",
      [("resolvers", .ofTexts (resolvers.map Resolver.name))]⟩
  let desk : Desk := ⟨guardian, ⟨guardedPrefixes settings, resolvers⟩⟩
  return ({ service with desk := some desk }, loaded ++ problems ++ [ready])

end Service

end RouteAccess
