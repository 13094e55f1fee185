/-
RouteAccess/Settings/Basic.lean

The settings of a service, and the form of values that set them.  All but the
name and the port of the service have defaults; fields that are no settings are
kept beside them.
-/
import RouteAccess.Form.Scalar

namespace RouteAccess

/-- The settings of a service. -/
structure Settings where
  env : String
  logLevel : String
  accessFile : String
  apiKeysFile : String
  guardedPath : String
  guardManagement : Bool
  anonymousSubject : String
  jwtSecret : Option String
  jwtIssuer : Option String
  jwtAudience : Option String
  jwtAlgorithm : String
  jwtRoleClaim : String
  serviceName : String
  port : Int
  host : String
  extra : List (String × Json)

namespace Settings

/-- The names of the settings. -/
def names : List String :=
  ["env", "log_level", "access_file", "api_keys_file", "guarded_path", "guard_management",
    "anonymous_subject", "jwt_secret", "jwt_issuer", "jwt_audience", "jwt_algorithm",
    "jwt_role_claim", "service_name", "port", "host"]

/-- The fields that are no settings. -/
def others (fields : List (String × Json)) : List (String × Json) :=
  fields.filter fun f => !names.contains f.1

/-- The settings that fields give; what is wrong comes in the order of the
settings. -/
def form (fields : List (String × Json)) : Form Settings :=
  let text (name default : String) := Form.optional [name] default Form.text fields
  let textOrNull (name : String) := Form.optional [name] none Form.textOrNull fields
  ((Form.valid Settings.mk).ap (text "env" "local")
    |>.ap (text "log_level" "info")
    |>.ap (text "access_file" "access.json")
    |>.ap (text "api_keys_file" "apikeys.json")
    |>.ap (text "guarded_path" "/api")
    |>.ap (Form.optional ["guard_management"] true Form.flag fields)
    |>.ap (text "anonymous_subject" "ANONYMOUS")
    |>.ap (textOrNull "jwt_secret")
    |>.ap (textOrNull "jwt_issuer")
    |>.ap (textOrNull "jwt_audience")
    |>.ap (text "jwt_algorithm" "HS256")
    |>.ap (text "jwt_role_claim" "rol")
    |>.ap (Form.required ["service_name"] Form.text fields)
    |>.ap (Form.required ["port"] Form.whole fields)
    |>.ap (text "host" "0.0.0.0")).map fun settings => settings (others fields)

/-- The settings as fields. -/
def fields (s : Settings) : List (String × Json) :=
  [("env", .str s.env), ("log_level", .str s.logLevel), ("access_file", .str s.accessFile),
    ("api_keys_file", .str s.apiKeysFile), ("guarded_path", .str s.guardedPath),
    ("guard_management", .bool s.guardManagement),
    ("anonymous_subject", .str s.anonymousSubject), ("jwt_secret", .ofText? s.jwtSecret),
    ("jwt_issuer", .ofText? s.jwtIssuer), ("jwt_audience", .ofText? s.jwtAudience),
    ("jwt_algorithm", .str s.jwtAlgorithm), ("jwt_role_claim", .str s.jwtRoleClaim),
    ("service_name", .str s.serviceName), ("port", .int s.port), ("host", .str s.host)] ++ s.extra

/-- Whether the service runs on the machine of its developer. -/
def isLocal (s : Settings) : Bool :=
  s.env = "local"

end Settings

end RouteAccess
