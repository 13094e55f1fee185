/-
RouteAccess/Vault/Basic.lean

The vault of keys: clients, the addresses they may call from, and their keys,
each with a deadline.  A key is valid as long as its deadline is not over by the
clock that it was written for: universal time if its distance from universal time
is known, and local time if it is not.  Whoever asks about a moment of their own is
answered by comparing the two; if only one of them has a known distance, the other
is taken to have the same.
-/
import RouteAccess.Form
import RouteAccess.Json.Reader
import RouteAccess.Time.Clock

namespace RouteAccess

/-! ### Contents -/

/-- A key and the last moment at which it is valid. -/
structure VaultKey where
  secret : String
  deadline : Moment
deriving DecidableEq, Repr

/-- A client with its addresses and keys. -/
structure VaultClient where
  id : String
  name : String
  addresses : List String
  keys : List VaultKey
deriving DecidableEq, Repr

/-- The clients that are known. -/
structure Vault where
  clients : List VaultClient := []
deriving DecidableEq, Repr

/-! ### Validity -/

/-- The deadline as the clock of a given moment shows it: if only one of the two
clocks is known, the deadline is read on the other one. -/
def VaultKey.deadlineFor (k : VaultKey) (moment : Moment) : Moment :=
  if moment.ahead.isNone = k.deadline.ahead.isNone then k.deadline
  else ⟨k.deadline.wall, moment.ahead⟩

/-- Whether a key is valid at a moment. -/
def VaultKey.validAt (k : VaultKey) (moment : Moment) : Bool :=
  moment.instant ≤ (k.deadlineFor moment).instant

/-- Whether a key is valid by the clocks of the machine. -/
def VaultKey.validNow (k : VaultKey) (now : Clock) : Bool :=
  now.IsWithin k.deadline

/-- Whether a key is valid at a moment, or now if none is given. -/
def VaultKey.isValid (k : VaultKey) (now : Clock) : Option Moment → Bool
  | none => k.validNow now
  | some moment => k.validAt moment

/-- The secrets of the valid keys of a client. -/
def VaultClient.validSecrets (c : VaultClient) (now : Clock) (moment : Option Moment) :
    List String :=
  (c.keys.filter (·.isValid now moment)).map VaultKey.secret

/-- The first client of an identifier that may call from an address. -/
def Vault.find? (v : Vault) (id : String) (address : Option String) : Option VaultClient :=
  match address with
  | none => none
  | some a => v.clients.find? fun c => c.id = id && c.addresses.contains a

/-! ### Reading -/

namespace Vault

/-- A deadline. -/
def momentForm (value : Json) : Form Moment :=
  let result := match value with
    | .str s => Moment.ofText s
    | .int n => Moment.ofInt n
    | .float x => Moment.ofFloat x
    | _ => .error .kind
  match result with
  | .ok m => .valid m
  | .error .kind => .fault .notMoment
  | .error .range => .fault .momentRange
  | .error .text => .fault .momentText

/-- A key. -/
def keyForm : Json → Form VaultKey :=
  Form.object fun fields =>
    ((Form.required ["Secret", "secret"] Form.text fields).map VaultKey.mk).ap
      (Form.required ["ValidUntil", "valid_until"] momentForm fields)

/-- A client. -/
def clientForm : Json → Form VaultClient :=
  Form.object fun fields =>
    ((((Form.required ["ClientId", "client_id"] Form.text fields).map VaultClient.mk).ap
      (Form.required ["ClientName", "client_name"] Form.text fields)).ap
      (Form.optional ["IpAddresses", "ip_addresses"] [] (Form.list Form.text) fields)).ap
      (Form.optional ["Keys", "keys"] [] (Form.list keyForm) fields)

/-- A vault. -/
def form : Json → Form Vault :=
  Form.object fun fields =>
    (Form.optional ["ApiKeys", "api_keys"] [] (Form.list clientForm) fields).map Vault.mk

/-- The vault that a text holds. -/
def ofText (text : String) : Form Vault :=
  match Json.read? .document text with
  | some value => form value
  | none => .fault .notJson

end Vault

end RouteAccess
