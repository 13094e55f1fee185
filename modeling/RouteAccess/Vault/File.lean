/-
RouteAccess/Vault/File.lean

Reading the vault from a file.  A file that cannot be read, or that holds no
vault, gives an empty vault and a notice; bytes that are no UTF-8, and a name
with a null character, stop the reading.
-/
import RouteAccess.Event
import RouteAccess.FileStore
import RouteAccess.Vault.Basic

namespace RouteAccess

/-- Why a vault cannot be read at all. -/
inductive VaultStop
  | undecodable
  | nullCharacter
deriving DecidableEq, Repr

/-- What is logged about a file that gives no vault. -/
def Vault.problem (name : String) : Event :=
  ⟨"guardian.api_key_resolver", .error, "Problems reading API key vault",
    [("api_keys_file", .str name)]⟩

/-- The vault of a file. -/
def Vault.ofFile (store : FileStore) (name : String) : Except VaultStop (Vault × List Event) :=
  match store.resolve name with
  | .ok (.file content) =>
    match String.fromUTF8? content with
    | none => .error .undecodable
    | some text =>
      match Vault.ofText text with
      | .valid v => .ok (v, [])
      | .faulty _ => .ok ({}, [Vault.problem name])
  | .error .nullCharacter => .error .nullCharacter
  | _ => .ok ({}, [Vault.problem name])

end RouteAccess
