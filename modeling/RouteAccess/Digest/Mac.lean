/-
RouteAccess/Digest/Mac.lean

Message authentication codes from a digest and a key: the digest of the key and
of the digest of the key and the message, each time with the key masked in
another way.
-/
import RouteAccess.Digest.Sha2

namespace RouteAccess

/-- The digests that codes are made with. -/
inductive MacAlgorithm
  | hs256
  | hs384
  | hs512
deriving DecidableEq, Repr

namespace MacAlgorithm

/-- The name of an algorithm. -/
def name : MacAlgorithm → String
  | hs256 => "HS256"
  | hs384 => "HS384"
  | hs512 => "HS512"

/-- The algorithm of a name. -/
def ofName? (s : String) : Option MacAlgorithm :=
  if s = "HS256" then some hs256
  else if s = "HS384" then some hs384
  else if s = "HS512" then some hs512
  else none

/-- The digest of an algorithm. -/
def digest : MacAlgorithm → List UInt8 → List UInt8
  | hs256 => Sha2.sha256.digest
  | hs384 => Sha2.sha384.digest
  | hs512 => Sha2.sha512.digest

/-- Bytes in a block of the digest. -/
def blockBytes : MacAlgorithm → Nat
  | hs256 => Sha2.sha256.blockBytes
  | hs384 => Sha2.sha384.blockBytes
  | hs512 => Sha2.sha512.blockBytes

/-- The key filled up to one block; a longer key is replaced by its digest. -/
def blockKey (m : MacAlgorithm) (key : List UInt8) : List UInt8 :=
  let key := if m.blockBytes < key.length then m.digest key else key
  key ++ List.replicate (m.blockBytes - key.length) 0

/-- The code of a message under a key. -/
def code (m : MacAlgorithm) (key message : List UInt8) : List UInt8 :=
  let key := m.blockKey key
  let inner := m.digest (key.map (· ^^^ 0x36) ++ message)
  m.digest (key.map (· ^^^ 0x5C) ++ inner)

end MacAlgorithm

end RouteAccess
