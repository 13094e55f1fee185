/-
RouteAccess/Token/Key.lean

The keys that a secret stands for.  A secret that is itself a JSON text stands
for its contents: a text for itself, a list for its items, an object for the
key it describes, for the keys it lists under `keys`, or else for its values.
Every other secret is one key, letter by letter.

A key for codes that looks like half of a key pair is refused: such a half may be
public, and codes under it would prove nothing.  Keys for other uses only have to
be of the kind and length that the algorithm asks for; nothing is a code under
them.
-/
import RouteAccess.Digest.Mac
import RouteAccess.Json.Reader
import RouteAccess.Text.Base64
import RouteAccess.Text.Blank

namespace RouteAccess

/-! ### What can be wrong -/

/-- Why no key can be made of a secret. -/
inductive KeyFault
  /-- a key that the algorithm cannot use -/
  | unusable
  /-- a value that is neither a text nor anything with a length -/
  | wrongKind
  /-- a text with half of a pair of surrogates, which no bytes stand for -/
  | noBytes
  /-- a list of keys that is no list -/
  | noList
  /-- a described key without its letters -/
  | noLetters
  /-- a described key whose letters are no encoded bytes -/
  | badLetters
deriving DecidableEq, Repr

namespace Secret

/-! ### Halves of key pairs -/

/-- What may stand between the dashes of a key in its armour. -/
def armourTitles : List String :=
  ["CERTIFICATE", "TRUSTED CERTIFICATE", "PRIVATE KEY", "PUBLIC KEY", "ENCRYPTED PRIVATE KEY",
   "OPENSSH PRIVATE KEY", "DSA PRIVATE KEY", "RSA PRIVATE KEY", "RSA PUBLIC KEY",
   "EC PRIVATE KEY", "DH PARAMETERS", "NEW CERTIFICATE REQUEST", "CERTIFICATE REQUEST",
   "SSH2 PUBLIC KEY", "SSH2 ENCRYPTED PRIVATE KEY", "X509 CRL"]

/-- The names of the formats of public keys for secure shells. -/
def shellFormats : List String :=
  ["ssh-ed25519", "ssh-rsa", "ssh-dss", "ecdsa-sha2-nistp256", "ecdsa-sha2-nistp384",
   "ecdsa-sha2-nistp521"]

/-- How the name of a format of certificates for secure shells ends. -/
def certificateEnding : String := "-cert-v01@openssh.com"

/-- Whether the first text occurs in the second. -/
def occurs (part : List Char) : List Char → Bool
  | [] => part.isEmpty
  | c :: rest => part.isPrefixOf (c :: rest) || occurs part rest

/-- The first lines of armour, with a dash or a space in two places. -/
def armourLines : List (List Char) :=
  armourTitles.flatMap fun title =>
    [('-', '-'), ('-', ' '), (' ', '-'), (' ', ' ')].map fun (a, b) =>
      "----".toList ++ a :: "BEGIN ".toList ++ title.toList ++ b :: "----".toList

/-- Whether a text contains the first line of an armour. -/
def isArmoured (cs : List Char) : Bool :=
  armourLines.any (occurs · cs)

/-- Whether a character is blank in a text of single bytes. -/
def isByteBlank (c : Char) : Bool :=
  c = ' ' || (0x09 ≤ c.toNat && c.toNat ≤ 0x0D)

/-- Whether a text is the line of a public key for secure shells. -/
def isShellKey (cs : List Char) : Bool :=
  shellFormats.any (fun f => occurs f.toList cs) ||
    (let first := cs.takeWhile (!isByteBlank ·)
     let rest := cs.dropWhile (!isByteBlank ·)
     let gap := rest.takeWhile fun c => c = ' ' || c = '\t'
     let second := (rest.drop gap.length).takeWhile (!isByteBlank ·)
     gap ≠ [] && second ≠ [] && certificateEnding.toList.isSuffixOf first)

/-! ### Keys -/

/-- What a key is made of. -/
inductive Source
  /-- the letters of the secret -/
  | letters (s : String)
  /-- a value in the JSON text that the secret is -/
  | value (v : Json)

/-- The key that letters are. -/
def ofLetters (s : String) : Except KeyFault (List UInt8) :=
  if isArmoured s.toList || isShellKey s.toList then .error .unusable else .ok s.toUTF8.toList

/-- The bytes of a text among values. -/
def bytesOf (s : String) : Except KeyFault (List UInt8) :=
  if Surrogate.hasHalf s then .error .noBytes else .ok s.toUTF8.toList

/-- The key that an object describes: of the kind `oct`, with letters that are
encoded bytes. -/
def ofDescription (fields : List (String × Json)) : Except KeyFault (List UInt8) :=
  match fields.lookup "kty" with
  | some (.str "oct") =>
    match fields.lookup "k" with
    | some (.str letters) => do
      match Base64.decode (← bytesOf letters) with
      | some key => .ok key
      | none => .error .badLetters
    | _ => .error .noLetters
  | _ => .error .unusable

/-- The key that is made of a source. -/
def keyOf : Source → Except KeyFault (List UInt8)
  | .letters s => ofLetters s
  | .value (.str s) => do
    let _ ← bytesOf s
    ofLetters s
  | .value (.obj fields) => ofDescription fields
  | .value _ => .error .unusable

/-- The items of a value that should be a list of keys: a text stands for its
letters, and an object for its names. -/
def listed : Json → Except KeyFault (List Json)
  | .arr items => .ok items
  | .str s => .ok (s.toList.map fun c => .str (String.singleton c))
  | .obj fields => .ok (fields.map fun f => .str f.1)
  | _ => .error .noList

/-- The values that may be the key, of a value that a secret is as a JSON text. -/
def valuesOf : Json → Except KeyFault (List Json)
  | .obj fields =>
    match fields.lookup "keys" with
    | some keys => listed keys
    | none =>
      if (fields.lookup "kty").isSome then .ok [.obj fields]
      else if fields = [] then .ok [.obj []]
      else .ok (fields.map (·.2))
  | .arr items => .ok items
  | value => .ok [value]

/-- What may be the key. -/
def candidates (secret : String) : Except KeyFault (List Source) :=
  match Json.read? .key secret with
  | none => .ok [.letters secret]
  | some value => (valuesOf value).map fun values => values.map .value

/-! ### Codes -/

/-- What an algorithm asks of a key. -/
inductive KeyUse
  /-- a key for codes -/
  | code (m : MacAlgorithm)
  /-- a key of so many letters, for sealing -/
  | sealing (letters : Nat)
  /-- a text -/
  | direct
deriving DecidableEq, Repr

/-- How many letters a key for sealing has, by the name of the algorithm. -/
def sealingLetters : List (String × Nat) :=
  [("A128KW", 16), ("A192KW", 24), ("A256KW", 32), ("A128GCM", 16), ("A192GCM", 24),
   ("A256GCM", 32), ("A128CBC", 16), ("A192CBC", 24), ("A256CBC", 32), ("A128CBC-HS256", 32),
   ("A192CBC-HS384", 48), ("A256CBC-HS512", 64)]

/-- What the algorithm of a name asks of a key.  Algorithms that sign with one half of
a key pair are left out: their names give no use, and nothing holds under them. -/
def KeyUse.ofName? (name : String) : Option KeyUse :=
  match MacAlgorithm.ofName? name with
  | some m => some (.code m)
  | none => if name = "dir" then some .direct else (sealingLetters.lookup name).map .sealing

/-- How many parts a source has; half of a pair of surrogates is one letter. -/
def lengthOf : Source → Except KeyFault Nat
  | .letters s => .ok s.length
  | .value (.str s) => .ok (s.length - Surrogate.halves s.toList)
  | .value (.arr items) => .ok items.length
  | .value (.obj fields) => .ok fields.length
  | .value _ => .error .wrongKind

/-- The bytes of a source that has to be a text. -/
def textBytes : Source → Except KeyFault (List UInt8)
  | .letters s => .ok s.toUTF8.toList
  | .value (.str s) => bytesOf s
  | .value _ => .error .wrongKind

/-- Whether a code of a message holds under the key that is made of a source. -/
def holds (use : Option KeyUse) (message code : List UInt8) (source : Source) :
    Except KeyFault Bool :=
  match use with
  | some (.code m) => do return decide (m.code (← keyOf source) message = code)
  | some (.sealing letters) => do
    if (← lengthOf source) ≠ letters then .error .unusable
    else
      -- a text is asked for all the same, but no code holds under such a key
      let _ ← textBytes source
      return false
  | some .direct => do
    let _ ← textBytes source
    return false
  | none => .error .unusable

/-- Whether one of the sources gives a key under which the code holds.  They are
tried in order, and the first one of which no key can be made stops the search. -/
def verifies (use : Option KeyUse) (message code : List UInt8) :
    List Source → Except KeyFault Bool
  | [] => .ok false
  | source :: rest => do
    if ← holds use message code source then return true else verifies use message code rest

end Secret

end RouteAccess
