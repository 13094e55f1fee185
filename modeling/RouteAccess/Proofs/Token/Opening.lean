/-
RouteAccess/Proofs/Token/Opening.lean

Which tokens open under a plain secret.  A secret is plain if it is no JSON text and
does not look like half of a key pair (`Secret.IsPlain`); then it is one key, letter by
letter, and no key has to be searched for.  A token is signed with it if its header
names the expected algorithm and its code is the one of all before the last point
(`IsSigned`), and it opens with the claims that its middle segment holds:

    open? rules token = .ok claims ↔
      ∃ p, p.Cuts token ∧ IsSigned rules m p ∧ HoldsObject p.claims claims.
-/
import RouteAccess.Proofs.Token.Acceptance

namespace RouteAccess

/-! ### Plain secrets -/

namespace Secret

variable {secret : String}

/-- Whether a secret is one key, letter by letter. -/
structure IsPlain (secret : String) : Prop where
  no_json : Json.read? .key secret = none
  not_armoured : isArmoured secret.toList = false
  not_shellKey : isShellKey secret.toList = false

theorem isPlain_k : IsPlain "k" :=
  ⟨by decide +kernel, by decide +kernel, by decide +kernel⟩

/-- The bytes of a secret. -/
def letters (secret : String) : List UInt8 :=
  secret.toUTF8.toList

theorem candidates_of_isPlain (h : IsPlain secret) : candidates secret = .ok [.letters secret] := by
  rw [candidates, h.no_json]

theorem ofLetters_of_isPlain (h : IsPlain secret) : ofLetters secret = .ok (letters secret) := by
  simp [ofLetters, h.not_armoured, h.not_shellKey, letters]

/-- Under a plain secret, a code is right exactly if it is that of the letters of the secret. -/
theorem verifies_of_isPlain (h : IsPlain secret) (m : MacAlgorithm) (message code : List UInt8) :
    verifies (some (.code m)) message code [.letters secret] =
      .ok (decide (m.code (letters secret) message = code)) := by
  have hkey : keyOf (.letters secret) = .ok (letters secret) := ofLetters_of_isPlain h
  simp only [verifies, holds, hkey, bind, Except.bind, pure, Except.pure]
  cases decide (m.code (letters secret) message = code) <;> rfl

theorem ofName?_of_hmac {name : String} {m : MacAlgorithm}
    (h : MacAlgorithm.ofName? name = some m) : KeyUse.ofName? name = some (.code m) := by
  rw [KeyUse.ofName?, h]

end Secret

theorem MacAlgorithm.ne_empty_of_ofName? {name : String} {m : MacAlgorithm}
    (h : MacAlgorithm.ofName? name = some m) : name ≠ "" := by
  rintro rfl
  cases h

namespace Token

variable {token : List UInt8} {p : Segments} {rules : TokenRules} {claims : Claims}
  {m : MacAlgorithm}

/-! ### Segments -/

/-- The segments of a token are those that it is cut into. -/
theorem segments?_eq_some : segments? token = some p ↔ p.Cuts token := by
  refine ⟨cuts_of_segments?, fun h => ?_⟩
  have hlast : cutLast token = some (p.signed, p.code) := cutLast_eq_some.mpr ⟨h.token, h.code⟩
  have hfirst : cutFirst p.signed = some (p.header, p.claims) :=
    cutFirst_eq_some.mpr ⟨h.signed, h.header⟩
  simp [segments?, hlast, hfirst]

/-! ### Objects in segments -/

/-- Whether an encoded segment holds a JSON text that nests too deep to be read. -/
def NestsTooDeep (segment : List UInt8) : Prop :=
  ∃ bytes text, Base64.decode segment = some bytes ∧
    String.fromUTF8? ⟨bytes.toArray⟩ = some text ∧ Json.read .message text = .error .tooDeep

/-- An object is found in bytes exactly if they are a text, and the text is read as it. -/
theorem objectOf_eq_ok {bytes : List UInt8} {text form : TokenFault}
    {fields : List (String × Json)} :
    objectOf bytes text form = .ok fields ↔
      ∃ s, String.fromUTF8? ⟨bytes.toArray⟩ = some s ∧
        Json.read .message s = .ok (.obj fields) := by
  rw [objectOf]
  cases String.fromUTF8? ⟨bytes.toArray⟩ with
  | none => simp
  | some s =>
    cases hread : Json.read .message s with
    | ok value => cases value <;> simp [hread]
    | error fault => cases fault <;> simp [hread]

/-! ### Codes under a plain secret -/

/-- Whether the header of a token names the algorithm of the rules, and its code is that of
what is signed under their secret. -/
structure IsSigned (rules : TokenRules) (m : MacAlgorithm) (p : Segments) : Prop where
  header : ∃ header, HoldsObject p.header header ∧
    header.lookup "alg" = some (.str rules.algorithm)
  code : Base64.decode p.code = some (m.code (Secret.letters rules.secret) p.signed)

/-- Under a plain secret, a code is right or refused. -/
theorem checkCode_of_isPlain (hplain : Secret.IsPlain rules.secret)
    (hmac : MacAlgorithm.ofName? rules.algorithm = some m) {header : List (String × Json)}
    {signed code : List UInt8} :
    (header.lookup "alg" = some (.str rules.algorithm) ∧
        code = m.code (Secret.letters rules.secret) signed ∧
        checkCode rules header signed code = .ok ()) ∨
      ∃ fault, checkCode rules header signed code = .error (.refused fault) := by
  rw [checkCode, Secret.candidates_of_isPlain hplain, Secret.ofName?_of_hmac hmac]
  simp only [Secret.verifies_of_isPlain hplain]
  split
  · exact .inr ⟨_, rfl⟩
  · split
    · exact .inr ⟨_, rfl⟩
    · -- the header names the expected algorithm, so the code alone decides
      rename_i halg
      obtain ⟨value, hvalue, htext⟩ := Option.bind_eq_some_iff.mp (Decidable.not_not.mp halg)
      rw [Claims.text?_eq_some.mp htext] at hvalue
      by_cases hcode : m.code (Secret.letters rules.secret) signed = code
      · left
        simp [hvalue, hcode]
      · right
        simp [hcode]

/-- Under a plain secret, a code passes exactly if the header names the algorithm and the code is
right. -/
theorem checkCode_eq_ok (hplain : Secret.IsPlain rules.secret)
    (hmac : MacAlgorithm.ofName? rules.algorithm = some m) {header : List (String × Json)}
    {signed code : List UInt8} :
    checkCode rules header signed code = .ok () ↔
      header.lookup "alg" = some (.str rules.algorithm) ∧
        code = m.code (Secret.letters rules.secret) signed := by
  constructor
  · intro h
    rcases checkCode_of_isPlain hplain hmac with ⟨halg, hcode, -⟩ | ⟨fault, hfault⟩
    · exact ⟨halg, hcode⟩
    · rw [hfault] at h
      cases h
  · rintro ⟨halg, rfl⟩
    have hnames : namesAlgorithm (some (.str rules.algorithm)) = true := by
      simpa [namesAlgorithm, Json.isNothing] using MacAlgorithm.ne_empty_of_ofName? hmac
    simp [checkCode, halg, hnames, Json.text?, Secret.candidates_of_isPlain hplain,
      Secret.ofName?_of_hmac hmac, Secret.verifies_of_isPlain hplain]

/-! ### Opening -/

/-- Under a plain secret, a token opens exactly if it is signed with it, with the claims
that it holds. -/
theorem open?_eq_ok (hplain : Secret.IsPlain rules.secret)
    (hmac : MacAlgorithm.ofName? rules.algorithm = some m) :
    open? rules token = .ok claims ↔
      ∃ p : Segments, p.Cuts token ∧ IsSigned rules m p ∧ HoldsObject p.claims claims := by
  simp only [open?, bind_eq_ok, present_eq_ok, segments?_eq_some, objectOf_eq_ok,
    checkCode_eq_ok hplain hmac]
  -- what opens step by step is what is cut, signed and filled
  constructor
  · rintro ⟨p, hcuts, header, hheader, fields, ⟨s, hs, hread⟩, body, hbody, code, hcode, -,
      ⟨halg, rfl⟩, t, ht, hclaims⟩
    exact ⟨p, hcuts, ⟨⟨fields, ⟨header, s, hheader, hs, hread⟩, halg⟩, hcode⟩,
      body, t, hbody, ht, hclaims⟩
  · rintro ⟨p, hcuts, ⟨⟨fields, ⟨header, s, hheader, hs, hread⟩, halg⟩, hcode⟩, body, t, hbody,
      ht, hclaims⟩
    exact ⟨p, hcuts, header, hheader, fields, ⟨s, hs, hread⟩, body, hbody, _, hcode, (),
      ⟨halg, rfl⟩, t, ht, hclaims⟩

end Token

end RouteAccess
