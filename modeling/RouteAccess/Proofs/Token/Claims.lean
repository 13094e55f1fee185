/-
RouteAccess/Proofs/Token/Claims.lean

Which claims pass their checks.  The checks are made one after the other, and the
first that fails decides what is wrong; but whether all of them succeed is a matter
of each claim by itself (`Passes`).  Every claim that is there has to be right, and
only the issuer has to be there if one is expected:

    validate claims now issuer audience = .ok () ↔ claims.Passes now issuer audience.
-/
import RouteAccess.Proofs.Result
import RouteAccess.Token.Claims

namespace RouteAccess

namespace Claims

variable {claims : Claims} {now : Int} {issuer audience : Option String} {value : Json}

/-! ### Single checks -/

/-- A check of a claim passes if the claim is missing or its test passes. -/
theorem check_eq_ok {name : String} {test : Json → Except ClaimStop Unit} :
    check claims name test = .ok () ↔
      ∀ value, claims.lookup name = some value → test value = .ok () := by
  rw [check]
  cases claims.lookup name with
  | none => simp
  | some value => simp

theorem require_eq_ok {condition : Bool} {fault : ClaimFault} :
    require condition fault = .ok () ↔ condition = true := by
  cases condition with
  | false => simp [require]
  | true => simp [require]

theorem text?_isSome : value.text?.isSome = true ↔ ∃ s, value = .str s := by
  cases value <;> simp [Json.text?]

theorem text?_eq_some {s : String} : value.text? = some s ↔ value = .str s := by
  cases value <;> simp [Json.text?]

/-! ### Audiences -/

/-- Whether an audience names the expected one: it is this text, or a list of texts
with it. -/
def Addresses (value : Json) (expected : String) : Prop :=
  value = .str expected ∨ ∃ names : List String, value = .arr (names.map .str) ∧ expected ∈ names

/-- A list of texts is addressed to those that are in it. -/
theorem addresses_arr {names : List String} {expected : String} :
    Addresses (.arr (names.map .str)) expected ↔ expected ∈ names := by
  constructor
  · rintro (h | ⟨names', h, hmem⟩)
    · cases h
    · have hsame : names = names' :=
        (List.map_inj_right fun _ _ => Json.str.inj).mp (Json.arr.inj h)
      rwa [hsame]
  · intro hmem
    exact .inr ⟨names, rfl, hmem⟩

/-- Items are all texts exactly if they are written as texts. -/
theorem mapM_text?_eq_some {items : List Json} {names : List String} :
    items.mapM Json.text? = some names ↔ items = names.map .str := by
  induction items generalizing names with
  | nil => cases names <;> simp
  | cons item rest ih =>
    rw [List.mapM_cons]
    cases names with
    | nil =>
      cases item.text? with
      | none => simp
      | some s => cases rest.mapM Json.text? <;> simp
    | cons name names =>
      -- the first item is a text, and so are all others
      simp only [Option.bind_eq_bind, Option.bind_eq_some_iff, text?_eq_some, ih, List.map_cons,
        List.cons.injEq, Option.pure_def, Option.some.injEq]
      constructor
      · rintro ⟨s, rfl, _, rfl, rfl, rfl⟩
        exact ⟨rfl, rfl⟩
      · rintro ⟨rfl, rfl⟩
        exact ⟨name, rfl, names, rfl, rfl, rfl⟩

/-- An audience is a text or a list of texts. -/
theorem audiences?_eq_some {names : List String} :
    audiences? value = some names ↔
      (∃ s, value = .str s ∧ names = [s]) ∨ value = .arr (names.map .str) := by
  cases value with
  | str s => simp [audiences?, eq_comm]
  | arr items => simp [audiences?, mapM_text?_eq_some]
  | _ => simp [audiences?]

/-- The check of an audience passes if none is named, or the expected one is. -/
theorem checkAudience_eq_ok {expected : String} :
    checkAudience claims expected = .ok () ↔
      ∀ value, claims.lookup "aud" = some value → Addresses value expected := by
  rw [checkAudience, check_eq_ok]
  refine forall_congr' fun value => imp_congr_right fun _ => ?_
  cases hnames : audiences? value with
  | none =>
    -- what is no audience names nobody
    have hnone : ¬ Addresses value expected := by
      rintro (rfl | ⟨names, rfl, -⟩)
      · simp [audiences?] at hnames
      · rw [audiences?_eq_some.mpr (.inr rfl)] at hnames
        cases hnames
    simp [hnone]
  | some names =>
    simp only [require_eq_ok, List.contains_iff_mem]
    rcases audiences?_eq_some.mp hnames with ⟨s, rfl, rfl⟩ | rfl
    · simp [Addresses, eq_comm]
    · exact addresses_arr.symm

/-! ### All checks -/

/-- A check against a text that may be expected. -/
def against (expected : Option String) (test : String → Except ClaimStop Unit) :
    Except ClaimStop Unit :=
  match expected with
  | none => .ok ()
  | some text => test text

theorem against_eq_ok {expected : Option String} {test : String → Except ClaimStop Unit} :
    against expected test = .ok () ↔ ∀ text, expected = some text → test text = .ok () := by
  cases expected with
  | none => simp [against]
  | some text => simp [against]

/-- All checks in a row, those against an expected text among them. -/
theorem validate_eq (claims : Claims) (now : Int) (issuer audience : Option String) :
    validate claims now issuer audience = (do
      check claims "iat" fun value => do
        let _ ← wholeOf .issuedAt value
      check claims "nbf" fun value => do
        let start ← wholeOf .notBefore value
        require (start ≤ now) .notYet
      check claims "exp" fun value => do
        let stop ← wholeOf .expiration value
        require (now ≤ stop) .expired
      against audience (checkAudience claims)
      against issuer fun expected =>
        require (((claims.lookup "iss").bind Json.text?) = some expected) .issuer
      check claims "sub" fun value => require value.text?.isSome .subject
      check claims "jti" fun value => require value.text?.isSome .identifier
      check claims "at_hash" fun _ => .error (.refused .accessToken)) := by
  -- a text that is not expected is not checked, so the four cases are read off
  cases audience <;> cases issuer <;> rfl

/-- Whether claims pass their checks: at this second, for this issuer and audience. -/
structure Passes (claims : Claims) (now : Int) (issuer audience : Option String) : Prop where
  issuedAt : ∀ value, claims.lookup "iat" = some value → ∃ n, wholeOf .issuedAt value = .ok n
  notBefore : ∀ value, claims.lookup "nbf" = some value →
    ∃ n, wholeOf .notBefore value = .ok n ∧ n ≤ now
  expiration : ∀ value, claims.lookup "exp" = some value →
    ∃ n, wholeOf .expiration value = .ok n ∧ now ≤ n
  audience : ∀ expected, audience = some expected →
    ∀ value, claims.lookup "aud" = some value → Addresses value expected
  issuer : ∀ expected, issuer = some expected → claims.lookup "iss" = some (.str expected)
  subject : ∀ value, claims.lookup "sub" = some value → ∃ s, value = .str s
  identifier : ∀ value, claims.lookup "jti" = some value → ∃ s, value = .str s
  accessToken : claims.lookup "at_hash" = none

/-- The checks succeed exactly if the claims pass. -/
theorem validate_eq_ok :
    validate claims now issuer audience = .ok () ↔ claims.Passes now issuer audience := by
  rw [validate_eq]
  simp only [bind_unit_eq_ok, check_eq_ok, against_eq_ok, checkAudience_eq_ok]
  simp only [bind_eq_ok, require_eq_ok, decide_eq_true_eq, text?_isSome, Option.bind_eq_some_iff,
    text?_eq_some, exists_eq_right]
  constructor
  · rintro ⟨hiat, hnbf, hexp, haud, hiss, hsub, hjti, hhash⟩
    refine ⟨fun value hvalue => ?_, hnbf, hexp, haud, hiss, hsub, hjti, ?_⟩
    · obtain ⟨n, hn, -⟩ := hiat value hvalue
      exact ⟨n, hn⟩
    · -- no value passes, so there is none
      cases hfound : claims.lookup "at_hash" with
      | none => rfl
      | some value => cases hhash value hfound
  · intro h
    refine ⟨fun value hvalue => ?_, h.notBefore, h.expiration, h.audience, h.issuer, h.subject,
      h.identifier, ?_⟩
    · obtain ⟨n, hn⟩ := h.issuedAt value hvalue
      exact ⟨n, hn, rfl⟩
    · intro value hfound
      rw [h.accessToken] at hfound
      cases hfound

end Claims

end RouteAccess
