/-
RouteAccess/Proofs/Token/Lifetime.lean

For how long a token is accepted.  What a token opens with, and all checks of its
claims but two, do not look at the clock.  So if it is accepted at all, it is accepted
with the same claims from the second of its `nbf` up to the second of its `exp`, as far
as it names them, and at no other time:

    r.claims now token = .ok found ↔
      found = claims ∧ (∀ n ∈ start, n ≤ second now) ∧ ∀ n ∈ stop, second now ≤ n.

At an earlier instant than one at which it is accepted, a token is accepted too or its
time has not come yet (`validate_of_passes_later`).  Hence it is never said to have
expired before it is accepted.
-/
import RouteAccess.Proofs.Token.Acceptance

namespace RouteAccess

namespace Claims

variable {claims : Claims} {now later : Int} {issuer audience : Option String}

/-! ### Times that are named -/

/-- A time that is read if it is there is a number, or not there. -/
theorem exists_time {name : String} {fault : ClaimFault} {p : Int → Prop}
    (h : ∀ value, claims.lookup name = some value → ∃ n, wholeOf fault value = .ok n ∧ p n) :
    ∃ time : Option Int, (claims.lookup name).map (wholeOf fault) = time.map .ok := by
  cases hfound : claims.lookup name with
  | none => exact ⟨none, rfl⟩
  | some value =>
    obtain ⟨n, hn, -⟩ := h value hfound
    exact ⟨some n, congrArg some hn⟩

/-- What is asked of a time that is named, asked of the number that it is. -/
theorem forall_time_iff {name : String} {fault : ClaimFault} {p : Int → Prop} {time : Option Int}
    (htime : (claims.lookup name).map (wholeOf fault) = time.map .ok) :
    (∀ value, claims.lookup name = some value → ∃ n, wholeOf fault value = .ok n ∧ p n) ↔
      ∀ n ∈ time, p n := by
  -- a time that is missing asks nothing, one that is there asks about its number
  cases hfound : claims.lookup name with
  | none =>
    rw [hfound] at htime
    obtain rfl : time = none := by simpa using htime.symm
    simp
  | some value =>
    rw [hfound] at htime
    obtain ⟨n, rfl, hn⟩ := Option.map_eq_some_iff.mp htime.symm
    simp [← hn]

/-! ### Claims at two instants -/

/-- Claims that pass at one instant pass at every other one that is within their time. -/
theorem Passes.at (h : claims.Passes now issuer audience)
    (hstart : ∀ value, claims.lookup "nbf" = some value →
      ∃ n, wholeOf .notBefore value = .ok n ∧ n ≤ later)
    (hstop : ∀ value, claims.lookup "exp" = some value →
      ∃ n, wholeOf .expiration value = .ok n ∧ later ≤ n) :
    claims.Passes later issuer audience :=
  { h with notBefore := hstart, expiration := hstop }

/-- At an earlier instant than one at which claims pass, they pass or are not yet valid. -/
theorem validate_of_passes_later (h : claims.Passes later issuer audience) (hle : now ≤ later) :
    validate claims now issuer audience = .ok () ∨
      validate claims now issuer audience = .error (.refused .notYet) := by
  have hstop : ∀ value, claims.lookup "exp" = some value →
      ∃ n, wholeOf .expiration value = .ok n ∧ now ≤ n := by
    intro value hvalue
    obtain ⟨n, hn, hlater⟩ := h.expiration value hvalue
    exact ⟨n, hn, Int.le_trans hle hlater⟩
  cases hnbf : claims.lookup "nbf" with
  | none =>
    left
    exact validate_eq_ok.mpr (h.at (by simp [hnbf]) hstop)
  | some value =>
    obtain ⟨n, hn, -⟩ := h.notBefore value hnbf
    by_cases hnow : n ≤ now
    · left
      refine validate_eq_ok.mpr (h.at (fun value' hvalue' => ?_) hstop)
      obtain rfl := Option.some.inj (hnbf.symm.trans hvalue')
      exact ⟨n, hn, hnow⟩
    · -- the check of `nbf` is the first one that fails
      right
      have hiat : (check claims "iat" fun value => do
          let _ ← wholeOf .issuedAt value) = .ok () := by
        refine check_eq_ok.mpr fun value hvalue => ?_
        obtain ⟨m, hm⟩ := h.issuedAt value hvalue
        rw [hm]
        rfl
      have hstart : (check claims "nbf" fun value => do
          let start ← wholeOf .notBefore value
          require (start ≤ now) .notYet) = .error (.refused .notYet) := by
        simp [check, hnbf, hn, hnow, require, bind, Except.bind]
      rw [validate_eq, hiat]
      simp only [bind, Except.bind] at hstart ⊢
      rw [hstart]

end Claims

/-! ### Tokens at two instants -/

namespace Token

variable {rules : TokenRules} {token : List UInt8} {now later : Int} {claims : Claims}

/-- At an earlier instant than one at which a token is accepted, it is accepted too, or
not yet valid. -/
theorem accept_of_accepted_later (h : accept rules later token = .ok claims) (hle : now ≤ later) :
    accept rules now token = .ok claims ∨
      accept rules now token = .error (.refused (.claims .notYet)) := by
  obtain ⟨hopen, hpasses⟩ := accept_eq_ok.mp h
  rcases Claims.validate_of_passes_later hpasses hle with hvalid | hvalid
  · left
    exact accept_eq_ok.mpr ⟨hopen, Claims.validate_eq_ok.mp hvalid⟩
  · right
    simp [accept, hopen, hvalid, bind, Except.bind]

/-- A token that is accepted at one instant is accepted at exactly those that are within
its time, with the same claims. -/
theorem accept_iff_of_accepted (h : accept rules now token = .ok claims) :
    ∃ start stop : Option Int,
      (claims.lookup "nbf").map (Claims.wholeOf .notBefore) = start.map .ok ∧
      (claims.lookup "exp").map (Claims.wholeOf .expiration) = stop.map .ok ∧
      ∀ later found, accept rules later token = .ok found ↔
        found = claims ∧ (∀ n ∈ start, n ≤ later) ∧ ∀ n ∈ stop, later ≤ n := by
  obtain ⟨hopen, hpasses⟩ := accept_eq_ok.mp h
  obtain ⟨start, hstart⟩ := Claims.exists_time hpasses.notBefore
  obtain ⟨stop, hstop⟩ := Claims.exists_time hpasses.expiration
  refine ⟨start, stop, hstart, hstop, fun later found => ?_⟩
  rw [accept_eq_ok, ← Claims.forall_time_iff hstart, ← Claims.forall_time_iff hstop]
  constructor
  · -- opening does not depend on the instant, so the claims are the same
    rintro ⟨hopen', hpasses'⟩
    obtain rfl := Except.ok.inj (hopen'.symm.trans hopen)
    exact ⟨rfl, hpasses'.notBefore, hpasses'.expiration⟩
  · rintro ⟨rfl, hnotBefore, hexpiration⟩
    exact ⟨hopen, hpasses.at hnotBefore hexpiration⟩

end Token

/-! ### Bearers -/

namespace TokenResolver

variable {r : TokenResolver} {token : String}

theorem second_mono {a b : Int} (h : a ≤ b) : Moment.second a ≤ Moment.second b :=
  Int.ediv_le_ediv (by decide) h

/-- A token is accepted at no instant at all, or with the same claims at exactly the
seconds from its `nbf` to its `exp`, as far as it names them.  Once it has expired it is
accepted no more.

Under an algorithm that is not one for codes, no token is accepted at any instant. -/
theorem accepted_exactly_within (r : TokenResolver) (token : String) :
    ((∀ now claims, r.claims now token ≠ .ok claims) ∨
      ∃ (claims : Claims) (start stop : Option Int),
        (claims.lookup "nbf").map (Claims.wholeOf .notBefore) = start.map .ok ∧
        (claims.lookup "exp").map (Claims.wholeOf .expiration) = stop.map .ok ∧
        ∀ now found, r.claims now token = .ok found ↔
          found = claims ∧ (∀ n ∈ start, n ≤ Moment.second now) ∧
            ∀ n ∈ stop, Moment.second now ≤ n) ∧
    ∀ now later, r.claims now token = .error (.refused (.claims .expired)) → now ≤ later →
      ∀ claims, r.claims later token ≠ .ok claims := by
  constructor
  · by_cases haccepted : ∃ now claims, r.claims now token = .ok claims
    · obtain ⟨now, claims, h⟩ := haccepted
      obtain ⟨start, stop, hstart, hstop, hiff⟩ := Token.accept_iff_of_accepted h
      exact .inr ⟨claims, start, stop, hstart, hstop, fun now => hiff (Moment.second now)⟩
    · refine .inl fun now claims h => haccepted ⟨now, claims, h⟩
  · intro now later hexpired hle claims haccepted
    -- what is accepted later is accepted now, or its time has not come; it has not expired
    have hearlier := Token.accept_of_accepted_later haccepted (second_mono hle)
    rw [TokenResolver.claims] at hexpired
    rw [hexpired] at hearlier
    simp at hearlier

end TokenResolver

end RouteAccess
