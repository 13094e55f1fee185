/-
RouteAccess/Proofs/Token/Acceptance.lean

Which tokens are accepted.  The last point of a token and its first one cut it into
three segments (`Segments.Cuts`).  A token that is opened has a header that names
the expected algorithm, and its code is that of all before its last point, under a
key of the secret (`Opens`); what it is accepted with are the claims that its middle
segment holds, and they pass their checks.  So no token without such a code, none of
another algorithm and none out of its time gets through, whatever its bytes:

    r.claims now token = .ok claims → ∃ text p, p.Cuts text.toUTF8.toList ∧
      Token.Opens r.rules p claims ∧ claims.lookup "at_hash" = none ∧ ….

An expected audience is compared only with an audience that is there: a token that
names none is accepted all the same.
-/
import RouteAccess.Proofs.Token.Claims
import RouteAccess.Subject.Resolver

namespace RouteAccess

/-! ### Keys -/

namespace Secret

/-- Whether a secret yields a key. -/
def Yields (secret : String) (key : List UInt8) : Prop :=
  ∃ sources, candidates secret = .ok sources ∧ ∃ source ∈ sources, keyOf source = .ok key

variable {use : Option KeyUse} {message code : List UInt8} {source : Source}

/-- Only a code of the message holds, under the key that is made of the source. -/
theorem code_of_holds (h : holds use message code source = .ok true) :
    ∃ m key, use = some (.code m) ∧ keyOf source = .ok key ∧ code = m.code key message := by
  cases use with
  | none => cases h
  | some use =>
    cases use with
    | code m =>
      simp only [holds, bind_eq_ok] at h
      obtain ⟨key, hkey, hcode⟩ := h
      have hcode : m.code key message = code := of_decide_eq_true (Except.ok.inj hcode)
      exact ⟨m, key, rfl, hkey, hcode.symm⟩
    | sealing letters =>
      -- nothing is a code under keys of the other kinds
      simp only [holds, bind_eq_ok] at h
      obtain ⟨n, -, h⟩ := h
      split at h
      · cases h
      · obtain ⟨_, -, h⟩ := bind_eq_ok.mp h
        cases h
    | direct =>
      simp only [holds, bind_eq_ok] at h
      obtain ⟨_, -, h⟩ := h
      cases h

/-- A code that is right is right for one of the keys. -/
theorem holds_of_verifies {sources : List Source}
    (h : verifies use message code sources = .ok true) :
    ∃ source ∈ sources, holds use message code source = .ok true := by
  induction sources with
  | nil => cases h
  | cons source rest ih =>
    obtain ⟨held, hheld, h⟩ := bind_eq_ok.mp h
    cases held with
    | true => exact ⟨source, List.mem_cons_self, hheld⟩
    | false =>
      obtain ⟨source, hsource, hholds⟩ := ih h
      exact ⟨source, List.mem_cons_of_mem _ hsource, hholds⟩

/-- Only the names of algorithms for codes ask for a key for codes. -/
theorem ofName?_of_code {name : String} {m : MacAlgorithm}
    (h : KeyUse.ofName? name = some (.code m)) : MacAlgorithm.ofName? name = some m := by
  rw [KeyUse.ofName?] at h
  split at h
  · rename_i m' hname
    cases h
    exact hname
  · split at h
    · cases h
    · simp at h

end Secret

namespace Token

variable {token text before after : List UInt8} {p : Segments} {rules : TokenRules}
  {claims : Claims}

/-! ### Segments -/

/-- A text is cut at its first point, if it has one. -/
theorem cutFirst_eq_some :
    cutFirst text = some (before, after) ↔ text = before ++ point :: after ∧ point ∉ before := by
  constructor
  · intro h
    rw [cutFirst] at h
    split at h
    · cases h
    · rename_i c rest hdrop
      cases h
      -- the first letter that is kept is one at which the search stopped
      have hc : c = point := by
        have hhead := List.head?_dropWhile_not (· ≠ point) text
        rw [hdrop] at hhead
        simpa using hhead
      refine ⟨?_, fun hmem => ?_⟩
      · rw [← hc, ← hdrop, hc, List.takeWhile_append_dropWhile]
      · have hne := List.all_eq_true.mp List.all_takeWhile point hmem
        simp at hne
  · rintro ⟨rfl, hbefore⟩
    have hne : ∀ c ∈ before, decide (c ≠ point) = true := by
      intro c hc
      exact decide_eq_true fun h => hbefore (h ▸ hc)
    rw [cutFirst, List.dropWhile_append_of_pos hne, List.takeWhile_append_of_pos hne]
    simp

/-- A text is cut at its last point, if it has one. -/
theorem cutLast_eq_some :
    cutLast text = some (before, after) ↔ text = before ++ point :: after ∧ point ∉ after := by
  -- the last point is the first one from behind
  have hcut : cutLast text = some (before, after) ↔
      cutFirst text.reverse = some (after.reverse, before.reverse) := by
    rw [cutLast]
    cases cutFirst text.reverse with
    | none => simp
    | some parts => simp [Prod.ext_iff, and_comm, List.reverse_eq_iff]
  rw [hcut, cutFirst_eq_some, List.mem_reverse, List.reverse_eq_iff]
  simp

/-- Whether parts are those of a token: cut at its last point, and what is before it at
its first one. -/
structure Segments.Cuts (p : Segments) (token : List UInt8) : Prop where
  token : token = p.signed ++ point :: p.code
  signed : p.signed = p.header ++ point :: p.claims
  header : point ∉ p.header
  code : point ∉ p.code

/-- The segments of a token are cut from it. -/
theorem cuts_of_segments? (h : segments? token = some p) : p.Cuts token := by
  rw [segments?] at h
  obtain ⟨⟨signed, code⟩, hlast, h⟩ := Option.bind_eq_some_iff.mp h
  obtain ⟨⟨header, claims⟩, hfirst, h⟩ := Option.bind_eq_some_iff.mp h
  cases h
  obtain ⟨htoken, hcode⟩ := cutLast_eq_some.mp hlast
  obtain ⟨hsigned, hheader⟩ := cutFirst_eq_some.mp hfirst
  exact ⟨htoken, hsigned, hheader, hcode⟩

/-! ### Opening -/

/-- Whether an encoded segment holds an object, as a JSON text. -/
def HoldsObject (segment : List UInt8) (fields : List (String × Json)) : Prop :=
  ∃ bytes text, Base64.decode segment = some bytes ∧
    String.fromUTF8? ⟨bytes.toArray⟩ = some text ∧ Json.read .message text = .ok (.obj fields)

theorem present_eq_ok {α : Type} {x : Option α} {fault : TokenFault} {a : α} :
    present x fault = .ok a ↔ x = some a := by
  cases x <;> simp [present]

/-- A segment in which an object was found holds this object. -/
theorem holdsObject_of_objectOf {segment bytes : List UInt8} {text form : TokenFault}
    {fields : List (String × Json)} (hdecode : Base64.decode segment = some bytes)
    (h : objectOf bytes text form = .ok fields) : HoldsObject segment fields := by
  -- bytes that are no text, a text that is no value, and a value that is no object are refused
  rw [objectOf] at h
  split at h
  · cases h
  · rename_i s hs
    split at h
    · rename_i hread
      cases h
      exact ⟨bytes, s, hdecode, hs, hread⟩
    · cases h
    · cases h
    · cases h

/-- Whether the parts of a token open it: the header names the algorithm of the rules, the
code is that of what is signed under a key of their secret, and the claims are these. -/
structure Opens (rules : TokenRules) (p : Segments) (claims : Claims) : Prop where
  header : ∃ header, HoldsObject p.header header ∧
    header.lookup "alg" = some (.str rules.algorithm)
  code : ∃ m key, MacAlgorithm.ofName? rules.algorithm = some m ∧
    Secret.Yields rules.secret key ∧ Base64.decode p.code = some (m.code key p.signed)
  claims : HoldsObject p.claims claims

/-- A code that passes is that of the algorithm and of some key of the secret. -/
theorem code_of_checkCode {header : List (String × Json)} {signed code : List UInt8}
    (h : checkCode rules header signed code = .ok ()) :
    header.lookup "alg" = some (.str rules.algorithm) ∧
      ∃ m key, MacAlgorithm.ofName? rules.algorithm = some m ∧
        Secret.Yields rules.secret key ∧ code = m.code key signed := by
  rw [checkCode] at h
  split at h
  · cases h
  · split at h
    · cases h
    · rename_i halg
      obtain ⟨value, hvalue, htext⟩ := Option.bind_eq_some_iff.mp (Decidable.not_not.mp halg)
      refine ⟨hvalue.trans (congrArg some (Claims.text?_eq_some.mp htext)), ?_⟩
      split at h
      · cases h
      · rename_i sources hsources
        split at h
        · cases h
        · cases h
        · -- of several keys one has to fit, and a key that breaks off would not have passed
          rename_i hverifies
          obtain ⟨source, hsource, hholds⟩ := Secret.holds_of_verifies hverifies
          obtain ⟨m, key, huse, hkey, hcode⟩ := Secret.code_of_holds hholds
          exact ⟨m, key, Secret.ofName?_of_code huse, ⟨sources, hsources, source, hsource, hkey⟩,
            hcode⟩

/-- A token that opens is cut, signed and filled as it should be. -/
theorem opens_of_open? (h : open? rules token = .ok claims) :
    ∃ p : Segments, p.Cuts token ∧ Opens rules p claims := by
  simp only [open?, bind_eq_ok, present_eq_ok] at h
  obtain ⟨p, hp, header, hheader, fields, hfields, body, hbody, code, hcode, _, hcheck, h⟩ := h
  obtain ⟨halg, m, key, hname, hyields, rfl⟩ := code_of_checkCode hcheck
  exact ⟨p, cuts_of_segments? hp, ⟨fields, holdsObject_of_objectOf hheader hfields, halg⟩,
    ⟨m, key, hname, hyields, hcode⟩, holdsObject_of_objectOf hbody h⟩

/-- A token is accepted with the claims that it opens with, if they pass their checks. -/
theorem accept_eq_ok {now : Int} :
    accept rules now token = .ok claims ↔
      open? rules token = .ok claims ∧ claims.Passes now rules.issuer rules.audience := by
  rw [accept, bind_eq_ok]
  constructor
  · rintro ⟨opened, hopen, h⟩
    -- the checks come to a verdict, and it is a good one
    split at h
    · rename_i hvalid
      cases h
      exact ⟨hopen, Claims.validate_eq_ok.mp hvalid⟩
    · cases h
    · cases h
    · cases h
  · rintro ⟨hopen, hpasses⟩
    refine ⟨claims, hopen, ?_⟩
    rw [Claims.validate_eq_ok.mpr hpasses]
    rfl

end Token

/-! ### Bearers -/

namespace TokenResolver

variable {r : TokenResolver} {now : Int} {token : String} {claims : Claims}

/-- A text is the word before a token and the token, or the token itself. -/
theorem stripBearer_cases (token : String) :
    token = "Bearer " ++ stripBearer token ∨
      token = stripBearer token ∧ ¬ "Bearer ".toList <+: token.toList := by
  by_cases hbearer : bearer <+: token.toList
  · left
    obtain ⟨rest, hrest⟩ := hbearer
    -- the word was taken off, and is put back here
    have hprefix : bearer.isPrefixOf token.toList = true :=
      List.isPrefixOf_iff_prefix.mpr ⟨rest, hrest⟩
    apply String.toList_inj.mp
    rw [stripBearer, if_pos hprefix, ← hrest, List.drop_left]
    simp only [String.toList_append, String.toList_ofList]
    rfl
  · right
    have hprefix : ¬ bearer.isPrefixOf token.toList = true := fun h =>
      hbearer (List.isPrefixOf_iff_prefix.mp h)
    rw [stripBearer, if_neg hprefix]
    exact ⟨rfl, hbearer⟩

/-! ### A token that is accepted -/

/-- A resolver for the tokens to one audience. -/
def strict : TokenResolver :=
  ⟨{ secret := "k", audience := some "api" }, "rol", none⟩

/-- A token to this audience that holds up to the ninth second. -/
def timedToken : String :=
  "Bearer eyJhbGciOiJIUzI1NiJ9.eyJleHAiOjksImF1ZCI6WyJhcGkiXX0." ++
    "Lk5QmLhvB6BzHh_VBEt90L0lRdYdRU5TbV4QwoDDCmY"

/-- The timed token is accepted two seconds before its end, and names an audience. -/
theorem accepted_timedToken :
    ∃ claims, strict.claims 7000000 timedToken = .ok claims ∧
      claims.lookup "exp" = some (.int 9) ∧ claims.lookup "aud" ≠ none := by
  -- the token is accepted in one evaluation, together with what is asked about its claims
  have hfound : (strict.claims 7000000 timedToken).toOption.map
      (fun c => ((c.lookup "exp").bind Json.int?, (c.lookup "aud").isSome))
        = some (some 9, true) := by
    decide +kernel
  obtain ⟨claims, hclaims, hparts⟩ := Option.map_eq_some_iff.mp hfound
  obtain ⟨hexp, haud⟩ := Prod.mk.inj hparts
  refine ⟨claims, eq_ok_of_toOption hclaims, ?_, Option.isSome_iff_ne_none.mp haud⟩
  obtain ⟨value, hvalue, hint⟩ := Option.bind_eq_some_iff.mp hexp
  cases value with
  | int n =>
    obtain rfl := Option.some.inj hint
    exact hvalue
  | _ => cases hint

/-! ### What is accepted -/

/-- What a token is accepted with, at any instant: after one word `Bearer` at most, it is
cut into three segments that hold a header for the expected algorithm, these very claims,
and their code under a key of the secret; and the claims are neither out of their time nor
from another issuer, nor do they ask for an access token.

Only the algorithms for codes say anything here: under any other, signatures by half of a key
pair among them, no token is accepted. -/
theorem claims_of_accepted (h : r.claims now token = .ok claims) :
    ∃ (text : String) (p : Token.Segments),
      (token = "Bearer " ++ text ∨ token = text ∧ ¬ "Bearer ".toList <+: token.toList) ∧
      p.Cuts text.toUTF8.toList ∧ Token.Opens r.rules p claims ∧
      (∀ value, claims.lookup "exp" = some value →
        ∃ n, Claims.wholeOf .expiration value = .ok n ∧ Moment.second now ≤ n) ∧
      (∀ value, claims.lookup "nbf" = some value →
        ∃ n, Claims.wholeOf .notBefore value = .ok n ∧ n ≤ Moment.second now) ∧
      (∀ issuer, r.rules.issuer = some issuer → claims.lookup "iss" = some (.str issuer)) ∧
      claims.lookup "at_hash" = none := by
  -- what is known of the segments comes of the opening, all else of the checks
  obtain ⟨hopen, hpasses⟩ := Token.accept_eq_ok.mp h
  obtain ⟨p, hcuts, hopens⟩ := Token.opens_of_open? hopen
  exact ⟨stripBearer token, p, stripBearer_cases token, hcuts, hopens, hpasses.expiration,
    hpasses.notBefore, hpasses.issuer, hpasses.accessToken⟩

/-- In its time, the token is accepted, and what it is accepted with has the code of the
secret and ends later. -/
theorem claims_of_timedToken :
    ∃ claims, strict.claims 7000000 timedToken = .ok claims ∧
      (∃ (text : String) (p : Token.Segments),
        p.Cuts text.toUTF8.toList ∧ Token.Opens strict.rules p claims) ∧
      ∃ n, Claims.wholeOf .expiration (.int 9) = .ok n ∧ 7 ≤ n := by
  obtain ⟨claims, haccepted, hexp, -⟩ := accepted_timedToken
  obtain ⟨text, p, -, hcuts, hopens, hlasts, -⟩ := claims_of_accepted haccepted
  exact ⟨claims, haccepted, ⟨text, p, hcuts, hopens⟩, hlasts _ hexp⟩

/-! ### Audiences -/

/-- With an expected audience, a token is accepted only if it names this audience, or
none at all. -/
theorem audience_of_accepted {audience : String} (haudience : r.rules.audience = some audience)
    (h : r.claims now token = .ok claims) :
    claims.lookup "aud" = none ∨
      ∃ value, claims.lookup "aud" = some value ∧ Claims.Addresses value audience := by
  have hpasses := (Token.accept_eq_ok.mp h).2
  cases haud : claims.lookup "aud" with
  | none => exact .inl rfl
  | some value => exact .inr ⟨value, rfl, hpasses.audience audience haudience value haud⟩

/-- The timed token is addressed to the audience that is expected. -/
theorem audience_of_timedToken :
    ∃ claims value, strict.claims 7000000 timedToken = .ok claims ∧
      claims.lookup "aud" = some value ∧ Claims.Addresses value "api" := by
  obtain ⟨claims, haccepted, -, hnamed⟩ := accepted_timedToken
  rcases audience_of_accepted rfl haccepted with hnone | ⟨value, hvalue, haddresses⟩
  · exact absurd hnone hnamed
  · exact ⟨claims, value, haccepted, hvalue, haddresses⟩

/-- A token that names no audience is accepted where one is expected. -/
theorem accepted_without_audience :
    let r : TokenResolver := ⟨{ secret := "k", audience := some "guardian" }, "rol", none⟩
    let token := "Bearer eyJhbGciOiJIUzI1NiJ9.eyJyb2wiOiJBRE1JTiJ9." ++
      "fubvyQCvxXtVOtwBvEWcfv6cwGRkx_q4qjpvj1r7Blw"
    ∃ claims, r.claims 0 token = .ok claims ∧
      ¬ ∃ value, claims.lookup "aud" = some value ∧ Claims.Addresses value "guardian" := by
  intro r token
  have hfound : (r.claims 0 token).toOption.map (fun c => (c.lookup "aud").isNone)
      = some true := by
    decide +kernel
  obtain ⟨claims, hclaims, hnone⟩ := Option.map_eq_some_iff.mp hfound
  refine ⟨claims, eq_ok_of_toOption hclaims, ?_⟩
  rintro ⟨value, hvalue, -⟩
  rw [hvalue] at hnone
  cases hnone

end TokenResolver

end RouteAccess
