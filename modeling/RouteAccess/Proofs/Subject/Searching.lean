/-
RouteAccess/Proofs/Subject/Searching.lean

The search for further roles, and what becomes of a request if it fails.  Whether a request
has an identity is settled before any search: a token is verified or not, whatever is
searched with (`resolve_cases`).  Only a verified token with the role that asks for it is
searched for, once and for the user that the claims are about.

What a search comes to is looked at once (`findingsOf_cases`).  It breaks off with an error
that nobody holds up, and then nothing is resolved; or it has found roles, which are added at
the end of those of the token:

    bearerRoles claims found = roles claims ++ further claims id.

A search that fails, or finds nothing that can be cut into roles, has found none at all; so
the subjects are those of a resolver that never searches, and never fewer.
-/
import RouteAccess.Proofs.Subject.Marker
import RouteAccess.Proofs.Token.Acceptance

namespace RouteAccess

/-! ### What a search finds -/

/-- The roles that a search has found: the parts of a text, or those of another value that can
be cut. -/
def LookupResult.roles : LookupResult → List String
  | .found (.str s) => if s = "" then [] else Text.fields separator s
  | .cut parts _ => parts
  | _ => []

/-- Whether a search comes to nothing: it fails, or it finds nothing that can be cut, an empty
text, or no part at all. -/
def LookupResult.IsVain : LookupResult → Prop
  | .found (.str s) => s = ""
  | .found _ => True
  | .cut parts _ => parts = []
  | .failed _ => True
  | .brokeOff _ => False

/-- A search in vain has found no roles. -/
theorem LookupResult.roles_of_isVain {result : LookupResult} (h : result.IsVain) :
    result.roles = [] := by
  cases result with
  | failed message => rfl
  | cut parts failure => exact h
  | brokeOff error => exact h.elim
  | found value =>
    cases value with
    | str s => exact if_pos h
    | null | bool _ | int _ | float _ | arr _ | obj _ => rfl

/-- Whether claims are about a user: the one of this identifier, or one without any. -/
def Claims.IsAbout (claims : Claims) (id : String) : Prop :=
  claims.lookup "sub" = some (.str id) ∨ claims.lookup "sub" = none ∧ id = ""

namespace TokenResolver

variable {r : TokenResolver} {now : Int} {request : Request} {claims : Claims}
variable {found : Findings}

/-- A search breaks off, or it gives its roles; either way it was made for the user. -/
theorem findingsOf_cases (id : String) (result : LookupResult) :
    (∃ error, result = .brokeOff error ∧ findingsOf id result = .error (.application error)) ∨
      (∀ error, result ≠ .brokeOff error) ∧
        ∃ found, findingsOf id result = .ok found ∧ found.roles = result.roles ∧
          found.lookups = [id] := by
  cases result with
  | brokeOff error => exact .inl ⟨error, rfl, rfl⟩
  | failed message => exact .inr ⟨nofun, _, rfl, rfl, rfl⟩
  | cut parts failure => exact .inr ⟨nofun, _, rfl, rfl, rfl⟩
  | found value =>
    refine .inr ⟨nofun, ?_⟩
    cases value with
    | str s =>
      by_cases hempty : s = ""
      · refine ⟨findings id [] none, if_pos (by simp [Json.isNothing, hempty]), ?_, rfl⟩
        exact (if_pos hempty).symm
      · refine ⟨findings id (Text.fields separator s) none,
          if_neg (by simp [Json.isNothing, hempty]), ?_, rfl⟩
        exact (if_neg hempty).symm
    | null | bool _ | int _ | float _ | arr _ | obj _ =>
      -- a value that stands for nothing is no failure, but has no roles either
      simp only [findingsOf]
      split
      · exact ⟨_, rfl, rfl, rfl⟩
      · exact ⟨_, rfl, rfl, rfl⟩

/-! ### The roles of a bearer -/

/-- Whether further roles are searched for: there is a way to do so, and a role that asks
for it. -/
def Searches (r : TokenResolver) (claims : Claims) : Prop :=
  r.lookup.isSome ∧ lookupRole ∈ (r.roles claims).1

instance (r : TokenResolver) (claims : Claims) : Decidable (r.Searches claims) :=
  inferInstanceAs (Decidable (_ ∧ _))

/-- The further roles of a user, if they are searched for. -/
def further (r : TokenResolver) (claims : Claims) (id : String) : List String :=
  match r.lookup with
  | none => []
  | some search => if lookupRole ∈ (r.roles claims).1 then (search id).roles else []

/-- Whether further roles are searched for, and the search for a user breaks off with an
error. -/
def BreaksOff (r : TokenResolver) (claims : Claims) (id error : String) : Prop :=
  lookupRole ∈ (r.roles claims).1 ∧ ∃ search, r.lookup = some search ∧ search id = .brokeOff error

/-- Accepted claims are about the user that is searched for. -/
theorem isAbout_searchedId {token : String} (haccepted : r.claims now token = .ok claims) :
    claims.IsAbout (searchedId claims) := by
  have hpasses := (Token.accept_eq_ok.mp haccepted).2
  rw [searchedId, user]
  cases hsub : claims.lookup "sub" with
  | none => exact .inr ⟨hsub, rfl⟩
  | some value =>
    obtain ⟨s, rfl⟩ := hpasses.subject value hsub
    exact .inl hsub

/-- Claims are about one user only. -/
theorem eq_searchedId {id : String} (h : claims.IsAbout id) : id = searchedId claims := by
  rw [searchedId, user]
  rcases h with hsub | ⟨hsub, rfl⟩
  · rw [hsub]
    rfl
  · rw [hsub]
    rfl

/-- What is found on account of claims: nothing if there is no search, and else what the search
for the user comes to. -/
theorem search_cases (r : TokenResolver) (claims : Claims) :
    (∃ error, r.BreaksOff claims (searchedId claims) error ∧
        r.search claims = .error (.application error)) ∨
      (∀ error, ¬ r.BreaksOff claims (searchedId claims) error) ∧
        ∃ found, r.search claims = .ok found ∧
          found.roles = r.further claims (searchedId claims) ∧
          found.lookups = if r.Searches claims then [searchedId claims] else [] := by
  rw [search, further]
  cases hlookup : r.lookup with
  | none =>
    -- where there is no search, none can break off
    refine .inr ⟨?_, {}, rfl, rfl, (if_neg ?_).symm⟩
    · rintro error ⟨-, search, hsome, -⟩
      exact Option.some_ne_none search (hsome.symm.trans hlookup)
    · rintro ⟨hsome, -⟩
      simp [hlookup] at hsome
  | some search =>
    by_cases hrole : lookupRole ∈ (r.roles claims).1
    · have hsearches : r.Searches claims := ⟨by simp [hlookup], hrole⟩
      simp only [List.contains_iff_mem, if_pos hrole, if_pos hsearches]
      rcases findingsOf_cases (searchedId claims) (search (searchedId claims)) with
        ⟨error, hresult, hfound⟩ | ⟨hresult, found, hfound, hroles, hlookups⟩
      · exact .inl ⟨error, ⟨hrole, search, hlookup, hresult⟩, hfound⟩
      · refine .inr ⟨?_, found, hfound, hroles, hlookups⟩
        rintro error ⟨-, other, hother, hbroke⟩
        obtain rfl := Option.some.inj (hlookup.symm.trans hother)
        exact hresult error hbroke
    · have hnot : ¬ r.Searches claims := fun h => hrole h.2
      simp only [List.contains_iff_mem, if_neg hrole, if_neg hnot]
      exact .inr ⟨fun error h => hrole h.1, {}, rfl, rfl, rfl⟩

/-! ### Requests -/

/-- Whether a request has no identity: it has no header for a bearer, or the token there is
refused. -/
def HasNoIdentity (r : TokenResolver) (now : Int) (request : Request) : Prop :=
  (∀ header, ¬ Presents request header) ∨
    ∃ header fault, Presents request header ∧ r.claims now header = .error (.refused fault)

/-- Whether a request has a verified token with these claims. -/
def Verifies (r : TokenResolver) (now : Int) (request : Request) (claims : Claims) : Prop :=
  ∃ header, Presents request header ∧ r.claims now header = .ok claims

/-- Whether the token of a request, if there is one, is accepted or refused. -/
def IsJudged (r : TokenResolver) (now : Int) (request : Request) : Prop :=
  ∀ header, Presents request header →
    (∃ claims, r.claims now header = .ok claims) ∨
      ∃ fault, r.claims now header = .error (.refused fault)

/-- A request has one verified token, with one set of claims. -/
theorem Verifies.unique {claims' : Claims} (h : r.Verifies now request claims)
    (h' : r.Verifies now request claims') : claims = claims' := by
  obtain ⟨header, hpresents, hclaims⟩ := h
  obtain ⟨header', hpresents', hclaims'⟩ := h'
  obtain rfl := hpresents.unique hpresents'
  exact Except.ok.inj (hclaims.symm.trans hclaims')

/-- Who has a verified token has an identity. -/
theorem Verifies.not_hasNoIdentity (h : r.Verifies now request claims) :
    ¬ r.HasNoIdentity now request := by
  obtain ⟨header, hpresents, hclaims⟩ := h
  rintro (hnone | ⟨header', fault, hpresents', hrefused⟩)
  · exact hnone header hpresents
  · obtain rfl := hpresents.unique hpresents'
    rw [hclaims] at hrefused
    cases hrefused

/-- A request has no identity, or a verified token tells who sends it; either way it does not
matter what further roles are searched with. -/
theorem resolve_cases (h : r.IsJudged now request) :
    (r.HasNoIdentity now request ∧ ∀ lookup, ∃ events,
      ({ r with lookup := lookup }).resolve now request = .ok ⟨none, events, []⟩) ∨
    ∃ claims, r.Verifies now request claims ∧ ∀ lookup,
      ({ r with lookup := lookup }).resolve now request
        = ({ r with lookup := lookup }).identify claims := by
  by_cases hpresents : ∃ header, Presents request header
  · obtain ⟨header, hpresents⟩ := hpresents
    rcases h header hpresents with ⟨claims, hclaims⟩ | ⟨fault, hrefused⟩
    · exact .inr ⟨claims, ⟨header, hpresents, hclaims⟩, fun lookup =>
        resolve_of_accepted hpresents hclaims⟩
    · refine .inl ⟨.inr ⟨header, fault, hpresents, hrefused⟩, fun lookup => ?_⟩
      -- the token is judged without a look at the search
      have hsame : ({ r with lookup := lookup }).claims now header = .error (.refused fault) :=
        hrefused
      rw [resolve_of_presents hpresents, hsame]
      exact ⟨_, rfl⟩
  · have hnone : ∀ header, ¬ Presents request header := not_exists.mp hpresents
    exact .inl ⟨.inl hnone, fun lookup => ⟨[], resolve_of_not_presents hnone⟩⟩

/-- In vain, or not made at all, a search adds no roles. -/
theorem further_eq_nil {ids : List String}
    (hids : ids = if r.Searches claims then [searchedId claims] else [])
    (h : ∀ search, r.lookup = some search → ∀ id ∈ ids, (search id).IsVain) :
    r.further claims (searchedId claims) = [] := by
  rw [further]
  cases hlookup : r.lookup with
  | none => rfl
  | some search =>
    by_cases hrole : lookupRole ∈ (r.roles claims).1
    · have hvain : (search (searchedId claims)).IsVain := by
        -- the user is the one who was searched for, so the search for him was in vain
        refine h search hlookup _ ?_
        rw [hids, if_pos ⟨by simp [hlookup], hrole⟩]
        exact List.mem_singleton_self _
      exact (if_pos hrole).trans (LookupResult.roles_of_isVain hvain)
    · exact if_neg hrole

/-- No search takes a subject away. -/
theorem tokensOf_resolution_subset {subjects : String}
    (h : (r.resolution claims {}).subjects = some subjects) :
    ∃ subjects', (r.resolution claims found).subjects = some subjects' ∧
      tokensOf subjects ⊆ tokensOf subjects' := by
  rw [subjects_resolution, Option.some.injEq] at h
  refine ⟨_, subjects_resolution r claims found, fun t ht => ?_⟩
  rw [← h, mem_tokensOf_subjects] at ht
  obtain ⟨role, hrole, hne, htoken⟩ := ht
  -- what is found comes after the roles of the token, and nothing replaces them
  have hkept : role ∈ (r.roles claims).1 := by
    simpa [bearerRoles] using hrole
  exact mem_tokensOf_subjects.mpr ⟨role, List.mem_append_left _ hkept, hne, htoken⟩

/-- The marked token is verified, whatever is searched with.  It has one role beside the one
that asks for a search, and is about no user. -/
theorem verifies_markedToken (lookup : Option (String → LookupResult)) :
    let r : TokenResolver := { searching with lookup := lookup }
    r.IsJudged 0 (requestWith markedToken) ∧
      ∃ claims, r.Verifies 0 (requestWith markedToken) claims ∧
        (r.roles claims).1 = ["client", "DB^"] ∧ claims.lookup "sub" = none := by
  intro r
  -- the token is accepted in one evaluation, together with what is asked about its claims
  have hfound : (searching.claims 0 ("Bearer " ++ markedToken)).toOption.map
      (fun c => ((searching.roles c).1, (c.lookup "sub").isNone)) =
        some (["client", "DB^"], true) := by
    decide +kernel
  obtain ⟨claims, hclaims, hfound⟩ := Option.map_eq_some_iff.mp hfound
  obtain ⟨hroles, hsub⟩ := Prod.mk.inj hfound
  have hverified : r.claims 0 ("Bearer " ++ markedToken) = .ok claims := eq_ok_of_toOption hclaims
  refine ⟨fun header hpresents => ?_, claims, ⟨_, presents_requestWith markedToken, hverified⟩,
    hroles, Option.isNone_iff_eq_none.mp hsub⟩
  obtain rfl := (presents_requestWith markedToken).unique hpresents
  exact .inl ⟨claims, hverified⟩

end TokenResolver

end RouteAccess
