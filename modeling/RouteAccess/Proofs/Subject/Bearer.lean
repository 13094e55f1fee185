/-
RouteAccess/Proofs/Subject/Bearer.lean

What the resolver for tokens makes of a request.  A request without a header for a
bearer carries no identity (`resolve_of_not_presents`).  Otherwise the token decides
(`resolve_of_presents`): the claims that it is accepted with tell who the sender is, unless
a search that they ask for breaks off, and a token that is refused is no identity either:

    r.claims now header = .ok claims → r.resolve now request = r.identify claims.
-/
import RouteAccess.Subject.Resolver

namespace RouteAccess

namespace TokenResolver

variable {r : TokenResolver} {now : Int} {request : Request} {header : String} {claims : Claims}
variable {found : Findings} {stop : ResolverStop}

/-- Whether a request has a header for a bearer. -/
structure Presents (request : Request) (header : String) : Prop where
  found : request.header? "Authorization" = some header
  bearer : "Bearer ".toList <+: header.toList

/-- A request presents no more than one header. -/
theorem Presents.unique {header' : String} (h : Presents request header)
    (h' : Presents request header') : header = header' :=
  Option.some.inj (h.found.symm.trans h'.found)

/-- What becomes of a request with a header for a bearer. -/
theorem resolve_of_presents (h : Presents request header) :
    r.resolve now request = match r.claims now header with
      | .ok claims => r.identify claims
      | .error (.refused fault) =>
        .ok ⟨none, [⟨logger, .warning, "JWT authentication failed",
          [("error", .str (refusal fault).message),
            ("details", .obj (refusal fault).details)]⟩], []⟩
      | .error stop => .error (.token stop) := by
  have hword : bearer.isPrefixOf header.toList = true :=
    List.isPrefixOf_iff_prefix.mpr h.bearer
  simp only [resolve, h.found, hword]
  rfl

/-- A request without a header for a bearer has no identity. -/
theorem resolve_of_not_presents (h : ∀ header, ¬ Presents request header) :
    r.resolve now request = .ok .nobody := by
  rw [resolve]
  split
  · rfl
  · rename_i header hfound
    have hword : bearer.isPrefixOf header.toList = false := by
      rw [Bool.eq_false_iff]
      exact fun hbearer => h header ⟨hfound, List.isPrefixOf_iff_prefix.mp hbearer⟩
    simp [hword]

theorem resolve_of_accepted (h : Presents request header)
    (haccepted : r.claims now header = .ok claims) :
    r.resolve now request = r.identify claims := by
  rw [resolve_of_presents h, haccepted]

/-- A search that does not break off leads to a resolution. -/
theorem identify_of_search (h : r.search claims = .ok found) :
    r.identify claims = .ok (r.resolution claims found) := by
  rw [identify, h]
  rfl

theorem identify_of_search_error (h : r.search claims = .error stop) :
    r.identify claims = .error stop := by
  rw [identify, h]
  rfl

/-- A request with a token. -/
def requestWith (token : String) : Request :=
  { path := "/", headers := [("Authorization", "Bearer " ++ token)], peer := none }

theorem presents_requestWith (token : String) :
    Presents (requestWith token) ("Bearer " ++ token) where
  found := by simp [requestWith, Request.header?]
  bearer := ⟨token.toList, String.toList_append.symm⟩

end TokenResolver

end RouteAccess
