/-
RouteAccess/Proofs/Token/RoundTrip.lean

Making a token for a user and resolving it are inverse: whoever sends the header of the
token within its time is known by the roles of the user, but for those that ask for a
search (`resolve_header`).

The maker and the resolver share a secret, an issuer and an audience, and the claim with
the roles is none of those with a meaning of their own (`TokenMaker.IsRegular`).  The claims
that are written are then read back as they are, pass their checks as long as the token
holds, and the text of the roles falls into the same roles again.  A token is made only as
long as its seconds can be written down (`TokenMaker.IsShort`).
-/
import RouteAccess.Fixture
import RouteAccess.Proofs.Subject.Bearer
import RouteAccess.Proofs.Subject.Joining
import RouteAccess.Proofs.Token.Issuing

namespace RouteAccess

namespace Fixture

/-- The names of claims that have a meaning of their own. -/
def registered : List String :=
  ["sub", "name", "iat", "exp", "nbf", "iss", "aud", "jti", "at_hash"]

namespace TokenMaker

variable {m : TokenMaker} {user : User} {now lifetime : Int}

/-- Whether a resolver with the same secret, issuer and audience can be made, and the roles
have a claim of their own. -/
structure IsRegular (m : TokenMaker) : Prop where
  secret : m.secret ≠ ""
  plain : Secret.IsPlain m.secret
  roleClaim : m.roleClaim ∉ registered
  issuer : m.issuer ≠ some ""
  audience : m.audience ≠ some ""

/-- How the tokens of a maker are checked. -/
def rules (m : TokenMaker) : TokenRules :=
  { secret := m.secret, issuer := m.issuer, audience := m.audience }

/-- The second at which a token is made. -/
def issuedAt (now : Int) : Int :=
  Int.tdiv now Moment.perSecond

/-! ### Claims -/

/-- A text is put at the end of claims that do not have its name. -/
theorem addText_of_notMem {claims : Claims} {name : String} {text : Option String}
    (htext : text ≠ some "") (hname : name ∉ claims.map (·.1)) :
    addText claims name text = claims ++ text.toList.map fun s => (name, .str s) := by
  cases text with
  | none => exact (List.append_nil _).symm
  | some s =>
    have hs : s ≠ "" := fun h => htext (congrArg some h)
    rw [addText, if_neg hs, Json.put_of_notMem _ hname]
    rfl

/-- The claims about a user, and about the time. -/
def personal (now : Int) (user : User) (lifetime : Int) : Claims :=
  [("sub", .str user.id), ("name", .str user.name), ("iat", .int (issuedAt now)),
    ("exp", .int (issuedAt now + lifetime))]

/-- The claims about where tokens are from, and for whom they are. -/
def origin (m : TokenMaker) : Claims :=
  (m.issuer.toList.map fun s => ("iss", .str s)) ++ m.audience.toList.map fun s => ("aud", .str s)

/-- The roles of a user in one text. -/
def rolesText (user : User) : String :=
  String.intercalate (String.singleton separator) user.roles

theorem ne_roleClaim (hm : m.IsRegular) {name : String} (h : name ∈ registered) :
    name ≠ m.roleClaim := by
  rintro rfl
  exact hm.roleClaim h

/-- The claims about a user: those about himself, his roles, and where the token comes from. -/
theorem claims_eq (hm : m.IsRegular) :
    m.claims now user lifetime =
      personal now user lifetime ++ (m.roleClaim, .str (rolesText user)) :: m.origin := by
  -- each claim is put at the end, since no other has its name
  have hput : Json.put (personal now user lifetime) m.roleClaim (.str (rolesText user)) =
      personal now user lifetime ++ [(m.roleClaim, .str (rolesText user))] := by
    refine Json.put_of_notMem _ fun hmem => hm.roleClaim ?_
    simp only [personal, List.map_cons, List.map_nil] at hmem
    exact List.mem_append_left _ hmem
  have hiss := ne_roleClaim hm (by decide : "iss" ∈ registered)
  have haud := ne_roleClaim hm (by decide : "aud" ∈ registered)
  change addText (addText (Json.put (personal now user lifetime) m.roleClaim
    (.str (rolesText user))) "iss" m.issuer) "aud" m.audience = _
  rw [hput, addText_of_notMem hm.issuer, addText_of_notMem hm.audience]
  · simp [origin]
  · cases m.issuer <;> simp [personal, haud]
  · simp [personal, hiss]

/-- No claim about a user has the name of another one. -/
theorem nodup_claims (hm : m.IsRegular) : ((m.claims now user lifetime).map (·.1)).Nodup := by
  have hne : ∀ name ∈ registered, name ≠ m.roleClaim := fun _ => ne_roleClaim hm
  simp only [registered, List.forall_mem_cons] at hne
  obtain ⟨hsub, hname, hiat, hexp, -, hiss, haud, -⟩ := hne
  -- the role claim is told apart from the registered ones by its name
  rw [claims_eq hm, personal, origin]
  cases m.issuer <;> cases m.audience <;>
    simp [hsub, hname, hiat, hexp, Ne.symm hiss, Ne.symm haud]

/-- Claims with a meaning of their own are found beside the roles. -/
theorem lookup_registered (hm : m.IsRegular) {name : String} (hname : name ∈ registered) :
    (m.claims now user lifetime).lookup name =
      ((personal now user lifetime).lookup name).or (m.origin.lookup name) := by
  have hne : (name == m.roleClaim) = false := beq_false_of_ne (ne_roleClaim hm hname)
  rw [claims_eq hm, List.lookup_append, List.lookup_cons, hne]

/-- The roles of a user are found under the name of the role claim. -/
theorem lookup_roleClaim (hm : m.IsRegular) :
    (m.claims now user lifetime).lookup m.roleClaim = some (.str (rolesText user)) := by
  have hne {name : String} (h : name ∈ registered) : (m.roleClaim != name) = true :=
    bne_iff_ne.mpr (Ne.symm (ne_roleClaim hm h))
  have hpersonal : (personal now user lifetime).lookup m.roleClaim = none := by
    simp only [personal, List.lookup_eq_none_iff, List.forall_mem_cons]
    exact ⟨hne (by decide), hne (by decide), hne (by decide), hne (by decide),
      fun _ h => absurd h List.not_mem_nil⟩
  rw [claims_eq hm, List.lookup_append, hpersonal, List.lookup_cons_self]
  rfl

theorem lookup_iss (hm : m.IsRegular) :
    (m.claims now user lifetime).lookup "iss" = m.issuer.map .str := by
  rw [lookup_registered hm (by decide), origin]
  cases m.issuer <;> cases m.audience <;> rfl

theorem lookup_aud (hm : m.IsRegular) :
    (m.claims now user lifetime).lookup "aud" = m.audience.map .str := by
  rw [lookup_registered hm (by decide), origin]
  cases m.issuer <;> cases m.audience <;> rfl

/-- A registered claim that tells nothing of the origin is found among those about the user. -/
theorem lookup_personal (hm : m.IsRegular) {name : String} (hname : name ∈ registered)
    (hother : name ∉ ["iss", "aud"]) :
    (m.claims now user lifetime).lookup name = (personal now user lifetime).lookup name := by
  have hiss : (name == "iss") = false := beq_false_of_ne fun h => hother (by simp [h])
  have haud : (name == "aud") = false := beq_false_of_ne fun h => hother (by simp [h])
  have horigin : m.origin.lookup name = none := by
    rw [origin]
    cases m.issuer <;> cases m.audience <;> simp [List.lookup_cons, hiss, haud]
  rw [lookup_registered hm hname, horigin, Option.or_none]

/-! ### Numbers -/

/-- Whether the seconds at which a token is made and at which it expires have no more digits
than are written. -/
structure IsShort (now lifetime : Int) : Prop where
  issued : (Nat.toDigits 10 (issuedAt now).natAbs).length ≤ Json.maxDigits
  expiry : (Nat.toDigits 10 (issuedAt now + lifetime).natAbs).length ≤ Json.maxDigits

/-- Every claim is a text, or one of the two seconds. -/
theorem forall_claims (hm : m.IsRegular) (P : Json → Prop) (hstr : ∀ s, P (.str s)) :
    (∀ claim ∈ m.claims now user lifetime, P claim.2) ↔
      P (.int (issuedAt now)) ∧ P (.int (issuedAt now + lifetime)) := by
  simp only [claims_eq hm, personal, origin, List.forall_mem_append, List.forall_mem_cons,
    List.forall_mem_map]
  constructor
  · rintro ⟨⟨-, -, hissued, hexpiry, -⟩, -⟩
    exact ⟨hissued, hexpiry⟩
  · rintro ⟨hissued, hexpiry⟩
    exact ⟨⟨hstr _, hstr _, hissued, hexpiry, fun _ h => absurd h List.not_mem_nil⟩, hstr _,
      fun s _ => hstr s, fun s _ => hstr s⟩

/-- No claim is a number too long to be written exactly if the two seconds are short. -/
theorem any_isLong_claims (hm : m.IsRegular) :
    (m.claims now user lifetime).any (fun claim => isLong claim.2) = false ↔
      IsShort now lifetime := by
  have hshort (n : Int) :
      isLong (.int n) = false ↔ (Nat.toDigits 10 n.natAbs).length ≤ Json.maxDigits := by
    -- of all claims only the two seconds are numbers
    rw [isLong, decide_eq_false_iff_not, Nat.not_lt]
  simp only [List.any_eq_false, Bool.not_eq_true]
  rw [forall_claims hm (isLong · = false) fun _ => rfl, hshort, hshort]
  exact ⟨fun h => ⟨h.1, h.2⟩, fun h => ⟨h.issued, h.expiry⟩⟩

theorem fits_claims (hm : m.IsRegular) (hshort : IsShort now lifetime) :
    Json.Fits Json.Dialect.message.maxDepth (.obj (m.claims now user lifetime)) := by
  refine .obj (nodup_claims hm) ?_
  rw [forall_claims hm _ .str]
  exact ⟨.int hshort.issued, .int hshort.expiry⟩

/-! ### Headers -/

/-- The token for a user. -/
def token (m : TokenMaker) (now : Int) (user : User) (lifetime : Int) : List UInt8 :=
  Token.issue (Secret.letters m.secret) (m.claims now user lifetime)

/-- For short seconds, the header is the word and the token. -/
theorem header_of_isShort (hm : m.IsRegular) (hshort : IsShort now lifetime) :
    m.header now user lifetime =
      .ok ("Bearer " ++ String.ofList ((m.token now user lifetime).map fun b =>
        Char.ofNat b.toNat)) := by
  simp only [header, any_isLong_claims hm |>.mpr hshort, Secret.ofLetters_of_isPlain hm.plain]
  rfl

/-- For long seconds, no header is made. -/
theorem header_of_not_isShort (hm : m.IsRegular) (hlong : ¬ IsShort now lifetime) :
    m.header now user lifetime = .error .tooManyDigits := by
  have hany : (m.claims now user lifetime).any (fun claim => isLong claim.2) = true := by
    rw [← Bool.not_eq_false, any_isLong_claims hm]
    exact hlong
  rw [header, if_pos hany]

/-! ### Resolving -/

/-- The second of an instant that is within the time of a token is not after its expiry. -/
theorem second_le_expiry {later : Int} (h : later ≤ now + lifetime * Moment.perSecond) :
    Moment.second later ≤ issuedAt now + lifetime := by
  -- the clock of the maker drops a fraction, that of the resolver rounds down: before the
  -- epoch these differ, to the advantage of the token
  have hfloor : now / Moment.perSecond ≤ issuedAt now := by
    rw [issuedAt, Int.tdiv_eq_ediv]
    split
    · exact Int.le_add_of_nonneg_right (Int.le_refl 0)
    · exact Int.le_add_of_nonneg_right (by decide)
  simp only [Moment.second, Moment.perSecond] at *
  omega

/-- The claims about a user pass the checks of a resolver up to the end of their time. -/
theorem passes_claims (hm : m.IsRegular) {later : Int}
    (hlater : later ≤ now + lifetime * Moment.perSecond) :
    (m.claims now user lifetime).Passes (Moment.second later) m.issuer m.audience where
  issuedAt value h := by
    rw [lookup_personal hm (by decide) (by decide)] at h
    cases h
    exact ⟨_, rfl⟩
  notBefore value h := by
    rw [lookup_personal hm (by decide) (by decide)] at h
    cases h
  expiration value h := by
    rw [lookup_personal hm (by decide) (by decide)] at h
    cases h
    exact ⟨_, rfl, second_le_expiry hlater⟩
  audience expected hexpected value h := by
    rw [lookup_aud hm, hexpected] at h
    cases h
    exact .inl rfl
  issuer expected hexpected := by
    rw [lookup_iss hm, hexpected]
    rfl
  subject value h := by
    rw [lookup_personal hm (by decide) (by decide)] at h
    cases h
    exact ⟨_, rfl⟩
  identifier value h := by
    rw [lookup_personal hm (by decide) (by decide)] at h
    cases h
  accessToken := by
    rw [lookup_personal hm (by decide) (by decide)]
    rfl

/-- A resolver opens the token for a user within its time. -/
theorem accept_token (hm : m.IsRegular) (hshort : IsShort now lifetime) {later : Int}
    (hlater : later ≤ now + lifetime * Moment.perSecond) :
    Token.accept m.rules (Moment.second later) (m.token now user lifetime) =
      .ok (m.claims now user lifetime) :=
  Token.accept_eq_ok.mpr
    ⟨Token.open?_issue hm.plain rfl (fits_claims hm hshort), passes_claims hm hlater⟩

/-- The roles that are read from the text of all roles are the roles, trimmed. -/
theorem roles_rolesText {user : User} (hroles : ∀ role ∈ user.roles, separator ∉ role.toList) :
    ((Text.fields separator (rolesText user)).map Text.trim).filter (· ≠ "") =
      (user.roles.map Text.trim).filter (· ≠ "") := by
  by_cases hnone : user.roles = []
  · -- no roles at all are read as one empty role, which is left out
    rw [rolesText, hnone]
    rfl
  · rw [rolesText, Text.fields_intercalate hnone hroles]

/-- It makes no difference to the subjects whether roles are trimmed before or after those
that ask for the search are left out. -/
theorem join_trimmed (roles : List String) :
    Subject.join ((((roles.map Text.trim).filter (· ≠ "")).filter
        (· ≠ TokenResolver.lookupRole)).map some) =
      Subject.join ((roles.filter (Text.trim · ≠ TokenResolver.lookupRole)).map some) := by
  have hid (l : List String) : (l.map some).filterMap id = l := by simp
  have hsame : ((((roles.map Text.trim).filter (· ≠ "")).filter
      (· ≠ TokenResolver.lookupRole)).map Text.trim).filter (· ≠ "") =
      ((roles.filter (Text.trim · ≠ TokenResolver.lookupRole)).map Text.trim).filter (· ≠ "") := by
    -- trimming twice is trimming once, so both sides leave out the same roles
    simp only [List.filter_map, List.map_map, List.filter_filter, Function.comp_def,
      Text.trim_trim]
    congr 2
    funext role
    cases decide (Text.trim role ≠ "") <;> simp
  rw [Subject.join, Subject.join, Subject.normalise, Subject.normalise, hid, hid, hsame]

end TokenMaker

/-- The subjects of the bearer of a token for a user are the roles of this user, but for
those that ask for the search. -/
theorem subjects_claims {m : TokenMaker} (hm : m.IsRegular) {user : User}
    (hroles : ∀ role ∈ user.roles, separator ∉ role.toList) (now lifetime : Int) :
    ((⟨m.rules, m.roleClaim, none⟩ : TokenResolver).resolution
        (m.claims now user lifetime) {}).subjects =
      some (Subject.join
        ((user.roles.filter (Text.trim · ≠ TokenResolver.lookupRole)).map some)) := by
  have hfound : (⟨m.rules, m.roleClaim, none⟩ : TokenResolver).roles (m.claims now user lifetime) =
      ((user.roles.map Text.trim).filter (· ≠ ""), []) := by
    simp only [TokenResolver.roles, TokenMaker.lookup_roleClaim hm,
      TokenMaker.roles_rolesText hroles]
  simp only [TokenResolver.resolution, hfound, List.append_nil]
  rw [TokenMaker.join_trimmed]

/-- A token that is made for a user is resolved to the roles of this user, up to the end of
its time, wherever its header is sent. -/
theorem resolve_header {m : TokenMaker} (hm : m.IsRegular) {user : User}
    (hroles : ∀ role ∈ user.roles, separator ∉ role.toList) {now lifetime : Int}
    (hshort : TokenMaker.IsShort now lifetime) :
    ∃ r header, TokenResolver.create m.rules m.roleClaim none = .ok r ∧
      m.header now user lifetime = .ok header ∧
      ∀ later request, later ≤ now + lifetime * Moment.perSecond →
        request.header? "Authorization" = some header →
          ∃ resolution, r.resolve later request = .ok resolution ∧
            resolution.subjects = some (Subject.join
              ((user.roles.filter (Text.trim · ≠ TokenResolver.lookupRole)).map some)) := by
  refine ⟨⟨m.rules, m.roleClaim, none⟩, _, if_neg hm.secret,
    TokenMaker.header_of_isShort hm hshort, fun later request hlater hfound => ?_⟩
  have haccepted : Token.accept m.rules (Moment.second later) (m.token now user lifetime) =
      .ok (m.claims now user lifetime) := TokenMaker.accept_token hm hshort hlater
  have hpresents : TokenResolver.Presents request _ :=
    ⟨hfound, ⟨_, String.toList_append.symm⟩⟩
  have hclaims : (⟨m.rules, m.roleClaim, none⟩ : TokenResolver).claims later
      ("Bearer " ++ String.ofList ((m.token now user lifetime).map fun b => Char.ofNat b.toNat)) =
        .ok (m.claims now user lifetime) := by
    have hascii : ∀ b ∈ m.token now user lifetime, b.toNat < 128 := Token.ascii_issue _ _
    rw [TokenResolver.claims_of_ascii hascii]
    exact haccepted
  -- without a way to search, the bearer is identified by the claims alone
  have hresolve := TokenResolver.resolve_of_accepted hpresents hclaims
  exact ⟨_, hresolve.trans (TokenResolver.identify_of_search rfl),
    subjects_claims hm hroles now lifetime⟩

theorem isRegular_k : TokenMaker.IsRegular { secret := "k" } :=
  ⟨by decide, Secret.isPlain_k, by decide, by decide, by decide⟩

/-- A user with a role that asks for the search. -/
def searchingUser : User :=
  ⟨"u", "n", ["editor", " DB^ "]⟩

/-- The subjects of a user, all but the role that asks for the search. -/
theorem resolve_header_of_searchingUser :
    ∃ r header, TokenResolver.create { secret := "k" } "rol" none = .ok r ∧
      TokenMaker.header { secret := "k" } 0 searchingUser 60 = .ok header ∧
      ∀ request, request.header? "Authorization" = some header →
        ∃ resolution, r.resolve 59000000 request = .ok resolution ∧
          resolution.subjects = some "EDITOR" := by
  have hshort : TokenMaker.IsShort 0 60 := ⟨by decide, by decide⟩
  have hroles : ∀ role ∈ searchingUser.roles, separator ∉ role.toList := by decide
  obtain ⟨r, header, hr, hheader, hresolve⟩ := resolve_header isRegular_k hroles hshort
  refine ⟨r, header, hr, hheader, fun request hrequest => ?_⟩
  -- the header is looked at one second before its end
  obtain ⟨resolution, hresolution, hsubjects⟩ := hresolve 59000000 request (by decide) hrequest
  refine ⟨resolution, hresolution, hsubjects.trans ?_⟩
  decide +kernel

/-- The number that is written with so many nines. -/
def nines : Nat → Nat
  | 0 => 0
  | k + 1 => 10 * nines k + 9

/-- So many nines are written as so many digits. -/
theorem toDigits_nines {k : Nat} (hk : 0 < k) :
    Nat.toDigits 10 (nines k) = List.replicate k '9' := by
  induction k with
  | zero => cases hk
  | succ k ih =>
    cases k with
    | zero => rfl
    | succ k =>
      -- the digits of a longer number are those of its tenth part and one more
      have hpos : 0 < nines (k + 1) := by
        rw [nines]
        omega
      rw [nines, ← Nat.toDigits_append_toDigits (by decide) hpos (by decide), ih (Nat.succ_pos k),
        List.replicate_succ' (n := k + 1)]
      rfl

/-- No token is made that holds for so many seconds that they are not written. -/
theorem header_of_longLifetime :
    TokenMaker.IsRegular { secret := "k" } ∧
      (∀ role ∈ searchingUser.roles, separator ∉ role.toList) ∧
      TokenMaker.header { secret := "k" } 0 searchingUser (nines (Json.maxDigits + 1)) =
        .error .tooManyDigits := by
  have hroles : ∀ role ∈ searchingUser.roles, separator ∉ role.toList := by decide
  refine ⟨isRegular_k, hroles, TokenMaker.header_of_not_isShort isRegular_k fun hshort => ?_⟩
  have hexpiry := hshort.expiry
  have hzero : TokenMaker.issuedAt 0 = 0 := rfl
  rw [hzero, Int.zero_add, Int.natAbs_natCast, toDigits_nines (Nat.succ_pos _),
    List.length_replicate] at hexpiry
  exact Nat.not_succ_le_self _ hexpiry

end Fixture

end RouteAccess
