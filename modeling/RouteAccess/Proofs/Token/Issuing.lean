/-
RouteAccess/Proofs/Token/Issuing.lean

A token that was issued under a plain secret opens with its claims (`open?_issue`).  Its
segments hold what was written in them, since both encodings are undone; they have no
point in them, so the token is cut where it was put together; and its bytes are those of
the text that it is in a header.
-/
import RouteAccess.Proofs.Json.Values
import RouteAccess.Proofs.Text.Base64
import RouteAccess.Proofs.Text.Bytes
import RouteAccess.Proofs.Token.Opening

namespace RouteAccess

namespace Token

variable {key : List UInt8} {claims : Claims} {rules : TokenRules}

/-! ### Segments -/

theorem point_notMem_encode (bytes : List UInt8) : point ∉ Base64.encode bytes := by
  intro hmem
  obtain ⟨n, hn, hletter⟩ := Base64.exists_letter_of_mem_encode bytes point hmem
  exact (Base64.letter_ascii hn).1 hletter

/-- A segment holds the object that was written in it. -/
theorem holdsObject_segmentOf {fields : List (String × Json)}
    (h : Json.Fits Json.Dialect.message.maxDepth (.obj fields)) :
    HoldsObject (segmentOf (.obj fields)) fields :=
  ⟨_, _, Base64.decode_encode _, Text.fromUTF8?_toUTF8 _,
    Json.read_render rfl Json.separates_compact h⟩

/-- The parts of a token that is issued. -/
def issuedSegments (key : List UInt8) (claims : Claims) : Segments :=
  let signed := segmentOf issuedHeader ++ point :: segmentOf (.obj claims)
  ⟨segmentOf issuedHeader, segmentOf (.obj claims),
    Base64.encode (MacAlgorithm.hs256.code key signed), signed⟩

/-- A token that is issued is cut into its segments, none of which holds a point. -/
theorem cuts_issue (key : List UInt8) (claims : Claims) :
    (issuedSegments key claims).Cuts (issue key claims) where
  token := rfl
  signed := rfl
  header := point_notMem_encode _
  code := point_notMem_encode _

/-- A token that is issued is signed with the secret. -/
theorem isSigned_issue (halg : rules.algorithm = "HS256") :
    IsSigned rules .hs256 (issuedSegments (Secret.letters rules.secret) claims) where
  header := by
    refine ⟨[("alg", .str "HS256"), ("typ", .str "JWT")], holdsObject_segmentOf ?_, halg ▸ rfl⟩
    refine .obj (by decide) ?_
    simp only [List.forall_mem_cons]
    exact ⟨.str _, .str _, fun _ h => absurd h List.not_mem_nil⟩
  code := Base64.decode_encode _

/-- A token that was issued under a plain secret opens with its claims. -/
theorem open?_issue (hplain : Secret.IsPlain rules.secret) (halg : rules.algorithm = "HS256")
    (hclaims : Json.Fits Json.Dialect.message.maxDepth (.obj claims)) :
    open? rules (issue (Secret.letters rules.secret) claims) = .ok claims :=
  (open?_eq_ok hplain (halg ▸ rfl)).mpr ⟨_, cuts_issue _ _, isSigned_issue halg,
    holdsObject_segmentOf hclaims⟩

/-! ### Tokens in headers -/

theorem ascii_encode (bytes : List UInt8) : ∀ b ∈ Base64.encode bytes, b.toNat < 128 := by
  intro b hb
  obtain ⟨n, hn, rfl⟩ := Base64.exists_letter_of_mem_encode bytes b hb
  exact (Base64.letter_ascii hn).2

theorem ascii_issue (key : List UInt8) (claims : Claims) :
    ∀ b ∈ issue key claims, b.toNat < 128 := by
  have hpoint : point.toNat < 128 := by decide
  simp only [issue, segmentOf, List.forall_mem_append, List.forall_mem_cons]
  exact ⟨⟨ascii_encode _, hpoint, ascii_encode _⟩, hpoint, ascii_encode _⟩

end Token

namespace TokenResolver

variable {r : TokenResolver} {now : Int}

theorem stripBearer_append (text : String) : stripBearer ("Bearer " ++ text) = text := by
  -- only one word is taken away, even where the text itself starts with another
  rcases stripBearer_cases ("Bearer " ++ text) with h | ⟨-, hnot⟩
  · exact (String.append_right_inj _).mp h.symm
  · exact absurd ⟨text.toList, String.toList_append.symm⟩ hnot

/-- A token in ASCII, written after the word for it, is accepted as its bytes are. -/
theorem claims_of_ascii {token : List UInt8} (h : ∀ b ∈ token, b.toNat < 128) :
    r.claims now ("Bearer " ++ String.ofList (token.map fun b => Char.ofNat b.toNat)) =
      Token.accept r.rules (Moment.second now) token := by
  rw [claims, stripBearer_append, Text.toUTF8_ofBytes h]

end TokenResolver

end RouteAccess
