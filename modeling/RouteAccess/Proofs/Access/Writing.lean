/-
RouteAccess/Proofs/Access/Writing.lean

An access document that was written is loaded back.  A name leads to the file that was
written under it, and the bytes of this file are read as the document, whatever characters
its default and its statements have (`ofText?_render`).  So loading the file gives the rule
set of the document itself (`loadFile_written`):

    Fixture.writeDocument? store name (document d rs) = some store'
      → loadFile store' name base = .ok (some (d.ruleSet base), d.notices).
-/
import RouteAccess.Access.Document
import RouteAccess.Fixture
import RouteAccess.Proofs.FileStore
import RouteAccess.Proofs.Json.Values
import RouteAccess.Proofs.Text.Bytes

namespace RouteAccess

namespace AccessDocument

variable {store store' : FileStore} {name default : String} {entries : List Json}

/-- An array inside an object leaves two levels less to the entries. -/
theorem fits_document (h : ∀ entry ∈ entries, Json.Fits 198 entry) :
    Json.Fits Json.Dialect.document.maxDepth
      (Fixture.accessDocument (.str default) (some entries)) := by
  refine .obj ?_ ?_
  · show ["default", "rules"].Nodup
    decide
  · intro field hfield
    rcases List.mem_cons.mp hfield with rfl | hfield
    · exact .str default
    · obtain rfl := List.mem_singleton.mp hfield
      exact .arr h

/-- The text of a document is read as the document. -/
theorem ofText?_render (h : ∀ entry ∈ entries, Json.Fits 198 entry) :
    ofText? ((Fixture.accessDocument (.str default) (some entries)).render .spaced) =
      some ⟨default, entries⟩ := by
  have hread : Json.read? .document
      ((Fixture.accessDocument (.str default) (some entries)).render .spaced) =
      some (Fixture.accessDocument (.str default) (some entries)) := by
    rw [Json.read?, Json.read_render rfl Json.separates_spaced (fits_document h)]
    rfl
  rw [ofText?, hread]
  rfl

/-- What was written with a default and statements is loaded as the document with this
default and these statements, over any rules. -/
theorem loadFile_written {statements : List String} (base : RuleSet)
    (h : Fixture.writeDocument? store name
      (Fixture.accessDocument (.str default) (some (statements.map .str))) = some store') :
    loadFile store' name base =
      .ok (some (ruleSet ⟨default, statements.map .str⟩ base),
        notices ⟨default, statements.map .str⟩) := by
  have hfits : ∀ entry ∈ statements.map Json.str, Json.Fits 198 entry := by
    intro entry hentry
    obtain ⟨s, -, rfl⟩ := List.mem_map.mp hentry
    exact .str s
  have hfile := FileStore.resolve_of_write? h
  have htext := Text.fromUTF8?_eq_some
    ((Fixture.accessDocument (.str default) (some (statements.map .str))).render .spaced)
  rw [loadFile, hfile]
  simp only [Fixture.bytes, htext, load, ofText?_render hfits]

/-- Quotes, backslashes, control characters and characters beyond the basic plane come back
from a file as they were written. -/
theorem loadFile_written_escapes :
    let statements := ["allow GET /a\"b\\c ADMIN", "deny\t* /\x00\x7f\n é|😀"]
    let base : RuleSet := ⟨[⟨.deny, "GET", "/old", "*"⟩], .deny⟩
    ∃ store', Fixture.writeDocument? {} "access.json"
        (Fixture.accessDocument (.str " Allow\r\n") (some (statements.map .str))) = some store' ∧
      loadFile store' "access.json" base =
        .ok (some (ruleSet ⟨" Allow\r\n", statements.map .str⟩ base),
          notices ⟨" Allow\r\n", statements.map .str⟩) := by
  intro statements base
  -- nothing stands under the name in an empty store
  let empty : FileStore := {}
  have hplace : (empty.entry? (empty.home ++ ["access.json"])).all FileEntry.isWritable = true :=
    rfl
  have hwritten := FileStore.isPart_access.write?_eq hplace
    (Fixture.bytes (Fixture.accessDocument (.str " Allow\r\n") (some (statements.map .str))))
  exact ⟨_, hwritten, loadFile_written base hwritten⟩

end AccessDocument

end RouteAccess
