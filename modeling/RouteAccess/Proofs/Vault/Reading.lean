/-
RouteAccess/Proofs/Vault/Reading.lean

What is read of the vault in a file.  A name leads to a file that holds a vault
(`FileStore.HoldsVault`), and then this vault is read and nothing is reported; or it does
not, and then an empty vault is read and the problem is reported (`ofFile_of_not_holds`).
Only two things stop the reading, bytes that are no text and a null character in the name
(`ofFile_returns_iff`):

    (∃ done, Vault.ofFile store name = .ok done)
      ↔ '\x00' ∉ name.toList ∧ store.Decodes name.
-/
import RouteAccess.Proofs.FileStore
import RouteAccess.Vault.File

namespace RouteAccess

variable {store : FileStore} {name : String} {v : Vault}

namespace FileStore

/-! ### What a file holds -/

/-- Whether a file that a name leads to holds a text, if the name leads to a file. -/
def Decodes (store : FileStore) (name : String) : Prop :=
  ∀ content, store.resolve name = .ok (.file content) →
    ∃ text, String.fromUTF8? content = some text

/-- Whether a name leads to a file that holds the text of a vault. -/
def HoldsVault (store : FileStore) (name : String) (v : Vault) : Prop :=
  ∃ content text, store.resolve name = .ok (.file content) ∧
    String.fromUTF8? content = some text ∧ Vault.ofText text = .valid v

end FileStore

namespace Vault

/-! ### Reading -/

theorem ofFile_of_nullCharacter (h : '\x00' ∈ name.toList) :
    ofFile store name = .error .nullCharacter := by
  rw [ofFile, FileStore.resolve_eq_nullCharacter_iff.mpr h]

theorem ofFile_of_undecodable {content : ByteArray}
    (hfile : store.resolve name = .ok (.file content))
    (hnone : String.fromUTF8? content = none) : ofFile store name = .error .undecodable := by
  simp only [ofFile, hfile, hnone]

theorem ofFile_of_holds (h : store.HoldsVault name v) : ofFile store name = .ok (v, []) := by
  obtain ⟨content, text, hfile, htext, hvault⟩ := h
  simp only [ofFile, hfile, htext, hvault]

/-- A name that leads to no vault is reported, and gives an empty one. -/
theorem ofFile_of_not_holds (hnull : '\x00' ∉ name.toList) (hdecodes : store.Decodes name)
    (hno : ∀ v, ¬ store.HoldsVault name v) : ofFile store name = .ok ({}, [problem name]) := by
  cases hresolve : store.resolve name with
  | error fault =>
    rw [ofFile, hresolve]
    cases fault with
    | nullCharacter => exact absurd (FileStore.resolve_eq_nullCharacter_iff.mp hresolve) hnull
    | missing | notFolder | refused | nameTooLong => rfl
  | ok entry =>
    cases entry with
    | folder | closed | locked => rw [ofFile, hresolve]
    | file content =>
      -- the file holds a text, but not that of a vault
      obtain ⟨text, htext⟩ := hdecodes content hresolve
      cases hvault : ofText text with
      | valid v => exact absurd ⟨content, text, hresolve, htext, hvault⟩ (hno v)
      | faulty faults => simp only [ofFile, hresolve, htext, hvault]

/-- What is read is the vault that the name leads to, or an empty one. -/
theorem ofFile_cases (hnull : '\x00' ∉ name.toList) (hdecodes : store.Decodes name) :
    (∃ v, store.HoldsVault name v ∧ ofFile store name = .ok (v, [])) ∨
      (∀ v, ¬ store.HoldsVault name v) ∧ ofFile store name = .ok ({}, [problem name]) := by
  by_cases hholds : ∃ v, store.HoldsVault name v
  · obtain ⟨v, hv⟩ := hholds
    exact .inl ⟨v, hv, ofFile_of_holds hv⟩
  · have hno : ∀ v, ¬ store.HoldsVault name v := fun v hv => hholds ⟨v, hv⟩
    exact .inr ⟨hno, ofFile_of_not_holds hnull hdecodes hno⟩

theorem ofFile_returns_iff :
    (∃ done, ofFile store name = .ok done) ↔ '\x00' ∉ name.toList ∧ store.Decodes name := by
  constructor
  · rintro ⟨done, hdone⟩
    constructor
    · intro hnull
      rw [ofFile_of_nullCharacter hnull] at hdone
      cases hdone
    · -- what is no text would have stopped the reading
      intro content hfile
      cases htext : String.fromUTF8? content with
      | none =>
        rw [ofFile_of_undecodable hfile htext] at hdone
        cases hdone
      | some text => exact ⟨text, rfl⟩
  · rintro ⟨hnull, hdecodes⟩
    rcases ofFile_cases hnull hdecodes with ⟨v, -, hread⟩ | ⟨-, hread⟩
    · exact ⟨_, hread⟩
    · exact ⟨_, hread⟩

end Vault

end RouteAccess
