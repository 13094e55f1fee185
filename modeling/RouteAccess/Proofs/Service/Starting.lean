/-
RouteAccess/Proofs/Service/Starting.lean

When a service can be started.  The word for the level of the log, the name of the access
file and the file of the keys can each stop the start, and nothing else can
(`start_returns_iff`).  Of the file of the keys two things do: a name that cannot be looked
up, since it is too long or a folder on the way may not be entered, and bytes that are no
text.  All else that is wrong with it is reported, and the service starts with an empty
vault, or with none if there is no such file (`vault_problems_reported`).  As everywhere,
there are no links among the files, and the medium does not fail.
-/
import RouteAccess.Proofs.Service.Run
import RouteAccess.Proofs.Vault.Reading

namespace RouteAccess

namespace Service

variable {store : FileStore} {settings : Settings} {rules : Option RuleSet}

/-! ### What a start needs -/

/-- The plain part of a service returns exactly if the word of its level of logging is known. -/
theorem bare_returns_iff {name : String} :
    (∃ service, bare name settings = .ok service) ↔
      ∃ level, logLevel settings.logLevel = .ok level := by
  rw [bare]
  cases logLevel settings.logLevel with
  | error fault => simp
  | ok level => simp

/-- A resolver for tokens is never refused: without a secret there is none. -/
theorem tokenResolver_returns (settings : Settings) :
    ∃ tokens, tokenResolver settings = .ok tokens := by
  rw [tokenResolver]
  cases settings.jwtSecret with
  | none => exact ⟨[], rfl⟩
  | some secret =>
    by_cases hempty : secret = ""
    · exact ⟨[], if_pos hempty⟩
    · simp only [if_neg hempty, TokenResolver.create]
      exact ⟨_, rfl⟩

/-- The guardian of a service returns exactly if rules are given, or the name of the access file
can be looked up. -/
theorem guardianFor_returns_iff :
    (∃ done, guardianFor store settings rules = .ok done) ↔
      (rules = none → store.Answers settings.accessFile) := by
  cases rules with
  | some rules => simp [guardianFor]
  | none =>
    have hcreate : (∃ done, Guardian.create store (some settings.accessFile) {} = .ok done) ↔
        ∀ name ∈ some settings.accessFile, store.Answers name :=
      Guardian.create_returns_iff
    simp only [Option.mem_some_iff, forall_eq'] at hcreate
    simp only [forall_const, ← hcreate, guardianFor]
    cases Guardian.create store (some settings.accessFile) {} with
    | error fault => simp
    | ok done => simp

/-- The file of the keys is looked up first, and read only if it is there. -/
theorem vaultResolver_returns_iff :
    (∃ done, vaultResolver store settings = .ok done) ↔
      store.Answers settings.apiKeysFile ∧ store.Decodes settings.apiKeysFile := by
  rw [vaultResolver, FileStore.isFile, FileStore.Decodes, FileStore.answers_iff_comesUp]
  cases hresolve : store.resolve settings.apiKeysFile with
  | error fault => cases fault <;> simp [PathFault.comesUp]
  | ok entry =>
    cases entry with
    | folder | closed => simp
    | locked => simp [Vault.ofFile, hresolve]
    | file content =>
      -- a name that leads to a file has no null character, so the bytes alone decide
      have hnull : '\x00' ∉ settings.apiKeysFile.toList := by
        intro hmem
        rw [FileStore.resolve_eq_nullCharacter_iff.mpr hmem] at hresolve
        cases hresolve
      have hread : (∃ done, Vault.ofFile store settings.apiKeysFile = .ok done) ↔
          store.Decodes settings.apiKeysFile := by
        rw [Vault.ofFile_returns_iff, and_iff_right hnull]
      rw [FileStore.Decodes, hresolve] at hread
      cases hfile : Vault.ofFile store settings.apiKeysFile with
      | error stop => simpa [hfile] using hread
      | ok done => simpa [hfile] using hread

/-- A service starts exactly if its level, its access file and its keys do not stop it. -/
theorem start_returns_iff :
    (∃ done, start store settings rules = .ok done) ↔
      (∃ level, logLevel settings.logLevel = .ok level) ∧
        (rules = none → store.Answers settings.accessFile) ∧
        store.Answers settings.apiKeysFile ∧ store.Decodes settings.apiKeysFile := by
  -- each stage of a start returns or ends it, and one of them never ends it
  rw [← guardianFor_returns_iff, ← vaultResolver_returns_iff]
  constructor
  · rintro ⟨done, hstart⟩
    rw [start] at hstart
    obtain ⟨plain, hplain, hstart⟩ := bind_eq_ok.mp hstart
    obtain ⟨guardian, hguardian, hstart⟩ := bind_eq_ok.mp hstart
    obtain ⟨tokens, -, hstart⟩ := bind_eq_ok.mp hstart
    obtain ⟨keys, hkeys, -⟩ := bind_eq_ok.mp hstart
    exact ⟨bare_returns_iff.mp ⟨plain, hplain⟩, ⟨guardian, hguardian⟩, ⟨keys, hkeys⟩⟩
  · rintro ⟨⟨level, hlevel⟩, ⟨guardian, hguardian⟩, ⟨keys, hkeys⟩⟩
    obtain ⟨tokens, htokens⟩ := tokenResolver_returns settings
    obtain ⟨service, events, hstart, -⟩ := start_ok hlevel hguardian htokens hkeys
    exact ⟨_, hstart⟩

/-! ### The file of the keys -/

/-- Reading a vault returns unless the name has a null character or the bytes of the file
are no text.  It gives the vault that the file holds and reports nothing, or it gives an
empty vault and reports the problem.  What the file of the keys is like stops the start of a
service only if its name cannot be looked up or its bytes are no text. -/
theorem vault_problems_reported (store : FileStore) (name : String) (settings : Settings)
    (rules : Option RuleSet) :
    ((∃ done, Vault.ofFile store name = .ok done) ↔
        '\x00' ∉ name.toList ∧ store.Decodes name) ∧
      (∀ v events, Vault.ofFile store name = .ok (v, events) →
        store.HoldsVault name v ∧ events = [] ∨
          (∀ w, ¬ store.HoldsVault name w) ∧ v = {} ∧ events = [Vault.problem name]) ∧
      ((∃ done, start store settings rules = .ok done) ↔
        (∃ level, logLevel settings.logLevel = .ok level) ∧
          (rules = none → store.Answers settings.accessFile) ∧
          store.Answers settings.apiKeysFile ∧ store.Decodes settings.apiKeysFile) := by
  refine ⟨Vault.ofFile_returns_iff, ?_, start_returns_iff⟩
  intro v events hread
  obtain ⟨hnull, hdecodes⟩ := Vault.ofFile_returns_iff.mp ⟨_, hread⟩
  -- the file holds a vault, or there is none in it; either way only one answer is possible
  rcases Vault.ofFile_cases hnull hdecodes with ⟨w, hholds, hw⟩ | ⟨hno, hempty⟩
  · obtain ⟨rfl, rfl⟩ := Prod.mk.inj (Except.ok.inj (hw.symm.trans hread))
    exact .inl ⟨hholds, rfl⟩
  · obtain ⟨rfl, rfl⟩ := Prod.mk.inj (Except.ok.inj (hempty.symm.trans hread))
    exact .inr ⟨hno, rfl, rfl⟩

/-- The files where nothing stands but the file of the keys. -/
def keysOnly (content : ByteArray) : FileStore :=
  { entries := [(["apikeys.json"], .file content)] }

theorem resolve_keysOnly (content : ByteArray) :
    (keysOnly content).resolve "apikeys.json" = .ok (.file content) := by
  rw [FileStore.isPart_apikeys.resolve_eq]
  rfl

theorem decodes_keysOnly_iff {content : ByteArray} :
    (keysOnly content).Decodes "apikeys.json" ↔ ∃ text, String.fromUTF8? content = some text := by
  rw [FileStore.Decodes, resolve_keysOnly]
  simp

/-- A file of the keys that ends too early is reported, and the service starts. -/
theorem vault_problems_reported_broken :
    let store := keysOnly "\x7b\"ApiKeys\": [".toUTF8
    Vault.ofFile store "apikeys.json" = .ok ({}, [Vault.problem "apikeys.json"]) ∧
      ∃ done, start store (Settings.usual "guardian" 8020) none = .ok done := by
  intro store
  have hbytes : String.fromUTF8? "\x7b\"ApiKeys\": [".toUTF8 = some "\x7b\"ApiKeys\": [" := by
    decide +kernel
  have hdecodes : store.Decodes "apikeys.json" := decodes_keysOnly_iff.mpr ⟨_, hbytes⟩
  obtain ⟨hreturns, hcases, hstart⟩ :=
    vault_problems_reported store "apikeys.json" (Settings.usual "guardian" 8020) none
  constructor
  · obtain ⟨⟨v, events⟩, hread⟩ := hreturns.mpr ⟨by decide, hdecodes⟩
    rcases hcases v events hread with ⟨⟨content, text, hfile, htext, hvault⟩, -⟩ | ⟨-, rfl, rfl⟩
    · -- the text is not that of a vault
      exfalso
      rw [resolve_keysOnly] at hfile
      cases hfile
      obtain rfl := Option.some.inj (hbytes.symm.trans htext)
      have hfaults : (Vault.ofText "\x7b\"ApiKeys\": [").faults ≠ [] := by decide +kernel
      rw [hvault] at hfaults
      exact hfaults rfl
    · exact hread
  · exact hstart.mpr ⟨⟨_, logLevel_info⟩,
      fun _ => FileStore.isPart_access.answers store,
      FileStore.isPart_apikeys.answers store, hdecodes⟩

/-- A file of the keys with a byte that is no text stops the reading, and the service does
not start. -/
theorem vault_stops_on_undecodable :
    let store := keysOnly ⟨#[0xFF]⟩
    (¬ ∃ done, Vault.ofFile store "apikeys.json" = .ok done) ∧
      ¬ ∃ done, start store (Settings.usual "guardian" 8020) none = .ok done := by
  intro store
  have hundecodable : ¬ store.Decodes "apikeys.json" := by
    rw [decodes_keysOnly_iff]
    rintro ⟨text, htext⟩
    have hnone : String.fromUTF8? ⟨#[0xFF]⟩ = none := by decide +kernel
    exact Option.some_ne_none text (htext.symm.trans hnone)
  rw [Vault.ofFile_returns_iff, start_returns_iff]
  exact ⟨fun h => hundecodable h.2, fun h => hundecodable h.2.2.2⟩

end Service

end RouteAccess
