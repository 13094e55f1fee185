/-
RouteAccess/Proofs/Guardian/Load.lean

Loading a file.  A name leads to a document or to none (`FileStore.document?`),
and a guardian takes over the rules of a document or stays as it is (`adopt`).
So it is with every file, whatever it holds; but there are names that cannot be
looked up at all, since they are too long or a folder on the way may not be entered,
and then nothing is returned, neither by a load nor by whatever loads
(`returns_iff_answers`):

    (∃ done, g.loadFile store name = .ok done) ↔ store.Answers name.

Names within the limits are never too long, and where all folders can be entered
they are always looked up (`FileStore.answers_of_fits`).  What is not considered is a
medium that fails, and links among the files.
-/
import RouteAccess.Guardian
import RouteAccess.Proofs.FileStore

namespace RouteAccess

/-! ### Documents in files -/

/-- The document that bytes hold in UTF-8. -/
def AccessDocument.ofBytes? (content : ByteArray) : Option AccessDocument :=
  (String.fromUTF8? content).bind ofText?

/-- The document that a name leads to, if it leads to a file that holds one. -/
def FileStore.document? (store : FileStore) (name : String) : Option AccessDocument :=
  match store.resolve name with
  | .ok (.file content) => AccessDocument.ofBytes? content
  | _ => none

/-- The rule set of a file is that of its document, if the name can be looked up. -/
theorem AccessDocument.loadFile_of_answers {store : FileStore} {name : String}
    (h : store.Answers name) :
    ∃ notices, loadFile store name = .ok ((store.document? name).map (·.ruleSet), notices) := by
  rw [loadFile, FileStore.document?]
  cases hresolve : store.resolve name with
  | error fault =>
    -- a fault that does not come up is taken for a file that is not there
    have hquiet : ¬ fault.comesUp = true :=
      Bool.eq_false_iff.mp (FileStore.answers_iff_comesUp.mp h fault hresolve)
    exact ⟨_, if_neg hquiet⟩
  | ok entry =>
    cases entry with
    | folder | closed | locked => exact ⟨_, rfl⟩
    | file content =>
      dsimp only [AccessDocument.ofBytes?]
      cases String.fromUTF8? content with
      | none => exact ⟨_, rfl⟩
      | some text =>
        dsimp only [Option.bind_some, load]
        cases ofText? text with
        | none => exact ⟨_, rfl⟩
        | some d => exact ⟨_, rfl⟩

namespace Guardian

variable {g g' : Guardian} {store : FileStore} {name : String} {notices : List LoadNotice}

/-! ### Loading returns -/

/-- The guardian with the rules of a document, if there is one. -/
def adopt (g : Guardian) : Option AccessDocument → Guardian
  | none => g
  | some d => g.publish d.ruleSet

/-- A text that is loaded takes over the document that it is, if it is one. -/
theorem fst_loadText (g : Guardian) (text : String) :
    (g.loadText text).1 = g.adopt (AccessDocument.ofText? text) := by
  rw [loadText, AccessDocument.load_base, AccessDocument.load]
  cases AccessDocument.ofText? text with
  | none => rfl
  | some d => rfl

/-- A fault that comes up is passed on. -/
theorem loadFile_of_comesUp {fault : PathFault} (h : store.resolve name = .error fault)
    (hfault : fault.comesUp = true) (g : Guardian) : g.loadFile store name = .error fault := by
  have hload : AccessDocument.loadFile store name g.current.rules = .error fault := by
    rw [AccessDocument.loadFile, h]
    exact if_pos hfault
  rw [loadFile, hload]

/-- A file whose name can be looked up takes over the document that it holds, if it holds one. -/
theorem loadFile_of_answers (h : store.Answers name) (g : Guardian) :
    ∃ notices, g.loadFile store name = .ok (g.adopt (store.document? name), notices) := by
  obtain ⟨notices, hload⟩ := AccessDocument.loadFile_of_answers h
  rw [loadFile, AccessDocument.loadFile_base, hload]
  cases store.document? name with
  | none => exact ⟨_, rfl⟩
  | some d => exact ⟨_, rfl⟩

/-- A load returns exactly if the name can be looked up. -/
theorem loadFile_returns_iff :
    (∃ done, g.loadFile store name = .ok done) ↔ store.Answers name := by
  constructor
  · rintro ⟨done, hload⟩
    refine ⟨fun hlong => ?_, fun hrefused => ?_⟩
    · rw [loadFile_of_comesUp hlong rfl] at hload
      cases hload
    · rw [loadFile_of_comesUp hrefused rfl] at hload
      cases hload
  · intro h
    obtain ⟨notices, hload⟩ := loadFile_of_answers h g
    exact ⟨_, hload⟩

/-- A load that returns takes over the document of the file, if there is one. -/
theorem loadFile_ok (h : g.loadFile store name = .ok (g', notices)) :
    g' = g.adopt (store.document? name) := by
  obtain ⟨_, hload⟩ := loadFile_of_answers (loadFile_returns_iff.mp ⟨_, h⟩) g
  rw [hload] at h
  exact (Prod.mk.inj (Except.ok.inj h)).1.symm

/-- A guardian can be built exactly if the name of its access file, if it has one, can be looked
up. -/
theorem create_returns_iff {accessFile : Option String} {rules : RuleSet} :
    (∃ done, create store accessFile rules = .ok done) ↔
      ∀ name ∈ accessFile, store.Answers name := by
  cases accessFile with
  | none => simp [create]
  | some name =>
    simp only [Option.mem_some_iff, forall_eq']
    rw [create]
    by_cases hempty : name = ""
    · -- an empty name counts as none, and leads to the folder of the service besides
      subst hempty
      have h : store.Answers "" := FileStore.answers_of_resolve (FileStore.resolve_empty store)
      simpa using h
    · simp only [if_neg hempty]
      exact loadFile_returns_iff

theorem reload_of_no_file (h : ∀ name ∈ g.accessFile, name = "") (store : FileStore) :
    g.reload store = .ok (false, g, []) := by
  rw [reload]
  cases hfile : g.accessFile with
  | none => rfl
  | some name => exact if_pos (h name hfile)

/-- With an access file, a reload is a load that also reports whether it changed
something. -/
theorem reload_of_file (hfile : g.accessFile = some name) (hne : name ≠ "") (store : FileStore) :
    g.reload store = (g.loadFile store name).map fun done => (g.isChanged done.1, done) := by
  rw [reload, hfile]
  simp only [if_neg hne]
  cases g.loadFile store name with
  | error fault => rfl
  | ok done => rfl

/-- A reload returns exactly if the name of the access file, if there is one, can be looked up. -/
theorem reload_returns_iff :
    (∃ done, g.reload store = .ok done) ↔ ∀ name ∈ g.accessFile, store.Answers name := by
  by_cases hno : ∀ name ∈ g.accessFile, name = ""
  · -- the empty name leads to the folder of the service
    have hanswers : ∀ name ∈ g.accessFile, store.Answers name := fun name hname =>
      FileStore.answers_of_resolve (hno name hname ▸ FileStore.resolve_empty store)
    exact ⟨fun _ => hanswers, fun _ => ⟨_, reload_of_no_file hno store⟩⟩
  · obtain ⟨name, hfile, hne⟩ : ∃ name, g.accessFile = some name ∧ name ≠ "" := by
      simpa using hno
    rw [reload_of_file hfile hne, hfile]
    simp only [Option.mem_some_iff, forall_eq']
    rw [← loadFile_returns_iff (g := g)]
    cases g.loadFile store name with
    | error fault => simp [Except.map]
    | ok done => simp [Except.map]

/-- Building a guardian with a file, loading a file and reloading it return exactly if the
name can be looked up, that is unless it is too long or a folder on the way may not be entered,
whatever the files hold and whatever rules are in force.  A name within the limits is never too
long, and where no folder is closed it can always be looked up. -/
theorem returns_iff_answers (g : Guardian) (store : FileStore) (accessFile : Option String)
    (rules : RuleSet) (name : String) :
    ((∃ done, create store accessFile rules = .ok done) ↔
        ∀ n ∈ accessFile, store.Answers n) ∧
      ((∃ done, g.loadFile store name = .ok done) ↔ store.Answers name) ∧
      ((∃ done, g.reload store = .ok done) ↔ ∀ n ∈ g.accessFile, store.Answers n) ∧
      (FileStore.Fits name → store.resolve name ≠ .error .nameTooLong) ∧
      (FileStore.Fits name → store.IsOpen → store.Answers name) :=
  ⟨create_returns_iff, loadFile_returns_iff, reload_returns_iff,
    fun h => FileStore.not_long_of_fits h store, FileStore.answers_of_fits⟩

/-- A guardian can be built with a file of a short name that is not there. -/
theorem returns_of_short_name :
    FileStore.Fits "conf/access.json" ∧
      ∃ done, create {} (some "conf/access.json") {} = .ok done := by
  have hfits : FileStore.Fits "conf/access.json" := ⟨by decide +kernel, by decide +kernel⟩
  -- a store without entries has no closed folder
  have hopen : FileStore.IsOpen {} := by
    intro path hclosed
    rw [FileStore.entry?] at hclosed
    split at hclosed <;> cases hclosed
  obtain ⟨hcreate, -, -, -, hanswers⟩ :=
    returns_iff_answers {} {} (some "conf/access.json") {} "conf/access.json"
  refine ⟨hfits, hcreate.mpr fun n hn => ?_⟩
  obtain rfl := Option.mem_some_iff.mp hn
  exact hanswers hfits hopen

/-- A name of one part with 256 letters is looked up nowhere: nothing returns. -/
theorem not_returns_of_long_name :
    let long := String.ofList (List.replicate 256 'a')
    let g : Guardian := { accessFile := some long }
    ¬ (∃ done, create {} (some long) {} = .ok done) ∧
      ¬ (∃ done, g.loadFile {} long = .ok done) ∧ ¬ ∃ done, g.reload {} = .ok done := by
  intro long g
  have hother : ∀ c ≠ 'a', c ∉ List.replicate 256 'a' := fun c hc h =>
    hc (List.eq_of_mem_replicate h)
  have hlength : FileStore.maxPart < (List.replicate 256 'a').length := by
    rw [List.length_replicate]
    decide
  -- the name is one part, and longer than a part may be
  have hlong := FileStore.resolve_of_long_name (hother '/' (by decide)) (hother '\x00' (by decide))
    hlength {}
  rw [create_returns_iff, loadFile_returns_iff, reload_returns_iff]
  exact ⟨fun h => (h long rfl).not_long hlong, fun h => h.not_long hlong,
    fun h => (h long rfl).not_long hlong⟩

end Guardian

end RouteAccess
