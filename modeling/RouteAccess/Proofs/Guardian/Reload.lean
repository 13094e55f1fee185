/-
RouteAccess/Proofs/Guardian/Reload.lean

A load is all or nothing.  Either the guardian is the very same as before, and
then the file is missing, is no text or holds no document (`Unusable`), or it
publishes a rule set in which nothing is left of the rules before: that of the
document alone.  Loading the same again therefore changes no rule
(`rules_run_reloads`).

A reload reports whether a snapshot was published, and compares numbers for it.
That is right because the snapshot in force never has a number that is still to
be given out: a step takes numbers from `next` on, and puts a former snapshot in
force only if it has been held (`Session.IsNumbered`, `isNumbered_step`).
-/
import RouteAccess.Proofs.Guardian.Load
import RouteAccess.Proofs.Guardian.Run

namespace RouteAccess

/-! ### What a load finds -/

/-- Why a name that can be looked up leads to no document. -/
inductive FileStore.Unusable (store : FileStore) (name : String) : Prop
  | missing : store.isFile name = .ok false → Unusable store name
  | locked : store.resolve name = .ok .locked → Unusable store name
  | noText {content : ByteArray} :
      store.resolve name = .ok (.file content) → String.fromUTF8? content = none →
        Unusable store name
  | noDocument {content : ByteArray} {text : String} :
      store.resolve name = .ok (.file content) → String.fromUTF8? content = some text →
        AccessDocument.ofText? text = none → Unusable store name

/-- A file that can be looked up and has no document is of no use, for one of four reasons. -/
theorem FileStore.unusable_of_document?_eq_none {store : FileStore} {name : String}
    (h : store.document? name = none) (hanswers : store.Answers name) :
    store.Unusable name := by
  rw [document?] at h
  cases hresolve : store.resolve name with
  | error fault =>
    refine .missing ?_
    rw [isFile, hresolve]
    exact if_neg (Bool.eq_false_iff.mp (answers_iff_comesUp.mp hanswers fault hresolve))
  | ok entry =>
    cases entry with
    | folder | closed => exact .missing (by rw [isFile, hresolve])
    | locked => exact .locked hresolve
    | file content =>
      rw [hresolve] at h
      cases htext : String.fromUTF8? content with
      | none => exact .noText hresolve htext
      | some text =>
        refine .noDocument hresolve htext ?_
        simpa only [AccessDocument.ofBytes?, htext, Option.bind_some] using h

theorem FileStore.document?_of_resolve {store : FileStore} {name : String} {content : ByteArray}
    (h : store.resolve name = .ok (.file content)) :
    store.document? name = AccessDocument.ofBytes? content := by
  rw [document?, h]

namespace Guardian

variable {g g' : Guardian} {store : FileStore} {notices : List LoadNotice}

theorem adopt_cases (g : Guardian) (d? : Option AccessDocument) :
    (d? = none ∧ g.adopt d? = g) ∨ ∃ d, d? = some d ∧ g.adopt d? = g.publish d.ruleSet := by
  cases d? with
  | none => exact .inl ⟨rfl, rfl⟩
  | some d => exact .inr ⟨d, rfl, rfl⟩

/-! ### Reloading -/

/-- The document that a guardian is reloaded from: that of its access file, if it
has one. -/
def document? (g : Guardian) (store : FileStore) : Option AccessDocument :=
  match g.accessFile with
  | none => none
  | some name => if name = "" then none else store.document? name

/-- The document of a guardian is that of its access file, if it has one with a name. -/
theorem document?_eq_some_iff {d : AccessDocument} :
    g.document? store = some d ↔
      ∃ name, g.accessFile = some name ∧ name ≠ "" ∧ store.document? name = some d := by
  rw [document?]
  cases g.accessFile with
  | none => simp
  | some name => simp

@[simp] theorem document?_adopt (g : Guardian) (d? : Option AccessDocument) (store : FileStore) :
    (g.adopt d?).document? store = g.document? store := by
  cases d? <;> rfl

/-- Only what the access file leads to counts. -/
theorem document?_congr {files : FileStore}
    (h : ∀ name ∈ g.accessFile, files.resolve name = store.resolve name) :
    g.document? files = g.document? store := by
  rw [document?, document?]
  cases hfile : g.accessFile with
  | none => rfl
  | some name => simp only [FileStore.document?, h name hfile]

/-- A reload that stops on an error has not found a document. -/
theorem document?_of_reload_error {fault : PathFault} (h : g.reload store = .error fault) :
    g.document? store = none := by
  have hstops : ¬ ∃ done, g.reload store = .ok done := by simp [h]
  simp only [reload_returns_iff, Classical.not_forall] at hstops
  obtain ⟨name, hfile, hmute⟩ := hstops
  -- a name that cannot be looked up leads to no document
  have hnone : store.document? name = none := by
    rw [FileStore.document?]
    cases hresolve : store.resolve name with
    | error fault => rfl
    | ok entry => exact absurd (FileStore.answers_of_resolve hresolve) hmute
  rw [document?, Option.mem_def.mp hfile]
  simp [hnone]

/-- A reload that returns takes over the document of the access file, if there is one. -/
theorem reload_adopt {flag : Bool} (h : g.reload store = .ok (flag, g', notices)) :
    g' = g.adopt (g.document? store) := by
  rcases reload_ok h with ⟨rfl, hfile | hfile⟩ | ⟨name, hfile, hne, hload⟩
  · rw [document?, hfile]
    rfl
  · rw [document?, hfile]
    rfl
  · rw [document?, hfile]
    simpa only [if_neg hne] using loadFile_ok hload

/-- What a reload reports is whether the snapshot has another number now. -/
theorem reload_flag {flag : Bool} (h : g.reload store = .ok (flag, g', notices)) :
    flag = g.isChanged g' := by
  by_cases hno : ∀ name ∈ g.accessFile, name = ""
  · -- without a file nothing is loaded, and the flag is false; else it is what the comparison says
    rw [reload_of_no_file hno] at h
    obtain ⟨rfl, rfl, -⟩ := Except.ok.inj h
    simp [isChanged]
  · obtain ⟨name, hfile, hne⟩ : ∃ name, g.accessFile = some name ∧ name ≠ "" := by
      simpa using hno
    rw [reload_of_file hfile hne] at h
    cases hload : g.loadFile store name with
    | error fault =>
      rw [hload] at h
      simp [Except.map] at h
    | ok done =>
      rw [hload] at h
      obtain ⟨rfl, rfl⟩ := Prod.mk.inj (Except.ok.inj h)
      rfl

/-- A guardian whose snapshot has a number below the next one changes exactly if
there is a document. -/
theorem isChanged_adopt (hg : g.current.serial < g.next) (d? : Option AccessDocument) :
    g.isChanged (g.adopt d?) = d?.isSome := by
  cases d? with
  | none => simp [adopt, isChanged]
  | some d =>
    -- the published snapshot has the next number, which is not the one in force
    have hne : g.next ≠ g.current.serial := (Nat.ne_of_lt hg).symm
    simp [adopt, isChanged, publish, hne]

/-! ### Numbers of snapshots -/

/-- Whether a change puts no snapshot in force but those that have been held. -/
def Change.RestoresHeld (held : List (String × Snapshot)) : Change → Prop
  | .restore snapshot => ∃ e ∈ held, e.2 = snapshot
  | _ => True

/-- Whether the snapshot in force has a number below the next one, and no number
that has been given out is given out again. -/
structure Follows (g g' : Guardian) : Prop where
  current : g'.current.serial < g'.next
  next : g.next ≤ g'.next

theorem follows_publish (g : Guardian) (rules : RuleSet) : Follows g (g.publish rules) :=
  ⟨Nat.lt_succ_self _, Nat.le_succ _⟩

theorem Loaded.follows (h : Loaded g g') (hg : g.current.serial < g.next) : Follows g g' := by
  cases h with
  | kept => exact ⟨hg, Nat.le_refl _⟩
  | published d => exact follows_publish g _

/-- A change that restores nothing but held snapshots gives new numbers to new snapshots only. -/
theorem Changed.follows {held : List (String × Snapshot)} {c : Change}
    (h : Changed g store c g') (hc : c.RestoresHeld held)
    (hheld : ∀ e ∈ held, e.2.serial < g.next) (hg : g.current.serial < g.next) :
    Follows g g' := by
  cases h with
  | setDefault policy => exact follows_publish g _
  | clear => exact follows_publish g _
  | statement hrules => exact follows_publish g _
  | publish rules => exact follows_publish g _
  | restore snapshot =>
    -- a held snapshot has a number that was given before
    obtain ⟨e, hmem, rfl⟩ := hc
    exact ⟨hheld e hmem, Nat.le_refl _⟩
  | loadText text => exact (loaded_loadText g text).follows hg
  | loadFile hload => exact (loaded_loadFile hload).follows hg
  | reload hload => exact (loaded_reload hload).follows hg
  | reloadFrom name => exact ⟨hg, Nat.le_refl _⟩

namespace Session

variable {s : Session} {step : Step} {steps : List Step}

/-- Whether the snapshot in force and all that are held have numbers below the
next one. -/
structure IsNumbered (s : Session) : Prop where
  current : s.guardian.current.serial < s.guardian.next
  held : ∀ e ∈ s.held, e.2.serial < s.guardian.next

/-- Whether a step puts no snapshot in force but those that have been held. -/
def RestoresHeld (s : Session) : Step → Prop
  | .change c => c.RestoresHeld s.held
  | _ => True

/-- A step that restores nothing but held snapshots keeps all numbers below the next one. -/
theorem isNumbered_step (h : s.RestoresHeld step) (hs : s.IsNumbered) :
    (s.step step).1.IsNumbered := by
  cases step with
  | change c =>
    rcases s.step_change c with ⟨g, hchanged, heq⟩ | heq
    · have hfollows := hchanged.follows h hs.held hs.current
      rw [heq]
      exact ⟨hfollows.current, fun e he => Nat.lt_of_lt_of_le (hs.held e he) hfollows.next⟩
    · rw [heq]
      exact hs
  | hold name => exact ⟨hs.current, List.forall_mem_cons.mpr ⟨hs.current, hs.held⟩⟩
  | files store => exact ⟨hs.current, hs.held⟩

/-- A session with a new guardian has its numbers in order after any steps. -/
theorem isNumbered_run {accessFile : Option String} {rules : RuleSet} {files : FileStore}
    (hcreate : create store accessFile rules = .ok (g, notices))
    (hsteps : Along RestoresHeld { guardian := g, store := files } steps) :
    (run { guardian := g, store := files } steps).IsNumbered :=
  hsteps.run (fun _ _ => isNumbered_step)
    ⟨((loaded_create hcreate).follows Nat.one_pos).current, by simp⟩

/-! ### Reloading again -/

/-- Whether a step is a reload, or leaves the guardian and its access file. -/
def OnlyReloads (s : Session) : Step → Prop
  | .change .reload => True
  | .change _ => False
  | .hold _ => True
  | .files files => ∀ name ∈ s.guardian.accessFile, files.resolve name = s.store.resolve name

/-- Whether the rules in force are those that a reload would bring, if it would
bring any. -/
def UpToDate (s : Session) : Prop :=
  ∀ d, s.guardian.document? s.store = some d → s.guardian.current.rules = d.ruleSet

/-- A reload that returns nothing finds no document, so each reload takes over the
document that it finds, if there is one. -/
theorem step_reload (s : Session) :
    (s.step (.change .reload)).1
      = { s with guardian := s.guardian.adopt (s.guardian.document? s.store) } := by
  cases hload : s.guardian.reload s.store with
  | ok done =>
    simp only [step, change, hload]
    rw [reload_adopt hload]
  | error fault =>
    have hnone : s.guardian.document? s.store = none := document?_of_reload_error hload
    simp only [step, change, hload, hnone]
    rfl

/-- After a reload the rules are those of the access file. -/
theorem upToDate_reload (s : Session) : (s.step (.change .reload)).1.UpToDate := by
  intro d hd
  rw [step_reload] at hd ⊢
  rw [document?_adopt] at hd
  show (s.guardian.adopt (s.guardian.document? s.store)).current.rules = d.ruleSet
  rw [hd]
  rfl

/-- Where the rules are those of the access file already, a reload leaves them. -/
theorem rules_reload (hs : s.UpToDate) :
    (s.step (.change .reload)).1.guardian.current.rules = s.guardian.current.rules := by
  rw [step_reload]
  rcases adopt_cases s.guardian (s.guardian.document? s.store) with ⟨-, heq⟩ | ⟨d, hd, heq⟩
  · rw [heq]
  · rw [heq, hs d hd]
    rfl

/-- While the access file stays what it is, a step that at most reloads leaves the rules. -/
theorem upToDate_step (h : s.OnlyReloads step) (hs : s.UpToDate) :
    (s.step step).1.UpToDate ∧
      (s.step step).1.guardian.current.rules = s.guardian.current.rules := by
  cases step with
  | change c =>
    cases c with
    | reload => exact ⟨upToDate_reload s, rules_reload hs⟩
    | _ => exact h.elim
  | hold name => exact ⟨hs, rfl⟩
  | files files => exact ⟨fun d hd => hs d (document?_congr h ▸ hd), rfl⟩

/-- Once reloaded, the rules stay what they are, however often they are reloaded
while the access file stays what it is. -/
theorem rules_run_reloads (h : Along OnlyReloads (s.step (.change .reload)).1 steps) :
    ((s.step (.change .reload)).1.run steps).guardian.current.rules
      = (s.step (.change .reload)).1.guardian.current.rules :=
  (h.run (I := fun t => t.UpToDate ∧
      t.guardian.current.rules = (s.step (.change .reload)).1.guardian.current.rules)
    (fun _ _ hstep ht =>
      have hnext := upToDate_step hstep ht.1
      ⟨hnext.1, hnext.2.trans ht.2⟩)
    ⟨upToDate_reload s, rfl⟩).2

end Session

/-! ### All or nothing -/

/-- A load that returns takes over the document of the file, or the file is
unusable and nothing changes. -/
theorem loadFile_cases {name : String} (h : g.loadFile store name = .ok (g', notices)) :
    (store.Unusable name ∧ g' = g) ∨
      ∃ d, store.document? name = some d ∧ g' = g.publish d.ruleSet := by
  have hanswers := loadFile_returns_iff.mp ⟨_, h⟩
  rw [loadFile_ok h]
  rcases adopt_cases g (store.document? name) with ⟨hnone, heq⟩ | hsome
  · exact .inl ⟨FileStore.unusable_of_document?_eq_none hnone hanswers, heq⟩
  · exact .inr hsome

/-- A file that holds a document is taken over, whatever rules are in force. -/
theorem loadFile_of_document {name : String} {d : AccessDocument}
    (h : store.document? name = some d) (g : Guardian) :
    ∃ notices, g.loadFile store name = .ok (g.publish d.ruleSet, notices) := by
  -- a name that leads to a document can be looked up
  have hanswers : store.Answers name := by
    rw [FileStore.document?] at h
    cases hresolve : store.resolve name with
    | error fault =>
      rw [hresolve] at h
      cases h
    | ok entry => exact FileStore.answers_of_resolve hresolve
  obtain ⟨notices, hload⟩ := loadFile_of_answers hanswers g
  rw [h] at hload
  exact ⟨notices, hload⟩

/-- A reload reports a change exactly if the access file has a document, and then it is published.
-/
theorem reload_flag_iff {flag : Bool} (hg : g.current.serial < g.next)
    (h : g.reload store = .ok (flag, g', notices)) :
    flag = true ↔
      ∃ name d, g.accessFile = some name ∧ name ≠ "" ∧ store.document? name = some d ∧
        g' = g.publish d.ruleSet := by
  rw [reload_flag h, reload_adopt h, isChanged_adopt hg, Option.isSome_iff_exists]
  constructor
  · -- a document that is found is that of the access file, and is published
    rintro ⟨d, hd⟩
    obtain ⟨name, hfile, hne, hname⟩ := document?_eq_some_iff.mp hd
    exact ⟨name, d, hfile, hne, hname, by rw [hd, adopt]⟩
  · rintro ⟨name, d, hfile, hne, hname, -⟩
    exact ⟨d, document?_eq_some_iff.mpr ⟨name, hfile, hne, hname⟩⟩

/-- In every state of a session, loading a text never fails; a text or a file
that is loaded changes nothing at all, or publishes the rule set of its document,
the same for all guardians; a reload reports whether the access file was loaded;
and further reloads of the same file change no rule. -/
theorem load_all_or_nothing {accessFile : Option String} {rules : RuleSet} {files : FileStore}
    {steps : List Step} (hcreate : create store accessFile rules = .ok (g, notices))
    (hsteps : Session.Along Session.RestoresHeld { guardian := g, store := files } steps) :
    let s := Session.run { guardian := g, store := files } steps
    let reached := s.guardian
    let once := (s.step (.change .reload)).1
    (∀ text, ∃ g' log, reached.change s.store (.loadText text) = .ok (g', log) ∧
        ((AccessDocument.ofText? text = none ∧ g' = reached) ∨
          ∃ d, AccessDocument.ofText? text = some d ∧ g' = reached.publish d.ruleSet)) ∧
      (∀ (store : FileStore) name g' log, reached.loadFile store name = .ok (g', log) →
        (store.Unusable name ∧ g' = reached) ∨
          ∃ d, store.document? name = some d ∧ g' = reached.publish d.ruleSet) ∧
      (∀ (other : Guardian) (store₁ store₂ : FileStore) name₁ name₂ content d,
        store₁.resolve name₁ = .ok (.file content) → store₂.resolve name₂ = .ok (.file content) →
        AccessDocument.ofBytes? content = some d →
        ∃ g₁ log₁ g₂ log₂, reached.loadFile store₁ name₁ = .ok (g₁, log₁) ∧
          other.loadFile store₂ name₂ = .ok (g₂, log₂) ∧ g₁.current.rules = g₂.current.rules) ∧
      (∀ (store : FileStore) flag g' log, reached.reload store = .ok (flag, g', log) →
        (flag = true ↔ ∃ name d, reached.accessFile = some name ∧ name ≠ "" ∧
          store.document? name = some d ∧ g' = reached.publish d.ruleSet)) ∧
      ∀ more, Session.Along Session.OnlyReloads once more →
        (once.run more).guardian.current.rules = once.guardian.current.rules := by
  intro s reached once
  have hnumbered : reached.current.serial < reached.next :=
    (Session.isNumbered_run hcreate hsteps).current
  refine ⟨fun text => ?_, fun store name g' log => loadFile_cases, ?_,
    fun store flag g' log => reload_flag_iff hnumbered, fun more => Session.rules_run_reloads⟩
  · -- a text is adopted, so it is taken over as a whole or not at all
    refine ⟨(reached.loadText text).1, (reached.loadText text).2, rfl, ?_⟩
    rw [fst_loadText]
    exact adopt_cases reached (AccessDocument.ofText? text)
  · -- what is taken over depends on the content of the file, not on the guardian or the name
    intro other store₁ store₂ name₁ name₂ content d h₁ h₂ hd
    have hd₁ := (FileStore.document?_of_resolve h₁).trans hd
    have hd₂ := (FileStore.document?_of_resolve h₂).trans hd
    obtain ⟨log₁, hload₁⟩ := loadFile_of_document hd₁ reached
    obtain ⟨log₂, hload₂⟩ := loadFile_of_document hd₂ other
    exact ⟨_, log₁, _, log₂, hload₁, hload₂, rfl⟩

/-- A rule is in force; then the access file comes to hold a document without
rules, and is reloaded again and again. -/
theorem reloaded_again :
    let content := "\x7b\"default\": \"allow\"\x7d".toUTF8
    let files : FileStore := { entries := [(["access.json"], .file content)] }
    let start : Session := { guardian := {}, store := {} }
    let s := start.run
      [.change (.statement .deny (some "get") (some "/old") none),
        .change (.reloadFrom (some "access.json")), .files files]
    let once := (s.step (.change .reload)).1
    s.guardian.current.rules.size = 7 ∧
      (∃ g' log, s.guardian.reload files = .ok (true, g', log) ∧
        g'.current.rules = ⟨[], .allow⟩) ∧
      (once.run (List.replicate 3 (.change .reload))).guardian.current.rules
        = once.guardian.current.rules := by
  intro content files start s once
  have hparts : FileStore.parts "access.json" = ["access.json"] := by decide +kernel
  have hfits : FileStore.Fits "access.json" := ⟨by decide +kernel, by decide +kernel⟩
  have hresolve : files.resolve "access.json" = .ok (.file content) := by
    rw [FileStore.resolve_relative (by decide +kernel) (by decide +kernel) hfits, hparts]
    rfl
  let d := (AccessDocument.ofBytes? content).get (by decide +kernel)
  have hd : files.document? "access.json" = some d :=
    (FileStore.document?_of_resolve hresolve).trans (Option.some_get _).symm
  have hrules : d.ruleSet = ⟨[], .allow⟩ := by decide +kernel
  have hcreate : create {} none {} = .ok ({}, []) := rfl
  have hsteps : Session.Along Session.RestoresHeld start
      [.change (.statement .deny (some "get") (some "/old") none),
        .change (.reloadFrom (some "access.json")), .files files] :=
    ⟨trivial, trivial, trivial, trivial⟩
  obtain ⟨-, -, -, hflag, hagain⟩ := load_all_or_nothing hcreate hsteps
  have hfile : s.guardian.accessFile = some "access.json" := by rfl
  refine ⟨by decide +kernel, ?_, hagain _ ⟨trivial, trivial, trivial, trivial⟩⟩
  -- the access file is there, so that the reload returns
  obtain ⟨⟨flag, g', log⟩, hreload⟩ : ∃ done, s.guardian.reload files = .ok done := by
    refine reload_returns_iff.mpr fun name hname => ?_
    obtain rfl := Option.some.inj (hfile.symm.trans hname)
    exact FileStore.answers_of_resolve hresolve
  have hg' : g' = s.guardian.publish d.ruleSet := by
    rw [reload_adopt hreload, document?_eq_some_iff.mpr ⟨_, hfile, by decide, hd⟩, adopt]
  have htrue : flag = true :=
    (hflag files flag g' log hreload).mpr ⟨_, d, hfile, by decide, hd, hg'⟩
  refine ⟨g', log, htrue ▸ hreload, ?_⟩
  rw [hg', publish, hrules]

end Guardian

end RouteAccess
