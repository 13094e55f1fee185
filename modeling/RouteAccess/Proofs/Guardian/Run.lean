/-
RouteAccess/Proofs/Guardian/Run.lean

Runs of sessions.  `Along P s steps` says that each step of a run satisfies a
condition in the session in which it is taken, and `Along.run` is the induction
over runs, done once: what each such step keeps, the run keeps.

Loading, in whatever way, leaves a guardian as it is or publishes the rule set of
a document (`Loaded`).  `Changed` lists what each change makes of a guardian when
it succeeds (`changed_of_change`); one that fails makes nothing of it.
-/
import RouteAccess.Guardian.Session

namespace RouteAccess

/-! ### Loading -/

namespace AccessDocument

/-- Rules that a text gives are those of a document. -/
theorem exists_of_load {text : String} {rules : RuleSet} (h : (load text).1 = some rules) :
    ∃ d : AccessDocument, rules = d.ruleSet := by
  rw [load] at h
  split at h
  · simp at h
  · rename_i d _
    exact ⟨d, (Option.some.inj h).symm⟩

/-- Rules that a file gives are those of a document. -/
theorem exists_of_loadFile {store : FileStore} {name : String} {rules : RuleSet}
    {notices : List LoadNotice} (h : loadFile store name = .ok (some rules, notices)) :
    ∃ d : AccessDocument, rules = d.ruleSet := by
  rw [loadFile] at h
  split at h
  · split at h
    · exact exists_of_load (congrArg Prod.fst (Except.ok.inj h))
    · simp at h
  · simp at h
  · simp at h
  · -- a fault comes up, or is taken for a file that is not there
    split at h <;> simp at h

end AccessDocument

namespace Guardian

variable {g g' : Guardian} {store : FileStore} {name : String} {notices : List LoadNotice}

/-- What loading makes of a guardian. -/
inductive Loaded (g : Guardian) : Guardian → Prop
  | kept : Loaded g g
  | published (d : AccessDocument) : Loaded g (g.publish d.ruleSet)

/-- A text that is loaded is published as a document, or nothing happens. -/
theorem loaded_loadText (g : Guardian) (text : String) : Loaded g (g.loadText text).1 := by
  rw [loadText, AccessDocument.load_base]
  split
  · rename_i rules _ h
    obtain ⟨d, rfl⟩ := AccessDocument.exists_of_load (congrArg Prod.fst h)
    exact .published d
  · exact .kept

/-- A file that is loaded is published as a document, or nothing happens. -/
theorem loaded_loadFile (h : g.loadFile store name = .ok (g', notices)) : Loaded g g' := by
  rw [loadFile, AccessDocument.loadFile_base] at h
  split at h
  · simp at h
  · rename_i rules _ hload
    obtain ⟨d, rfl⟩ := AccessDocument.exists_of_loadFile hload
    obtain ⟨rfl, -⟩ := Prod.mk.inj (Except.ok.inj h)
    exact .published d
  · obtain ⟨rfl, -⟩ := Prod.mk.inj (Except.ok.inj h)
    exact .kept

/-- A reload is a load of the access file, if there is one. -/
theorem reload_ok {changed : Bool} (h : g.reload store = .ok (changed, g', notices)) :
    (g' = g ∧ (g.accessFile = none ∨ g.accessFile = some "")) ∨
      ∃ name, g.accessFile = some name ∧ name ≠ "" ∧
        g.loadFile store name = .ok (g', notices) := by
  rw [reload] at h
  split at h
  · rename_i hfile
    obtain ⟨-, rfl, -⟩ := Except.ok.inj h
    exact .inl ⟨rfl, .inl hfile⟩
  · rename_i name hfile
    split at h
    · rename_i hempty
      obtain ⟨-, rfl, -⟩ := Except.ok.inj h
      exact .inl ⟨rfl, .inr (hempty ▸ hfile)⟩
    · -- the flag that comes with the guardian does not matter here
      rename_i hne
      refine .inr ⟨name, hfile, hne, ?_⟩
      cases hload : g.loadFile store name with
      | error fault =>
        rw [hload] at h
        simp [bind, Except.bind] at h
      | ok done =>
        rw [hload] at h
        obtain ⟨-, hdone⟩ := Prod.mk.inj (Except.ok.inj h)
        rw [← hdone]

theorem loaded_reload {changed : Bool} (h : g.reload store = .ok (changed, g', notices)) :
    Loaded g g' := by
  rcases reload_ok h with ⟨rfl, -⟩ | ⟨name, -, -, hload⟩
  · exact .kept
  · exact loaded_loadFile hload

/-- A new guardian has the rules that it is given, or those of its access file over them. -/
theorem loaded_create {accessFile : Option String} {rules : RuleSet}
    (h : create store accessFile rules = .ok (g, notices)) :
    Loaded { accessFile := accessFile, current := ⟨0, rules⟩ } g := by
  unfold create at h
  dsimp only at h
  split at h
  · obtain ⟨rfl, -⟩ := Prod.mk.inj (Except.ok.inj h)
    exact .kept
  · split at h
    · obtain ⟨rfl, -⟩ := Prod.mk.inj (Except.ok.inj h)
      exact .kept
    · exact loaded_loadFile h

/-! ### Changes -/

/-- A statement that is made publishes its rules behind those in force. -/
theorem addStatement_ok {policy : Policy} {verbs path subjects : Option String}
    (h : g.addStatement policy verbs path subjects = .ok g') :
    ∃ rules, expandStatement policy verbs path subjects = .ok rules ∧
      g' = g.publish (g.current.rules.extend rules) := by
  rw [addStatement] at h
  cases hrules : expandStatement policy verbs path subjects with
  | error fault =>
    rw [hrules] at h
    simp [bind, Except.bind] at h
  | ok rules =>
    rw [hrules] at h
    exact ⟨rules, rfl, (Except.ok.inj h).symm⟩

/-- What a change that succeeds makes of a guardian. -/
inductive Changed (g : Guardian) (store : FileStore) : Change → Guardian → Prop
  | setDefault (policy : Policy) : Changed g store (.setDefault policy) (g.setDefault policy)
  | clear : Changed g store .clear g.clear
  | statement {policy : Policy} {verbs path subjects : Option String} {rules : List Rule} :
      expandStatement policy verbs path subjects = .ok rules →
        Changed g store (.statement policy verbs path subjects)
          (g.publish (g.current.rules.extend rules))
  | publish (rules : RuleSet) : Changed g store (.publish rules) (g.publish rules)
  | restore (held : Snapshot) : Changed g store (.restore held) (g.restore held)
  | loadText (text : String) : Changed g store (.loadText text) (g.loadText text).1
  | loadFile {name : String} {g' : Guardian} {notices : List LoadNotice} :
      g.loadFile store name = .ok (g', notices) → Changed g store (.loadFile name) g'
  | reload {changed : Bool} {g' : Guardian} {notices : List LoadNotice} :
      g.reload store = .ok (changed, g', notices) → Changed g store .reload g'
  | reloadFrom (name : Option String) :
      Changed g store (.reloadFrom name) { g with accessFile := name }

/-- A change that succeeds does one of the nine things, with what it needs to succeed. -/
theorem changed_of_change {c : Change} (h : g.change store c = .ok (g', notices)) :
    Changed g store c g' := by
  cases c with
  | setDefault policy =>
    obtain ⟨rfl, -⟩ := Prod.mk.inj (Except.ok.inj h)
    exact .setDefault policy
  | clear =>
    obtain ⟨rfl, -⟩ := Prod.mk.inj (Except.ok.inj h)
    exact .clear
  -- three kinds of change can fail, and are peeled off their error first
  | statement policy verbs path subjects =>
    simp only [change] at h
    split at h
    · rename_i g₁ hadd
      obtain ⟨rules, hrules, rfl⟩ := addStatement_ok hadd
      obtain ⟨rfl, -⟩ := Prod.mk.inj (Except.ok.inj h)
      exact .statement hrules
    · simp at h
  | publish rules =>
    obtain ⟨rfl, -⟩ := Prod.mk.inj (Except.ok.inj h)
    exact .publish rules
  | restore held =>
    obtain ⟨rfl, -⟩ := Prod.mk.inj (Except.ok.inj h)
    exact .restore held
  | loadText text =>
    rw [show g' = (g.loadText text).1 from congrArg Prod.fst (Except.ok.inj h).symm]
    exact .loadText text
  | loadFile name =>
    simp only [change] at h
    split at h
    · rename_i done hload
      rw [Except.ok.inj h] at hload
      exact .loadFile hload
    · simp at h
  | reload =>
    simp only [change] at h
    split at h
    · rename_i changed done hload
      rw [Except.ok.inj h] at hload
      exact .reload hload
    · simp at h
  | reloadFrom name =>
    obtain ⟨rfl, -⟩ := Prod.mk.inj (Except.ok.inj h)
    exact .reloadFrom name

/-! ### Runs -/

namespace Session

variable {s : Session} {step : Step} {steps : List Step}

theorem run_cons (s : Session) (step : Step) (steps : List Step) :
    s.run (step :: steps) = (s.step step).1.run steps := rfl

/-- Whether each step of a run satisfies a condition where it is taken. -/
def Along (P : Session → Step → Prop) : Session → List Step → Prop
  | _, [] => True
  | s, step :: steps => P s step ∧ Along P (s.step step).1 steps

/-- What each step keeps, a run keeps. -/
theorem Along.run {P : Session → Step → Prop} {I : Session → Prop}
    (hstep : ∀ s step, P s step → I s → I (s.step step).1) (h : Along P s steps) (hs : I s) :
    I (s.run steps) := by
  induction steps generalizing s with
  | nil => exact hs
  | cons step rest ih =>
    -- the rest of the steps is taken in the session after the first one
    obtain ⟨hP, hrest⟩ := h
    rw [run_cons]
    exact ih hrest (hstep s step hP hs)

/-- A change that fails leaves the session, and one that succeeds leaves all but
the guardian. -/
theorem step_change (s : Session) (c : Change) :
    (∃ g, Changed s.guardian s.store c g ∧ (s.step (.change c)).1 = { s with guardian := g }) ∨
      (s.step (.change c)).1 = s := by
  cases hchange : s.guardian.change s.store c with
  | ok done => exact .inl ⟨done.1, changed_of_change hchange, by rw [step, hchange]⟩
  | error fault => exact .inr (by rw [step, hchange])

end Session

end Guardian

end RouteAccess
