/-
RouteAccess/Proofs/Guardian/Normal.lean

A guardian that starts without rules has normal and even rules for ever, as long
as no rule set is published that was made elsewhere.  Snapshots may be held and
put in force again, so the invariant covers those that are held
(`Session.IsNormal`); a document brings the rules of its statements only, and
they are normal and even for every statement that can be expanded.

It follows that a query whose verb is not in the fixed set meets no rule at all.
-/
import RouteAccess.Proofs.Guardian.Run
import RouteAccess.Proofs.Policy.Decision
import RouteAccess.Proofs.Policy.Expansion

namespace RouteAccess

namespace AccessDocument

/-- An entry that has rules is a statement that can be expanded. -/
theorem entryRules_ok {entry : Json} {rules : List Rule} (h : entryRules entry = .ok rules) :
    ∃ statement, Statement.ofJson entry = .ok statement ∧
      expandStatement statement.policy (some statement.verbs) (some statement.path)
        (some statement.subjects) = .ok rules := by
  rw [entryRules] at h
  cases hentry : Statement.ofJson entry with
  | error fault =>
    rw [hentry] at h
    simp [Except.bind] at h
  | ok statement =>
    rw [hentry] at h
    exact ⟨statement, rfl, h⟩

/-- The rules of a document are in normal form, whatever is written in it. -/
theorem areNormal_ruleSet (d : AccessDocument) : AreNormal d.ruleSet.rules := by
  refine .flatMap fun entry _ => ?_
  cases hrules : entryRules entry with
  | error fault => exact areNormal_nil
  | ok rules =>
    obtain ⟨statement, -, hexpand⟩ := entryRules_ok hrules
    exact areNormal_of_expandStatement hexpand

end AccessDocument

namespace Guardian

variable {g g' : Guardian} {store : FileStore}

/-! ### One change -/

/-- Whether a change brings in no rules that were made elsewhere: it publishes no
rule set and puts no snapshot in force but those that have been held. -/
def Change.IsInternal (held : List (String × Snapshot)) : Change → Prop
  | .publish rules => ∃ e ∈ held, e.2.rules = rules
  | .restore snapshot => ∃ e ∈ held, e.2 = snapshot
  | _ => True

theorem Loaded.areNormal (h : Loaded g g') (hg : AreNormal g.current.rules.rules) :
    AreNormal g'.current.rules.rules := by
  cases h with
  | kept => exact hg
  | published d => exact d.areNormal_ruleSet

/-- A change from within keeps the rules in normal form; what is restored or published was held,
and so is in normal form too. -/
theorem Changed.areNormal {held : List (String × Snapshot)} {c : Change}
    (h : Changed g store c g') (hc : c.IsInternal held)
    (hheld : ∀ e ∈ held, AreNormal e.2.rules.rules) (hg : AreNormal g.current.rules.rules) :
    AreNormal g'.current.rules.rules := by
  -- three of the changes take rules from elsewhere: held ones, those of a text, those of a file
  cases h with
  | setDefault policy => exact hg
  | clear => exact areNormal_nil
  | statement hrules => exact hg.append (areNormal_of_expandStatement hrules)
  | publish rules =>
    obtain ⟨e, hmem, rfl⟩ := hc
    exact hheld e hmem
  | restore snapshot =>
    obtain ⟨e, hmem, rfl⟩ := hc
    exact hheld e hmem
  | loadText text => exact (loaded_loadText g text).areNormal hg
  | loadFile hload => exact (loaded_loadFile hload).areNormal hg
  | reload hload => exact (loaded_reload hload).areNormal hg
  | reloadFrom name => exact hg

/-! ### Whole runs -/

namespace Session

variable {s : Session} {step : Step}

/-- Whether the rules in force and those of all snapshots that are held are
normal. -/
structure IsNormal (s : Session) : Prop where
  current : AreNormal s.guardian.current.rules.rules
  held : ∀ e ∈ s.held, AreNormal e.2.rules.rules

/-- Whether a step brings in no rules that were made elsewhere. -/
def IsInternal (s : Session) : Step → Prop
  | .change c => c.IsInternal s.held
  | _ => True

/-- A step from within keeps all rules in normal form, those in force and those held. -/
theorem isNormal_step (h : s.IsInternal step) (hs : s.IsNormal) :
    (s.step step).1.IsNormal := by
  cases step with
  | change c =>
    rcases s.step_change c with ⟨g, hchanged, heq⟩ | heq
    · rw [heq]
      exact ⟨hchanged.areNormal h hs.held hs.current, hs.held⟩
    · rw [heq]
      exact hs
  | hold name => exact ⟨hs.current, List.forall_mem_cons.mpr ⟨hs.current, hs.held⟩⟩
  | files store => exact ⟨hs.current, hs.held⟩

end Session

/-- A guardian without rules, with its access file loaded or not, is normal. -/
theorem areNormal_create {accessFile : Option String} {rules : RuleSet}
    {notices : List LoadNotice} (hrules : rules.rules = [])
    (h : create store accessFile rules = .ok (g, notices)) :
    AreNormal g.current.rules.rules := by
  refine (loaded_create h).areNormal ?_
  show AreNormal rules.rules
  rw [hrules]
  exact areNormal_nil

/-- From a guardian without rules, whatever is done to it short of publishing
rules made elsewhere, all rules in force are normal, each path and subject has
equally many of them for each verb, and a query with any other verb is left to
the default policy. -/
theorem areNormal_run {accessFile : Option String} {rules : RuleSet}
    {notices : List LoadNotice} {steps : List Step} (store' : FileStore)
    (hrules : rules.rules = []) (hcreate : create store accessFile rules = .ok (g, notices))
    (hsteps : Session.Along Session.IsInternal { guardian := g, store := store' } steps) :
    let reached := (Session.run { guardian := g, store := store' } steps).guardian
    AreNormal reached.current.rules.rules ∧
      ∀ verb path subjects, verb ≠ "" → Text.upper verb ∉ verbs →
        reached.evaluate (some verb) path subjects
          = ⟨reached.current.rules.default = .allow, .noRule, .default, []⟩ := by
  intro reached
  have hstart : Session.IsNormal { guardian := g, store := store' } :=
    ⟨areNormal_create hrules hcreate, by simp⟩
  have hreached := (hsteps.run (fun _ _ => Session.isNormal_step) hstart).current
  refine ⟨hreached, fun verb path subjects hne hverb => ?_⟩
  -- no rule is for a verb outside the fixed set, so none speaks
  have hnone : ∀ r ∈ reached.current.rules.rules, r.verb ≠ Text.upper verb := by
    rintro r hr heq
    exact hverb (heq ▸ (hreached.isNormal r hr).verb_mem)
  exact RuleSet.evaluate_of_forall_verb_ne hne hnone path subjects

/-- A grant is held, cleared and put in force again, and a faulty statement is
tried on the way. -/
theorem areNormal_restored :
    let start : Session := { guardian := {}, store := {} }
    let grant : Step := .change (.statement .allow (some "get") (some "/Admin") (some "root"))
    let kept := (start.run [grant]).guardian.current
    let faulty : Step := .change (.statement .deny (some "fetch") (some "/") none)
    let steps := [grant, .hold "kept", .change .clear, faulty, .change (.restore kept)]
    let reached := (start.run steps).guardian
    kept.rules.size = 7 ∧ AreNormal reached.current.rules.rules ∧
      reached.evaluate (some "fetch") (some "/admin") (some "root")
        = ⟨false, .noRule, .default, []⟩ := by
  intro start grant kept faulty steps reached
  have hcreate : create {} none {} = .ok ({}, []) := rfl
  -- what is restored is the snapshot that was held
  have hsteps : Session.Along Session.IsInternal start steps :=
    ⟨trivial, trivial, trivial, trivial, ⟨("kept", kept), List.mem_singleton_self _, rfl⟩, trivial⟩
  have hfetch : Text.upper "fetch" ∉ verbs := by decide +kernel
  have hdefault : reached.current.rules.default = .deny := by decide +kernel
  obtain ⟨hnormal, hevaluate⟩ := areNormal_run {} rfl hcreate hsteps
  refine ⟨by decide +kernel, hnormal, ?_⟩
  rw [hevaluate "fetch" _ _ (by decide) hfetch, hdefault]
  rfl

end Guardian

end RouteAccess
