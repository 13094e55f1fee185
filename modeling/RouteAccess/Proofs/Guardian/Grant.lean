/-
RouteAccess/Proofs/Guardian/Grant.lean

Grants last.  A statement that leaves a verb at `allow` for a subject puts one
allowing rule in force, and nothing but a clearing, a publication or a load that
succeeds takes it out again: all other steps leave the rules as they are or add to
them (`Session.prefix_run`).  An individual rule that allows is enough whatever
other rules speak, so the query stays granted.
-/
import Mathlib.Data.List.Infix
import RouteAccess.Proofs.Guardian.Run
import RouteAccess.Proofs.Policy.Decision
import RouteAccess.Proofs.Policy.Expansion

namespace RouteAccess

/-! ### The rule of a grant -/

namespace Pattern

/-- A pattern in lower case denotes what it denotes as it is. -/
theorem denotes_lower {pattern text : String} :
    Denotes (Text.lower pattern) text ↔ Denotes pattern text := by
  rw [Denotes, Denotes, Text.lower_lower]

end Pattern

/-- A rule in normal form speaks about its verb in any case, its subject or everybody, and the
paths that its pattern matches. -/
theorem speaksAbout_normal_iff {policy : Policy} {v pattern subject verb : String}
    {path asked : Option String} (hv : v ∈ verbs) (hsubject : IsToken subject) :
    (Rule.normal policy v pattern subject).SpeaksAbout verb path asked ↔
      v = Text.upper verb ∧ (subject = wildcard ∨ subject ∈ tokens asked) ∧
        Pattern.isMatch pattern (path.getD "") = true := by
  rw [Rule.SpeaksAbout, Rule.normal, upper_of_mem_verbs hv, hsubject.upper_eq,
    Pattern.denotes_lower, Pattern.isMatch_iff_denotes]

theorem speaksAbout_normal {policy : Policy} {v pattern subject verb : String}
    {path asked : Option String} (hv : v ∈ verbs) (hsubject : IsToken subject)
    (hverb : Text.upper verb = v) (hpath : Pattern.isMatch pattern (path.getD "") = true)
    (hasked : subject ∈ tokens asked) :
    (Rule.normal policy v pattern subject).SpeaksAbout verb path asked :=
  (speaksAbout_normal_iff hv hsubject).mpr ⟨hverb.symm, .inr hasked, hpath⟩

/-- A statement that leaves a verb at `allow`, because it allows and declares it
or denies and does not, has an allowing rule for the verb and each subject. -/
theorem allow_mem_of_expandStatement {policy : Policy} {list subjects : Option String}
    {pattern v subject : String} {declared : List String} {rules : List Rule}
    (h : expandStatement policy list (some pattern) subjects = .ok rules)
    (hdeclared : expandVerbs list = .ok declared) (hv : v ∈ verbs)
    (hallow : v ∈ declared ↔ policy = .allow) (hsubject : subject ∈ expandSubjects subjects) :
    Rule.normal .allow v pattern subject ∈ rules := by
  -- a verb that is declared takes the policy itself, any other one the opposite
  have heffect : effect policy declared v = .allow := by
    rw [effect]
    by_cases hd : v ∈ declared
    · rw [if_pos hd, hallow.mp hd]
    · rw [if_neg hd]
      cases policy with
      | allow => exact absurd (hallow.mpr rfl) hd
      | deny => rfl
  rw [mem_expansion_iff h hdeclared, Rule.normal_eq hv (isToken_of_mem_expandSubjects hsubject)]
  exact ⟨subject, hsubject, v, hv, by rw [heffect]⟩

namespace Guardian

variable {g g' : Guardian} {store : FileStore}

/-! ### Changes that only add -/

/-- Whether loading a file fails: it stops, or it finds no document. -/
def LoadFails (store : FileStore) (name : String) : Prop :=
  ∀ rules notices, AccessDocument.loadFile store name ≠ .ok (some rules, notices)

/-- Whether a change takes no rule out of force: it sets the default, adds a
statement, or is a load that fails. -/
def Change.OnlyAdds (g : Guardian) (store : FileStore) : Change → Prop
  | .setDefault _ => True
  | .statement _ _ _ _ => True
  | .loadText text => (AccessDocument.load text).1 = none
  | .loadFile name => LoadFails store name
  | .reload => ∀ name, g.accessFile = some name → name ≠ "" → LoadFails store name
  | .reloadFrom _ => True
  | .clear => False
  | .publish _ => False
  | .restore _ => False

/-- A file that cannot be loaded leaves the guardian as it is. -/
theorem loadFile_of_loadFails {name : String} {notices : List LoadNotice}
    (hfails : LoadFails store name) (h : g.loadFile store name = .ok (g', notices)) : g' = g := by
  rw [loadFile, AccessDocument.loadFile_base] at h
  split at h
  · simp at h
  · rename_i hload
    exact absurd hload (hfails _ _)
  · exact (Prod.mk.inj (Except.ok.inj h)).1.symm

/-- A text that is no document leaves the guardian as it is. -/
theorem loadText_of_load_none {text : String} (h : (AccessDocument.load text).1 = none) :
    (g.loadText text).1 = g := by
  rw [loadText, AccessDocument.load_base]
  split
  · rename_i rules notices hload
    rw [hload] at h
    simp at h
  · rfl

/-- A change that only adds keeps the rules in force, in their order and at the front. -/
theorem Changed.prefix {c : Change} (h : Changed g store c g') (hc : c.OnlyAdds g store) :
    g.current.rules.rules <+: g'.current.rules.rules := by
  -- the changes that take rules away are not among those that only add
  cases h with
  | setDefault policy => exact List.prefix_rfl
  | clear => exact hc.elim
  | statement hrules => exact List.prefix_append _ _
  | publish rules => exact hc.elim
  | restore held => exact hc.elim
  | loadText text =>
    rw [loadText_of_load_none hc]
  | loadFile hload =>
    rw [loadFile_of_loadFails hc hload]
  | reload hload =>
    rcases reload_ok hload with ⟨rfl, -⟩ | ⟨name, hfile, hne, hload⟩
    · exact List.prefix_rfl
    · rw [loadFile_of_loadFails (hc name hfile hne) hload]
  | reloadFrom name => exact List.prefix_rfl

namespace Session

variable {s : Session} {step : Step} {steps : List Step}

/-- Whether a step takes no rule out of force. -/
def OnlyAdds (s : Session) : Step → Prop
  | .change c => c.OnlyAdds s.guardian s.store
  | _ => True

/-- A step that only adds keeps the rules in force, in their order and at the front. -/
theorem prefix_step (h : s.OnlyAdds step) :
    s.guardian.current.rules.rules <+: (s.step step).1.guardian.current.rules.rules := by
  cases step with
  | change c =>
    rcases s.step_change c with ⟨g, hchanged, heq⟩ | heq
    · rw [heq]
      exact hchanged.prefix h
    · rw [heq]
  | hold name => exact List.prefix_rfl
  | files store => exact List.prefix_rfl

/-- Steps that only add keep all rules in force. -/
theorem prefix_run (h : Along OnlyAdds s steps) :
    s.guardian.current.rules.rules <+: (s.run steps).guardian.current.rules.rules :=
  h.run (I := fun t => s.guardian.current.rules.rules <+: t.guardian.current.rules.rules)
    (fun _ _ hstep hpre => hpre.trans (prefix_step hstep)) List.prefix_rfl

end Session

/-! ### Grants -/

/-- What a statement allows to a subject stays granted as long as rules are only
added, whatever other statements say and whatever other subjects ask along. -/
theorem granted_run {policy : Policy} {list subjects : Option String}
    {pattern v subject : String} {declared : List String}
    (hstatement : g.addStatement policy list (some pattern) subjects = .ok g')
    (hdeclared : expandVerbs list = .ok declared) (hv : v ∈ verbs)
    (hallow : v ∈ declared ↔ policy = .allow) (hsubject : subject ∈ expandSubjects subjects)
    (hwildcard : subject ≠ wildcard) {held : List (String × Snapshot)} {steps : List Step}
    (hsteps : Session.Along Session.OnlyAdds ⟨g', store, held⟩ steps) {verb : String}
    {path asked : Option String} (hverb : Text.upper verb = v)
    (hpath : Pattern.isMatch pattern (path.getD "") = true) (hasked : subject ∈ tokens asked) :
    ((Session.run ⟨g', store, held⟩ steps).guardian.evaluate (some verb) path asked).granted
      = true := by
  obtain ⟨rules, hrules, rfl⟩ := addStatement_ok hstatement
  have htoken := isToken_of_mem_expandSubjects hsubject
  -- the rule stands among the last ones of the set that the statement publishes
  have hmem : Rule.normal .allow v pattern subject ∈ g.current.rules.rules ++ rules :=
    List.mem_append_right _ (allow_mem_of_expandStatement hrules hdeclared hv hallow hsubject)
  have hkept := (Session.prefix_run hsteps).subset hmem
  have hspeaks : (Rule.normal .allow v pattern subject).SpeaksAbout verb path asked :=
    speaksAbout_normal hv htoken hverb hpath hasked
  have hne : verb ≠ "" := by
    rintro rfl
    rw [← hverb] at hv
    revert hv
    decide +kernel
  have hindividual : (Rule.normal .allow v pattern subject).subject ≠ wildcard := by
    rw [Rule.normal, htoken.upper_eq]
    exact hwildcard
  exact RuleSet.granted_of_mem hne hkept hspeaks hindividual rfl

/-- One subject is granted some paths; then all is denied to it and to all
others, a faulty statement is tried and a text is loaded that is no document. -/
theorem granted_run_denied :
    let start : Session := { guardian := {}, store := {} }
    let grant : Step :=
      .change (.statement .allow (some "get") (some "/admin/\x7bint\x7d") (some "root"))
    let later : List Step :=
      [.change (.statement .deny none (some "*") (some "root|guest")),
        .change (.statement .deny none (some "*") none), .change (.setDefault .deny),
        .change (.statement .deny (some "fetch") (some "/") none), .change (.loadText "[")]
    ((start.run (grant :: later)).guardian.evaluate (some "Get") (some "/Admin/7")
      (some "guest|Root")).granted = true := by
  intro start grant later
  have hstatement : ({} : Guardian).addStatement .allow (some "get")
      (some "/admin/\x7bint\x7d") (some "root") = .ok (start.run [grant]).guardian := rfl
  have hdeclared : expandVerbs (some "get") = .ok ["GET"] := rfl
  have hload : (AccessDocument.load "[").1 = none := rfl
  -- the text is no document, and every other step adds or is refused
  have hlater : Session.Along Session.OnlyAdds ⟨(start.run [grant]).guardian, {}, []⟩ later :=
    ⟨trivial, trivial, trivial, trivial, hload, trivial⟩
  have hverb : Text.upper "Get" = "GET" := by decide +kernel
  have hpath : Pattern.isMatch "/admin/\x7bint\x7d" "/Admin/7" = true := by decide +kernel
  have hroot : "ROOT" ∈ expandSubjects (some "root") := by decide +kernel
  have hasked : "ROOT" ∈ tokens (some "guest|Root") := by decide +kernel
  exact granted_run hstatement hdeclared (by decide) (by decide) hroot (by decide) hlater
    hverb hpath hasked

end Guardian

end RouteAccess
