/-
RouteAccess/Proofs/Guardian/Repetition.lean

Saying things again.  A statement that has been made is in force until something takes
its rules out (`isInForce_run`), and to say again what is in force leaves the content
of the rule set (`sameContent_step`), although each time its rules are added once
more.  So what has been said may be said again, in any order and as often as one
likes, and every query is decided as before (`decided_alike`):

    again ⊆ said → Agrees (after.evaluate q) ((after.run again).evaluate q),

where `after` is the guardian to which all of `said` has been stated.
-/
import RouteAccess.Proofs.Guardian.Grant
import RouteAccess.Proofs.Policy.Content

namespace RouteAccess

namespace Guardian

/-! ### What is in force -/

/-- Whether a change says nothing that is not in force: it sets the default policy to
what it is, or is a statement whose rules are all there.  A faulty statement says
nothing at all. -/
def Change.IsInForce (rules : RuleSet) : Change → Prop
  | .setDefault policy => policy = rules.default
  | .statement policy verbs path subjects =>
    ∀ expanded, expandStatement policy verbs path subjects = .ok expanded →
      expanded ⊆ rules.rules
  | _ => False

/-- Whether a change is a statement. -/
def Change.IsStatement : Change → Prop
  | .statement _ _ _ _ => True
  | _ => False

variable {rules rules' : RuleSet} {c : Change}

/-- Being in force depends on what rules there are and on the default, not on how often or in which
order they stand. -/
theorem Change.IsInForce.congr (h : rules.SameContent rules') (hc : c.IsInForce rules) :
    c.IsInForce rules' := by
  cases c with
  | setDefault policy => exact Eq.trans hc h.default
  | statement policy verbs path subjects =>
    exact fun expanded hexpanded r hr => (h.rules r).mp (hc expanded hexpanded hr)
  | _ => exact hc.elim

/-- A statement in force stays so while rules are only added. -/
theorem Change.IsInForce.mono (hstatement : c.IsStatement) (h : rules.rules ⊆ rules'.rules)
    (hc : c.IsInForce rules) : c.IsInForce rules' := by
  cases c with
  | statement policy verbs path subjects =>
    exact fun expanded hexpanded => List.Subset.trans (hc expanded hexpanded) h
  | _ => exact hstatement.elim

namespace Session

variable {s : Session} {said again : List Change}

/-! ### Saying it again -/

/-- To say again what is in force leaves the content of the rule set. -/
theorem sameContent_step (hc : c.IsInForce s.guardian.current.rules) :
    s.guardian.current.rules.SameContent
      (s.step (.change c)).1.guardian.current.rules := by
  rcases s.step_change c with ⟨g, hchanged, heq⟩ | heq
  · rw [heq]
    cases hchanged with
    | setDefault policy => exact ⟨Eq.symm hc, fun _ => Iff.rfl⟩
    | statement hexpanded => exact .extend (hc _ hexpanded)
    | _ => exact hc.elim
  · rw [heq]

/-- Changes that are in force can be made again, in any order and any number of times, without a
change to what rules there are. -/
theorem sameContent_run (h : ∀ c ∈ again, c.IsInForce s.guardian.current.rules) :
    s.guardian.current.rules.SameContent
      (s.run (again.map .change)).guardian.current.rules := by
  induction again generalizing s with
  | nil => rfl
  | cons c rest ih =>
    obtain ⟨hc, hrest⟩ := List.forall_mem_cons.mp h
    have hstep := sameContent_step hc
    -- what is in force before a step is in force after it
    exact hstep.trans (ih fun c' hc' => (hrest c' hc').congr hstep)

/-! ### Saying it first -/

/-- A statement that was made is in force, as its rules stand at the end; a refused one is so
trivially. -/
theorem isInForce_step (hc : c.IsStatement) :
    c.IsInForce (s.step (.change c)).1.guardian.current.rules := by
  cases c with
  | statement policy verbs path subjects =>
    intro expanded hexpanded
    simp only [step, change, addStatement, hexpanded, bind, Except.bind, pure, Except.pure]
    exact List.subset_append_right _ _
  | _ => exact hc.elim

/-- Statements only add rules. -/
theorem along_onlyAdds (s : Session) (h : ∀ c ∈ said, c.IsStatement) :
    Along OnlyAdds s (said.map .change) := by
  induction said generalizing s with
  | nil => exact trivial
  | cons c rest ih =>
    obtain ⟨hc, hrest⟩ := List.forall_mem_cons.mp h
    refine ⟨?_, ih _ hrest⟩
    cases c with
    | statement policy verbs path subjects => exact trivial
    | _ => exact hc.elim

/-- What has been said is in force when the last word is spoken. -/
theorem isInForce_run (s : Session) (h : ∀ c ∈ said, c.IsStatement) :
    ∀ c ∈ said, c.IsInForce (s.run (said.map .change)).guardian.current.rules := by
  induction said generalizing s with
  | nil => simp
  | cons c rest ih =>
    obtain ⟨hc, hrest⟩ := List.forall_mem_cons.mp h
    refine List.forall_mem_cons.mpr ⟨?_, ih _ hrest⟩
    have hkept := prefix_run (along_onlyAdds (s.step (.change c)).1 hrest)
    exact (isInForce_step hc).mono hc hkept.subset

end Session

/-! ### Decisions -/

/-- Rule sets with the same rules, in any order and any number of times, and with the same
default policy decide every query alike.  So what is in force may be said again: no
decision changes.  In particular all that has been stated may be stated again, in any
order, any part of it and any number of times. -/
theorem decided_alike (verb path subjects : Option String) :
    (∀ s t : RuleSet, s.default = t.default → (∀ r, r ∈ s.rules ↔ r ∈ t.rules) →
      (s.evaluate verb path subjects).Agrees (t.evaluate verb path subjects)) ∧
    (∀ (s : Session) (again : List Change),
      (∀ c ∈ again, c.IsInForce s.guardian.current.rules) →
        (s.guardian.evaluate verb path subjects).Agrees
          ((s.run (again.map .change)).guardian.evaluate verb path subjects)) ∧
    (∀ (s : Session) (said again : List Change), (∀ c ∈ said, c.IsStatement) → again ⊆ said →
      let after := s.run (said.map .change)
      (after.guardian.evaluate verb path subjects).Agrees
        ((after.run (again.map .change)).guardian.evaluate verb path subjects)) := by
  have hagain : ∀ (s : Session) (again : List Change),
      (∀ c ∈ again, c.IsInForce s.guardian.current.rules) →
        (s.guardian.evaluate verb path subjects).Agrees
          ((s.run (again.map .change)).guardian.evaluate verb path subjects) := by
    intro s again h
    exact RuleSet.evaluate_agrees (Session.sameContent_run h) verb path subjects
  refine ⟨?_, hagain, ?_⟩
  · intro s t hdefault hrules
    exact RuleSet.evaluate_agrees ⟨hdefault, hrules⟩ verb path subjects
  · -- all that was said is in force at the end, so any part of it may be said again
    intro s said again hsaid hsub after
    exact hagain after again fun c hc => Session.isInForce_run s hsaid c (hsub hc)

/-- A rule set is written down in another order, with a rule in it twice.  And three
statements, one of them faulty, are made again from the last to the first and once more
in their order: an admin may still read, by the same rules. -/
theorem decided_alike_again :
    let reading : Rule := .normal .allow "get" "/admin/*" "admin"
    let closed : Rule := .normal .deny "get" "/admin/*" "*"
    let decided (s : RuleSet) := s.evaluate (some "Get") (some "/admin/part2") (some "Admin")
    let said : List Change :=
      [.statement .allow (some "get|head") (some "/admin/*") (some "admin|prod"),
        .statement .deny (some "fetch") (some "/admin/part2") none,
        .statement .deny none (some "/admin/part2") none]
    let after := Session.run { guardian := {}, store := {} } (said.map .change)
    let afterwards := after.run ((said.reverse ++ said).map .change)
    (decided ⟨[reading, closed], .deny⟩).Agrees (decided ⟨[closed, reading, closed], .deny⟩) ∧
      (decided after.guardian.current.rules).granted = true ∧
      (decided after.guardian.current.rules).Agrees
        (decided afterwards.guardian.current.rules) := by
  intro reading closed decided said after afterwards
  obtain ⟨hcontent, -, hsaid⟩ :=
    decided_alike (some "Get") (some "/admin/part2") (some "Admin")
  refine ⟨hcontent ⟨[reading, closed], .deny⟩ ⟨[closed, reading, closed], .deny⟩ rfl ?_, ?_, ?_⟩
  · intro r
    simp only [List.mem_cons, List.not_mem_nil, or_false]
    tauto
  · decide +kernel
  · -- each change said again is one of those said before
    refine hsaid { guardian := {}, store := {} } said (said.reverse ++ said) ?_ ?_
    · simp [said, Change.IsStatement]
    · exact List.append_subset.mpr ⟨List.reverse_subset.mpr (List.Subset.refl said),
        List.Subset.refl said⟩

end Guardian

end RouteAccess
