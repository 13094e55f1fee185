/-
RouteAccess/Proofs/Guard/Admission.lean

Which requests a guard lets pass, with any resolvers, those that come to a stop
included.  The resolvers of a guard know the sender of a request if one of them
finds subjects and all before it are silent (`Guard.Knows`); a stop before it
hides the sender.  A request that the guard looks at passes exactly if its sender
is known and the rules grant the request to the subjects that were found
(`forwarded_iff_grants`):

    (∃ state, (g.judge rules now r).outcome r = .forwarded state)
      ↔ ∃ subjects, g.Knows now r subjects ∧ rules.Grants r subjects.
-/
import RouteAccess.Proofs.Guard.Judging
import RouteAccess.Proofs.Result

namespace RouteAccess

variable {now : Clock} {r : Request} {rules : RuleSet} {subjects : String}

/-- Whether rules grant a request to subjects. -/
def RuleSet.Grants (rules : RuleSet) (r : Request) (subjects : String) : Prop :=
  (rules.evaluate (some r.method) (some r.seenPath) (some subjects)).granted = true

/-! ### The sender of a request -/

namespace Resolver

/-- Whether the first of the resolvers in a row that is not silent finds these
subjects. -/
def FirstFinds (row : List Resolver) (now : Clock) (r : Request) (subjects : String) : Prop :=
  ∃ before x after, row = before ++ x :: after ∧ (∀ y ∈ before, y.IsSilent now r) ∧
    x.Finds now r subjects

variable {x : Resolver} {row : List Resolver}

theorem firstFinds_cons_of_finds (hx : x.Finds now r subjects) (row : List Resolver) :
    FirstFinds (x :: row) now r subjects :=
  ⟨[], x, row, rfl, by simp, hx⟩

theorem firstFinds_cons_of_silent (hx : x.IsSilent now r)
    (h : FirstFinds row now r subjects) : FirstFinds (x :: row) now r subjects := by
  obtain ⟨before, y, after, rfl, hbefore, hy⟩ := h
  exact ⟨x :: before, y, after, rfl, List.forall_mem_cons.mpr ⟨hx, hbefore⟩, hy⟩

end Resolver

namespace Guard

open Resolver

/-- Whether the resolvers of a guard know the sender of a request. -/
def Knows (g : Guard) (now : Clock) (r : Request) (subjects : String) : Prop :=
  FirstFinds g.resolvers now r subjects

variable {g : Guard} {row : List Resolver}

/-! ### Asking -/

/-- If the sender is known, the rules decide. -/
theorem passage_ask_of_firstFinds (rules : RuleSet) (h : FirstFinds row now r subjects) :
    (ask rules now r row).passage = (decide rules r subjects).passage := by
  obtain ⟨before, x, after, rfl, hbefore, hx⟩ := h
  rw [(ask_append_silent rules hbefore (x :: after)).1, (ask_cons_finds rules hx after).1]

/-- The rules decide about a request exactly if its sender is known: else nobody knows
the sender, or a resolver comes to a stop. -/
theorem passage_ask_cases (rules : RuleSet) (now : Clock) (r : Request) (row : List Resolver) :
    (∃ subjects, FirstFinds row now r subjects ∧
        (ask rules now r row).passage = (decide rules r subjects).passage) ∨
      (ask rules now r row).passage = .nobody ∨
        ∃ stop, (ask rules now r row).passage = .stopped stop := by
  induction row with
  | nil => exact .inr (.inl rfl)
  | cons x rest ih =>
    cases hx : x.resolve now r with
    | error stop =>
      -- nobody after a stop is asked
      exact .inr (.inr ⟨stop, by simp [ask, hx]⟩)
    | ok found =>
      cases hsubjects : found.subjects with
      | none =>
        have hsilent : x.IsSilent now r := ⟨found, hx, hsubjects⟩
        rw [(ask_cons_silent rules hsilent rest).1]
        refine ih.imp_left ?_
        rintro ⟨subjects, hfinds, hpassage⟩
        exact ⟨subjects, firstFinds_cons_of_silent hsilent hfinds, hpassage⟩
      | some s =>
        have hfinds : x.Finds now r s := ⟨found, hx, hsubjects⟩
        exact .inl ⟨s, firstFinds_cons_of_finds hfinds rest, (ask_cons_finds rules hfinds rest).1⟩

/-- A request is granted to none but subjects that are found. -/
theorem firstFinds_of_passage_ask (h : (ask rules now r row).passage = .granted subjects) :
    FirstFinds row now r subjects ∧ rules.Grants r subjects := by
  rcases passage_ask_cases rules now r row with ⟨s, hfinds, hpassage⟩ | hpassage | ⟨stop, hpassage⟩
  · rw [hpassage, passage_decide] at h
    split at h
    · rename_i hgranted
      obtain rfl := Passage.granted.inj h
      exact ⟨hfinds, hgranted⟩
    · simp at h
  · simp [hpassage] at h
  · simp [hpassage] at h

/-- A request about which resolvers are asked is guarded. -/
theorem passage_ask_ne_unguarded (rules : RuleSet) (row : List Resolver) :
    (ask rules now r row).passage ≠ .unguarded := by
  rcases passage_ask_cases rules now r row with ⟨s, -, hpassage⟩ | hpassage | ⟨stop, hpassage⟩
  · rw [hpassage, passage_decide]
    split <;> simp
  · simp [hpassage]
  · simp [hpassage]

/-! ### Passing -/

/-- Only what is not looked at, or is granted, is forwarded. -/
theorem passage_of_forwarded {v : Verdict} {state : Option String}
    (h : v.outcome r = .forwarded state) :
    v.passage = .unguarded ∨ ∃ subjects, v.passage = .granted subjects := by
  cases hpassage : v.passage with
  | unguarded => exact .inl rfl
  | granted subjects => exact .inr ⟨subjects, rfl⟩
  -- a refusal is answered, be it that its answer cannot be sent
  | denied subjects =>
    rw [Verdict.outcome_of_denied hpassage] at h
    split at h <;> simp at h
  | nobody =>
    rw [Verdict.outcome_of_nobody hpassage] at h
    split at h <;> simp at h
  | stopped stop => simp [Verdict.outcome, hpassage] at h

theorem judge_of_guards (rules : RuleSet) (now : Clock) (h : g.guards r.seenPath = true) :
    g.judge rules now r = ask rules now r g.resolvers :=
  if_pos h

theorem passage_judge_of_grants (hguards : g.guards r.seenPath = true)
    (hknows : g.Knows now r subjects) (hgrants : rules.Grants r subjects) :
    (g.judge rules now r).passage = .granted subjects := by
  rw [judge_of_guards rules now hguards, passage_ask_of_firstFinds rules hknows, passage_decide]
  exact if_pos hgrants

theorem passage_judge_of_not_grants (hguards : g.guards r.seenPath = true)
    (hknows : g.Knows now r subjects) (hgrants : ¬ rules.Grants r subjects) :
    (g.judge rules now r).passage = .denied subjects := by
  rw [judge_of_guards rules now hguards, passage_ask_of_firstFinds rules hknows, passage_decide]
  exact if_neg hgrants

/-- A request that is looked at passes exactly if its sender is known and it is
granted. -/
theorem forwarded_iff_grants (hguards : g.guards r.seenPath = true) :
    (∃ state, (g.judge rules now r).outcome r = .forwarded state) ↔
      ∃ subjects, g.Knows now r subjects ∧ rules.Grants r subjects := by
  constructor
  · rintro ⟨state, hforwarded⟩
    rw [judge_of_guards rules now hguards] at hforwarded
    rcases passage_of_forwarded hforwarded with hpassage | ⟨subjects, hpassage⟩
    · exact absurd hpassage (passage_ask_ne_unguarded rules g.resolvers)
    · exact ⟨subjects, firstFinds_of_passage_ask hpassage⟩
  · rintro ⟨subjects, hknows, hgrants⟩
    have hpassage := passage_judge_of_grants hguards hknows hgrants
    exact ⟨some subjects, Verdict.outcome_of_granted hpassage⟩

end Guard

end RouteAccess
