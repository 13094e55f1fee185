/-
RouteAccess/Proofs/Guardian/Replay.lean

A document is loaded at once; its statements can also be said to a guardian one
by one, after a clearing and with the default policy set.  Both ways come to the
same rule set, whatever rules and default were in force before
(`loadText_eq_addEntries`):

    (g.loadText text).1
      = g.publish ((g.clear.setDefault policy).addEntries d.rules).1.current.rules.

An entry is passed over in both ways for the same fault, so the log of the load
has one notice for each entry that is passed over, and at its end their number.
-/
import RouteAccess.Guardian

namespace RouteAccess

namespace Guardian

variable {g : Guardian} {entry : Json}

/-! ### Entries one by one -/

/-- The guardian with the statement of an entry added, part by part. -/
def addEntry (g : Guardian) (entry : Json) : Except StatementFault Guardian := do
  let s ← Statement.ofJson entry
  g.addStatement s.policy (some s.verbs) (some s.path) (some s.subjects)

/-- The guardian with the statements of entries added one after the other, and
the entries that are passed over, each with its fault. -/
def addEntries (g : Guardian) : List Json → Guardian × List (Json × StatementFault)
  | [] => (g, [])
  | entry :: rest =>
    match g.addEntry entry with
    | .ok g' => g'.addEntries rest
    | .error fault =>
      let done := g.addEntries rest
      (done.1, (entry, fault) :: done.2)

/-- An entry adds the rules that it has in a document, or fails as it does
there. -/
theorem addEntry_eq (g : Guardian) (entry : Json) :
    g.addEntry entry
      = (AccessDocument.entryRules entry).map fun rules =>
          g.publish (g.current.rules.extend rules) := by
  rw [addEntry, AccessDocument.entryRules]
  -- both sides read the statement and expand it, and fail where one of the two fails
  cases Statement.ofJson entry with
  | error fault => rfl
  | ok s =>
    show g.addStatement s.policy (some s.verbs) (some s.path) (some s.subjects)
      = s.rules.map _
    rw [addStatement, Statement.rules]
    cases expandStatement s.policy (some s.verbs) (some s.path) (some s.subjects) with
    | error fault => rfl
    | ok rules => rfl

theorem addEntries_cons_ok {rules : List Rule} (rest : List Json)
    (h : AccessDocument.entryRules entry = .ok rules) :
    g.addEntries (entry :: rest) = (g.publish (g.current.rules.extend rules)).addEntries rest := by
  rw [addEntries, addEntry_eq, h]
  rfl

/-- An entry at fault is left out, and noted in front of those after it. -/
theorem addEntries_cons_error {fault : StatementFault} (rest : List Json)
    (h : AccessDocument.entryRules entry = .error fault) :
    g.addEntries (entry :: rest)
      = ((g.addEntries rest).1, (entry, fault) :: (g.addEntries rest).2) := by
  rw [addEntries, addEntry_eq, h]
  rfl

/-! ### Entries together -/

/-- The rules of all entries come after those in force, and the default stays. -/
theorem rules_addEntries (g : Guardian) (default : String) (entries : List Json) :
    (g.addEntries entries).1.current.rules
      = g.current.rules.extend (AccessDocument.mk default entries).ruleSet.rules := by
  rw [AccessDocument.rules_ruleSet]
  induction entries generalizing g with
  | nil => simp [addEntries, RuleSet.extend]
  | cons entry rest ih =>
    -- the rules of the first entry are in force when the others are said
    cases h : AccessDocument.entryRules entry with
    | ok rules =>
      rw [addEntries_cons_ok rest h, ih]
      simp [RuleSet.extend, publish, h, Except.toOption]
    | error fault =>
      rw [addEntries_cons_error rest h, ih]
      simp [RuleSet.extend, h, Except.toOption]

/-- The entries that are passed over are those that the document reports. -/
theorem ignored_addEntries (g : Guardian) (default : String) (entries : List Json) :
    (g.addEntries entries).2 = (AccessDocument.mk default entries).faults := by
  induction entries generalizing g with
  | nil => rfl
  | cons entry rest ih =>
    cases h : AccessDocument.entryRules entry with
    | ok rules =>
      rw [addEntries_cons_ok rest h, ih]
      simp [AccessDocument.faults, h]
    | error fault =>
      rw [addEntries_cons_error rest h, ih]
      simp [AccessDocument.faults, h]

/-! ### Loading at once -/

theorem loadText_of_ofText? {text : String} {d : AccessDocument}
    (h : AccessDocument.ofText? text = some d) (g : Guardian) :
    g.loadText text = (g.publish d.ruleSet, d.notices) := by
  rw [loadText, AccessDocument.load_base, AccessDocument.load, h]

/-- A cleared guardian with the default of a document gets its rule set from its
entries, one by one. -/
theorem rules_addEntries_clear (g : Guardian) (d : AccessDocument) :
    ((g.clear.setDefault d.defaultPolicy).addEntries d.rules).1.current.rules = d.ruleSet := by
  have hstart : (g.clear.setDefault d.defaultPolicy).current.rules = ⟨[], d.defaultPolicy⟩ := by
    simp [setDefault, clear, publish, RuleSet.withDefault, RuleSet.cleared]
  calc
    _ = RuleSet.extend ⟨[], d.defaultPolicy⟩ d.ruleSet.rules := by
      rw [rules_addEntries _ d.default, hstart]
    _ = d.ruleSet := by
      rw [← AccessDocument.default_ruleSet, RuleSet.extend, List.nil_append]

/-- The events of a load: a warning for each entry that is passed over, and at the
end their number, unless there are none. -/
theorem events_notices (d : AccessDocument) :
    d.notices.map LoadNotice.event
      = d.faults.map (fun f => (LoadNotice.skipping f.1 f.2).event) ++
          if d.faults = [] then []
          else [(LoadNotice.skipped d.faults.length d.rules.length).event] := by
  rw [AccessDocument.notices, List.map_append, List.map_map]
  split <;> rfl

/-- A document that is loaded publishes, under a fresh number, the rule set that
its statements lead to when they are said one by one to the same guardian,
cleared and with the default policy set.  It logs a warning for each entry that
is passed over, and nothing else but their number at the end, if there are any. -/
theorem loadText_eq_addEntries (g : Guardian) {text : String} {d : AccessDocument}
    (h : AccessDocument.ofText? text = some d) :
    let policy := if Text.lower (Text.trim d.default) = "allow" then Policy.allow else .deny
    let said := (g.clear.setDefault policy).addEntries d.rules
    let ignored := said.2
    let loaded := g.loadText text
    ∃ warnings : List Event,
      loaded.1 = g.publish said.1.current.rules ∧ warnings.length = ignored.length ∧
      (∀ e ∈ warnings, e.severity = .warning ∧ e.name = "Skipping access rule") ∧
      loaded.2.map LoadNotice.event
        = warnings ++
          if ignored = [] then []
          else [⟨"guardian.loader", .warning, "Access rules skipped",
            [("skipped", .int ignored.length), ("total", .int d.rules.length)]⟩] := by
  intro policy said ignored loaded
  -- the same rules come out either way, and the same entries are left out
  have hrules : said.1.current.rules = d.ruleSet := rules_addEntries_clear g d
  have hfaults : ignored = d.faults := ignored_addEntries _ d.default d.rules
  have hloaded : loaded = (g.publish d.ruleSet, d.notices) := loadText_of_ofText? h g
  refine ⟨d.faults.map fun f => (LoadNotice.skipping f.1 f.2).event, ?_, ?_, ?_, ?_⟩
  · rw [hloaded, hrules]
  · rw [List.length_map, hfaults]
  · intro e he
    obtain ⟨f, -, rfl⟩ := List.mem_map.mp he
    exact ⟨rfl, rfl⟩
  · rw [hloaded, hfaults]
    exact events_notices d

/-- Rules are in force; then a document is loaded in which one entry is good, one
is no text and one has an unknown verb. -/
theorem loadText_mixed :
    let g : Guardian := { current := ⟨1, ⟨[.normal .deny "get" "/old" "*"], .deny⟩⟩, next := 2 }
    let text :=
      "\x7b\"default\": \" Allow \", \"rules\": [\"deny get / Root\", 7, \"allow fetch / *\"]\x7d"
    ∃ d, AccessDocument.ofText? text = some d ∧
      let said := (g.clear.setDefault .allow).addEntries d.rules
      let loaded := g.loadText text
      said.1.current.rules.size = 7 ∧ said.2.length = 2 ∧
        loaded.1 = g.publish said.1.current.rules ∧
        ((loaded.2.map LoadNotice.event).filter (·.name = "Skipping access rule")).length = 2 := by
  intro g text
  -- the document is given by evaluation, as the text is known
  let d := (AccessDocument.ofText? text).get (by decide +kernel)
  have hd : AccessDocument.ofText? text = some d := (Option.some_get _).symm
  have hallow : Text.lower (Text.trim d.default) = "allow" := by decide +kernel
  obtain ⟨warnings, hload, -, -, -⟩ := loadText_eq_addEntries g hd
  rw [if_pos hallow] at hload
  exact ⟨d, hd, by decide +kernel, by decide +kernel, hload, by decide +kernel⟩

end Guardian

end RouteAccess
