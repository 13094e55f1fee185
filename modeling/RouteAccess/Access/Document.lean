/-
RouteAccess/Access/Document.lean

Access documents: a default policy and a list of statements.  A statement that
cannot be read or expanded is skipped with a notice; a document that is not of
the right form yields nothing at all.

The rule set of a document is made from a base, the rules in force before, but
nothing of the base is left in it (`load_base`, `loadFile_base`).
-/
import RouteAccess.Event
import RouteAccess.FileStore
import RouteAccess.Json.Reader
import RouteAccess.Policy.Statement

namespace RouteAccess

/-! ### Documents -/

/-- An access document. -/
structure AccessDocument where
  default : String := "deny"
  rules : List Json := []

namespace AccessDocument

/-- The document that an object is; fields that are not known do not count. -/
def ofJson? (value : Json) : Option AccessDocument := do
  let fields ← value.fields?
  let default ← match fields.lookup "default" with
    | none => some "deny"
    | some v => v.text?
  let rules ← match fields.lookup "rules" with
    | none => some []
    | some v => v.items?
  return ⟨default, rules⟩

/-- The document that a text holds. -/
def ofText? (text : String) : Option AccessDocument :=
  (Json.read? .document text).bind ofJson?

/-- The default policy: only `allow`, in any case and with blanks around it,
allows. -/
def defaultPolicy (d : AccessDocument) : Policy :=
  if Text.lower (Text.trim d.default) = Policy.allow.word then .allow else .deny

/-- The rules of one entry. -/
def entryRules (entry : Json) : Except StatementFault (List Rule) :=
  (Statement.ofJson entry).bind Statement.rules

/-- The faults of the entries that are skipped. -/
def faults (d : AccessDocument) : List (Json × StatementFault) :=
  d.rules.filterMap fun entry =>
    match entryRules entry with
    | .ok _ => none
    | .error f => some (entry, f)

/-- The rule set to start from: the base, or a new one if the base has no rules. -/
def start (base : RuleSet) : RuleSet :=
  if base.size = 0 then {} else base

/-- The rule set of a document, made from a base: the rules are cleared, the
default is set, and the rules of the entries are added. -/
def ruleSet (d : AccessDocument) (base : RuleSet := {}) : RuleSet :=
  -- an entry at fault adds nothing, and the others stand
  (((start base).cleared).withDefault d.defaultPolicy).extend
    (d.rules.flatMap fun entry => (entryRules entry).toOption.getD [])

theorem rules_ruleSet (d : AccessDocument) :
    d.ruleSet.rules = d.rules.flatMap fun entry => (entryRules entry).toOption.getD [] := by
  simp [ruleSet, RuleSet.extend, RuleSet.withDefault, RuleSet.cleared]

theorem default_ruleSet (d : AccessDocument) : d.ruleSet.default = d.defaultPolicy := by
  simp [ruleSet, RuleSet.extend, RuleSet.withDefault]

end AccessDocument

/-! ### Notices -/

/-- What is logged while a document is loaded. -/
inductive LoadNotice
  | skipping (entry : Json) (fault : StatementFault)
  | skipped (count total : Nat)
  | invalid
  | notFound (name : String)
  | unreadable (name : String)
  | loaded (name : String) (rules : RuleSet)

namespace LoadNotice

/-- The notice as an event. -/
def event : LoadNotice → Event
  | skipping entry fault =>
    ⟨"guardian.loader", .warning, "Skipping access rule",
      [("statement", entry), ("error", .str fault.message)]⟩
  | skipped count total =>
    ⟨"guardian.loader", .warning, "Access rules skipped",
      [("skipped", .int count), ("total", .int total)]⟩
  | invalid => ⟨"guardian.loader", .error, "Invalid access document", []⟩
  | notFound name =>
    ⟨"guardian.loader", .info, "Access file not found, keeping current rules",
      [("access_file", .str name)]⟩
  | unreadable name =>
    ⟨"guardian.loader", .error, "Error reading access file", [("access_file", .str name)]⟩
  | loaded name rules =>
    ⟨"guardian.engine", .info, "Access rules loaded",
      [("access_file", .str name), ("default_policy", .str rules.default.word),
        ("total_rules", .int rules.size)]⟩

end LoadNotice

namespace AccessDocument

/-- The notices about the entries of a document. -/
def notices (d : AccessDocument) : List LoadNotice :=
  let faults := d.faults
  faults.map (fun f => .skipping f.1 f.2) ++
    (if faults = [] then [] else [.skipped faults.length d.rules.length])

/-! ### Loading -/

/-- The rule set of a text, if it is a document. -/
def load (text : String) (base : RuleSet := {}) : Option RuleSet × List LoadNotice :=
  match ofText? text with
  | none => (none, [.invalid])
  | some d => (some (d.ruleSet base), d.notices)

/-- The rule set of a file, if it holds a document in UTF-8.  Only a name that
cannot be looked up, since it is too long or a folder on the way may not be entered,
stops the loading. -/
def loadFile (store : FileStore) (name : String) (base : RuleSet := {}) :
    Except PathFault (Option RuleSet × List LoadNotice) :=
  match store.resolve name with
  | .ok (.file content) =>
    match String.fromUTF8? content with
    | some text => .ok (load text base)
    | none => .ok (none, [.unreadable name])
  | .ok .locked => .ok (none, [.unreadable name])
  | .ok _ => .ok (none, [.notFound name])
  | .error f => if f.comesUp then .error f else .ok (none, [.notFound name])

theorem load_base (text : String) (base : RuleSet) : load text base = load text := rfl

theorem loadFile_base (store : FileStore) (name : String) (base : RuleSet) :
    loadFile store name base = loadFile store name := rfl

end AccessDocument

end RouteAccess
