/-
RouteAccess/Guardian.lean

The guardian holds the rule set in force as a numbered snapshot.  Every change
publishes a new snapshot under a fresh number; a statement that is faulty, and
a document that cannot be loaded, leave the snapshot in force as it is.
-/
import RouteAccess.Access.Document
import RouteAccess.Policy.Decision

namespace RouteAccess

/-- A rule set that has been in force, under its number. -/
structure Snapshot where
  serial : Nat
  rules : RuleSet
deriving DecidableEq, Repr

/-- The rule set in force and where it is reloaded from. -/
structure Guardian where
  accessFile : Option String := none
  current : Snapshot := ⟨0, {}⟩
  /-- the number of the next snapshot -/
  next : Nat := 1

namespace Guardian

/-! ### Publishing -/

/-- The guardian with a rule set in force under a fresh number. -/
def publish (g : Guardian) (rules : RuleSet) : Guardian :=
  { g with current := ⟨g.next, rules⟩, next := g.next + 1 }

/-- The guardian with a former snapshot in force again. -/
def restore (g : Guardian) (held : Snapshot) : Guardian :=
  { g with current := held }

/-- The guardian with another default policy. -/
def setDefault (g : Guardian) (policy : Policy) : Guardian :=
  g.publish (g.current.rules.withDefault policy)

/-- The guardian without rules. -/
def clear (g : Guardian) : Guardian :=
  g.publish g.current.rules.cleared

/-- The guardian with the rules of a statement added. -/
def addStatement (g : Guardian) (policy : Policy) (verbs path subjects : Option String) :
    Except StatementFault Guardian := do
  let rules ← expandStatement policy verbs path subjects
  return g.publish (g.current.rules.extend rules)

/-! ### Loading -/

/-- The guardian with the rules of a text, if it is a document. -/
def loadText (g : Guardian) (text : String) : Guardian × List LoadNotice :=
  match AccessDocument.load text g.current.rules with
  | (some rules, notices) => (g.publish rules, notices)
  | (none, notices) => (g, notices)

/-- The guardian with the rules of a file, if it holds a document. -/
def loadFile (g : Guardian) (store : FileStore) (name : String) :
    Except PathFault (Guardian × List LoadNotice) :=
  match AccessDocument.loadFile store name g.current.rules with
  | .error e => .error e
  | .ok (some rules, notices) => .ok (g.publish rules, notices ++ [.loaded name rules])
  | .ok (none, notices) => .ok (g, notices)

/-- Whether the second guardian has another snapshot in force than the first. -/
def isChanged (before after : Guardian) : Bool :=
  after.current.serial != before.current.serial

/-- The guardian with the rules of its access file, and whether a new snapshot
was published. -/
def reload (g : Guardian) (store : FileStore) :
    Except PathFault (Bool × Guardian × List LoadNotice) :=
  match g.accessFile with
  | none => .ok (false, g, [])
  | some name =>
    if name = "" then .ok (false, g, [])
    else do
      let (g', notices) ← g.loadFile store name
      return (g.isChanged g', g', notices)

/-- A new guardian: with the rules of its access file if there is one that
loads, else with the given rules. -/
def create (store : FileStore) (accessFile : Option String) (rules : RuleSet) :
    Except PathFault (Guardian × List LoadNotice) :=
  let g : Guardian := { accessFile := accessFile, current := ⟨0, rules⟩ }
  match accessFile with
  | none => .ok (g, [])
  | some name => if name = "" then .ok (g, []) else g.loadFile store name

/-! ### Questions -/

/-- The decision about a query by the rules in force; a caller of whom no subjects are
told is the anonymous one. -/
def evaluate (g : Guardian) (verb path : Option String)
    (subjects : Option String := some anonymous) : Decision :=
  g.current.rules.evaluate verb path subjects

/-- Whether a query is granted, and the path and subjects that a denial is
reported with. -/
def authorize (g : Guardian) (verb path : Option String)
    (subjects : Option String := some anonymous) : Bool × List (Option String × String) :=
  if (g.evaluate verb path subjects).granted then (true, [])
  else (false, [(path, subjects.getD "")])

/-- The figures about the rules in force. -/
def figures (g : Guardian) : List (String × Json) :=
  let rules := g.current.rules
  [("total_rules", .int rules.size),
   ("default_policy", .str rules.default.word),
   ("individual_rules", .int (rules.rules.filter (!·.isWildcard)).length),
   ("wildcard_rules", .int (rules.rules.filter (·.isWildcard)).length),
   ("paths", .ofTexts rules.paths)]

end Guardian

end RouteAccess
