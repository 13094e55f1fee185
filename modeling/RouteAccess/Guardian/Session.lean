/-
RouteAccess/Guardian/Session.lean

Sessions with a guardian: changes of its rules, one after the other, while
snapshots are held for later and files change.  A change that fails leaves the
guardian as it was, and the session goes on.
-/
import RouteAccess.Guardian

namespace RouteAccess

namespace Guardian

/-! ### Changes -/

/-- What a guardian can be asked to do to its rules. -/
inductive Change
  | setDefault (policy : Policy)
  | clear
  | statement (policy : Policy) (verbs path subjects : Option String)
  | publish (rules : RuleSet)
  | restore (held : Snapshot)
  | loadText (text : String)
  | loadFile (name : String)
  | reload
  /-- from now on, reload from another file -/
  | reloadFrom (name : Option String)

/-- Why a change fails. -/
inductive ChangeFault
  | statement (fault : StatementFault)
  | path (fault : PathFault)

/-- The guardian after a change, and what is logged on the way. -/
def change (g : Guardian) (store : FileStore) :
    Change → Except ChangeFault (Guardian × List LoadNotice)
  | .setDefault policy => .ok (g.setDefault policy, [])
  | .clear => .ok (g.clear, [])
  | .statement policy verbs path subjects =>
    match g.addStatement policy verbs path subjects with
    | .ok g' => .ok (g', [])
    | .error fault => .error (.statement fault)
  | .publish rules => .ok (g.publish rules, [])
  | .restore held => .ok (g.restore held, [])
  | .loadText text => .ok (g.loadText text)
  | .loadFile name =>
    match g.loadFile store name with
    | .ok done => .ok done
    | .error fault => .error (.path fault)
  | .reload =>
    match g.reload store with
    | .ok (_, done) => .ok done
    | .error fault => .error (.path fault)
  -- the file is read at the next reload, not now
  | .reloadFrom name => .ok ({ g with accessFile := name }, [])

/-! ### Sessions -/

/-- A guardian with the files that it sees and the snapshots that are held. -/
structure Session where
  guardian : Guardian
  store : FileStore
  held : List (String × Snapshot) := []

/-- One step of a session. -/
inductive Step
  | change (c : Change)
  /-- hold the snapshot in force under a name -/
  | hold (name : String)
  /-- other files -/
  | files (store : FileStore)

namespace Session

/-- The snapshot that is held under a name, the latest of them. -/
def held? (s : Session) (name : String) : Option Snapshot :=
  s.held.lookup name

/-- A session after one step, and what is logged or why the step fails. -/
def step (s : Session) : Step → Session × Except ChangeFault (List LoadNotice)
  | .change c =>
    match s.guardian.change s.store c with
    | .ok (g, notices) => ({ s with guardian := g }, .ok notices)
    | .error fault => (s, .error fault)
  | .hold name => ({ s with held := (name, s.guardian.current) :: s.held }, .ok [])
  | .files store => ({ s with store := store }, .ok [])

/-- A session after several steps. -/
def run (s : Session) (steps : List Step) : Session :=
  steps.foldl (fun s step => (s.step step).1) s

end Session

end Guardian

end RouteAccess
