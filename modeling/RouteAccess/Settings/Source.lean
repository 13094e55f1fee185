/-
RouteAccess/Settings/Source.lean

Where settings come from.  What is given directly counts most, then the
environment, then the files of the environment.  A file may also set names that
are no settings; the environment may not.
-/
import RouteAccess.FileStore
import RouteAccess.Settings.Basic
import RouteAccess.Settings.EnvFile
import RouteAccess.Settings.Lookup

namespace RouteAccess

namespace Settings

/-- The fields with those of another source, which count more. -/
def overlay (fields more : List (String × Json)) : List (String × Json) :=
  more.foldl (fun acc f => Json.put acc f.1 f.2) fields

/-! ### Entries -/

/-- Names with their values; a name alone has none. -/
abbrev Entries := List (String × Option String)

/-- Entries with each name once: where it first stands, with its last value. -/
def merged (entries : Entries) : Entries :=
  entries.foldl
    (fun acc e =>
      if (acc.lookup e.1).isSome then acc.map fun a => if a.1 = e.1 then e else a
      else acc ++ [e])
    []

/-- The entries that count, each name once. -/
def Lookup.entries (l : Lookup) (entries : Entries) : Entries :=
  merged (l.counted id entries)

/-- The settings among entries. -/
def named (l : Lookup) (entries : Entries) : List (String × Json) :=
  names.filterMap fun name =>
    match entries.lookup (l.outerName name) with
    | some (some value) => some (name, l.valueOf value)
    | _ => none

/-- The settings that the environment gives. -/
def ofEnvironment (l : Lookup) (environment : List (String × String)) : List (String × Json) :=
  named l (l.entries (environment.map fun e => (e.1, some e.2)))

/-! ### Files -/

/-- The name under which a name that is no setting is kept. -/
def keptName (l : Lookup) (name : String) : String :=
  let start := l.key l.beginning
  if start.toList.isPrefixOf name.toList then String.ofList (name.toList.drop start.length)
  else name

/-- The fields with an entry of a file that is no setting, unless it is empty
or there is a field of its name. -/
def addOther (l : Lookup) (fields : List (String × Json)) (entry : String × Option String) :
    List (String × Json) :=
  match entry.2 with
  | none => fields
  | some value =>
    if value = "" ∨ (fields.lookup entry.1).isSome ∨ names.contains entry.1 ∨
        (names.map l.outerName).contains entry.1 then fields
    else Json.put fields (keptName l entry.1) (.str value)

/-- The settings and other fields that files give, later ones counting more. -/
def ofFiles (l : Lookup) (environment : List (String × String)) (texts : List String) :
    List (String × Json) :=
  let entries := merged (texts.flatMap fun text =>
    l.entries (merged (EnvFile.read environment text)))
  entries.foldl (addOther l) (named l entries)

/-! ### All sources -/

/-- The names that no given field may have: those of what is given apart, and the
one that stands for all settings. -/
def apart : List String := ["self", "service_name", "port"]

/-- Why settings cannot be had. -/
inductive Stop
  /-- a field that is given apart is given once more -/
  | givenTwice
  /-- an option has a value of another kind -/
  | option
  /-- the name of a file cannot be followed -/
  | name (fault : PathFault)
  /-- a file may not be read -/
  | locked
  /-- a file holds bytes that are no text -/
  | undecodable
  | faulty (faults : List FormFault)
deriving DecidableEq, Repr

/-- The text of a file, if there is such a file. -/
def fileText (store : FileStore) (name : String) : Except Stop (Option String) := do
  match store.isFile name with
  | .error fault => .error (.name fault)
  | .ok _ =>
    match store.resolve name with
    | .ok (.file content) =>
      match String.fromUTF8? content with
      | some text => .ok (some text)
      | none => .error .undecodable
    | .ok .locked => .error .locked
    | _ => .ok none

/-- The settings from the environment, the files of a store, and given fields. -/
def load (environment : List (String × String)) (store : FileStore)
    (given : List (String × Json)) (serviceName port : Json) : Except Stop Settings := do
  if given.any fun f => apart.contains f.1 then .error .givenTwice
  else
    match Lookup.ofOptions? given with
    | none => .error .option
    | some l =>
      let texts ← l.files.mapM (fileText store)
      let fields := ofFiles l environment (texts.filterMap id)
      -- what comes later counts more
      let fields := overlay fields (ofEnvironment l environment)
      let fields := overlay fields (given.filter fun f => !Lookup.isOption f)
      let fields := overlay fields [("service_name", serviceName), ("port", port)]
      match form fields with
      | .valid settings => .ok settings
      | .faulty faults => .error (.faulty faults)

end Settings

end RouteAccess
