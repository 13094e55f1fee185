/-
RouteAccess/FileStore.lean

The files that a service can see: a tree of folders and files, the folder in
which the service works, and how a name leads to one of them.  A name is followed
part by part, from the root if it starts with a slash and from the folder of the
service if not, and the first part that fails decides what is wrong with it.

Files may be locked, and folders closed against entering, but not the folder of
the service nor those above it.  There are no links, and the medium
itself does not fail.
-/

namespace RouteAccess

/-! ### Contents -/

/-- What a path leads to. -/
inductive FileEntry
  | file (content : ByteArray)
  /-- a file that may be neither read nor written -/
  | locked
  | folder
  /-- a folder that may not be entered -/
  | closed

/-- Whether a content may be written in place of an entry. -/
def FileEntry.isWritable : FileEntry → Bool
  | file _ => true
  | _ => false

/-- The entries below the root, each under the parts of its path, and the path of
the folder in which the service works. -/
structure FileStore where
  entries : List (List String × FileEntry) := []
  home : List String := []

/-- Why a name leads nowhere. -/
inductive PathFault
  /-- there is no such entry -/
  | missing
  /-- a part that is not the last one is no folder -/
  | notFolder
  /-- a part that is not the last one is a folder that may not be entered -/
  | refused
  /-- a part or the whole is longer than names may be -/
  | nameTooLong
  /-- a null character, which no name holds -/
  | nullCharacter
deriving DecidableEq, Repr

/-- Whether a fault comes up where a name is looked up; all others are taken for a
file that is not there. -/
def PathFault.comesUp : PathFault → Bool
  | refused => true
  | nameTooLong => true
  | _ => false

namespace FileStore

/-- The most bytes of one part of a name. -/
def maxPart : Nat := 255

/-- The most bytes of a whole name. -/
def maxName : Nat := 4095

/-- The entry at a path. -/
def entry? (store : FileStore) (path : List String) : Option FileEntry :=
  if path.isPrefixOf store.home then some .folder else store.entries.lookup path

/-! ### Names -/

/-- The parts of a name that lead on: empty parts and single points do not. -/
def parts (name : String) : List String :=
  ((name.toList.splitOnP (· = '/')).map String.ofList).filter fun p => p ≠ "" && p ≠ "."

/-- The slashes that a name starts with, as far as they count: two of them do, any
other number is one. -/
def start (name : String) : String :=
  match (name.toList.takeWhile (· = '/')).length with
  | 0 => ""
  | 2 => "//"
  | _ => "/"

/-- A name without the parts that do not lead on. -/
def normal (name : String) : String :=
  let short := start name ++ String.intercalate "/" (parts name)
  if short = "" then "." else short

/-- The folder from which a name is followed. -/
def origin (store : FileStore) (name : String) : List String :=
  if name.startsWith "/" then [] else store.home

/-- Follow the parts of a name from a folder; above the root there is the root. -/
def follow (store : FileStore) (here : List String) : List String → Except PathFault FileEntry
  | [] =>
    match store.entry? here with
    | some e => .ok e
    | none => .error .missing
  | part :: rest =>
    -- each part starts from a folder, `..` too
    match store.entry? here with
    | none => .error .missing
    | some (.file _) => .error .notFolder
    | some .locked => .error .notFolder
    | some .closed => .error .refused
    | some .folder =>
      if part = ".." then follow store here.dropLast rest
      else if maxPart < part.utf8ByteSize then .error .nameTooLong
      else follow store (here ++ [part]) rest

/-- What a name leads to. -/
def resolve (store : FileStore) (name : String) : Except PathFault FileEntry :=
  if name.contains '\x00' then .error .nullCharacter
  else if maxName < (normal name).utf8ByteSize then .error .nameTooLong
  else follow store (store.origin name) (parts name)

/-- Where the parts of a name lead to from a folder.  Each part must start from a
folder, but what the last one leads to need not be there. -/
def place? (store : FileStore) (here : List String) : List String → Option (List String)
  | [] => some here
  | part :: rest =>
    match store.entry? here with
    | some .folder =>
      if part = ".." then place? store here.dropLast rest
      else if maxPart < part.utf8ByteSize then none
      else place? store (here ++ [part]) rest
    | _ => none

/-! ### Questions and changes -/

/-- Whether a name leads to a file.  A name that cannot be looked up has no answer. -/
def isFile (store : FileStore) (name : String) : Except PathFault Bool :=
  match store.resolve name with
  | .ok (.file _) => .ok true
  | .ok .locked => .ok true
  | .ok _ => .ok false
  | .error f => if f.comesUp then .error f else .ok false

/-- The folders above a path. -/
def above (path : List String) : List (List String) :=
  (List.range (path.length - 1)).map fun n => path.take (n + 1)

/-- The store without an entry and all that is below it. -/
def remove (store : FileStore) (name : String) : FileStore :=
  let path := store.origin name ++ parts name
  { store with entries := store.entries.filter fun e => !path.isPrefixOf e.1 }

/-- The store with an entry, and with the folders above it. -/
def put (store : FileStore) (name : String) (e : FileEntry) : FileStore :=
  let path := store.origin name ++ parts name
  let folders := ((above path).filter fun p => (store.entry? p).isNone).map (·, FileEntry.folder)
  { store with entries := (path, e) :: folders ++ (store.remove name).entries }

/-- The store with another entry at a path. -/
def set (store : FileStore) (path : List String) (e : FileEntry) : FileStore :=
  { store with entries := (path, e) :: store.entries }

/-- The store after a file was written, if it can be: a file of this name is replaced
unless it is locked, but no folder is, and none is made for it. -/
def write? (store : FileStore) (name : String) (content : ByteArray) : Option FileStore :=
  if name.contains '\x00' || maxName < (normal name).utf8ByteSize then none
  else
    match place? store (store.origin name) (parts name) with
    | none => none
    | some path =>
      if (store.entry? path).all FileEntry.isWritable then some (store.set path (.file content))
      else none

end FileStore

end RouteAccess
