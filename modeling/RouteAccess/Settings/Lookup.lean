/-
RouteAccess/Settings/Lookup.lean

How settings are looked for outside a program: under which names, in which
files, and which values count as none.  Fields of a few names that start with an
underscore say so; they are options and no settings.
-/
import RouteAccess.Json.Value
import RouteAccess.Text.Case

namespace RouteAccess

namespace Settings

/-- How settings are looked for. -/
structure Lookup where
  /-- the common beginning of the names -/
  beginning : String := "GUARDIAN_"
  /-- whether capital and small letters differ in names -/
  exactCase : Bool := false
  /-- whether an empty value is none -/
  skipEmpty : Bool := false
  /-- the value that stands for null -/
  nullText : Option String := none
  /-- the files of the environment; a later one counts more -/
  files : List String := [".env"]

namespace Lookup

/-! ### Options -/

/-- The options that change how settings are looked for. -/
def optionNames : List String :=
  ["_env_prefix", "_case_sensitive", "_env_ignore_empty", "_env_parse_none_str", "_env_file"]

/-- The options about parts of settings, other files and a command line.  The
settings have no parts, and the others are not looked at. -/
def idleNames : List String :=
  ["_nested_model_default_partial_update", "_env_file_encoding", "_env_nested_delimiter",
    "_env_nested_max_split", "_env_parse_enums", "_cli_prog_name", "_cli_parse_args",
    "_cli_settings_source", "_cli_parse_none_str", "_cli_hide_none_type", "_cli_avoid_json",
    "_cli_enforce_required", "_cli_use_class_docs_for_groups", "_cli_exit_on_error", "_cli_prefix",
    "_cli_flag_prefix_char", "_cli_implicit_flags", "_cli_ignore_unknown_args", "_cli_kebab_case",
    "_cli_shortcuts", "_secrets_dir"]

/-- Whether a field is an option. -/
def isOption (field : String × Json) : Bool :=
  optionNames.contains field.1 || idleNames.contains field.1

/-- The beginning that an option names; null leaves it as it is. -/
def beginningOf : Option Json → Option String
  | none => some "GUARDIAN_"
  | some .null => some "GUARDIAN_"
  | some (.str s) => some s
  | some _ => none

/-- The files that an option names. -/
def filesOf : Option Json → Option (List String)
  | none => some [".env"]
  | some .null => some []
  | some (.str name) => some [name]
  | some (.arr names) => names.mapM Json.text?
  | some (.obj fields) => some (fields.map (·.1))
  | some _ => none

/-- What the options among fields ask for, unless one has a value of a kind that
it cannot have. -/
def ofOptions? (fields : List (String × Json)) : Option Lookup := do
  let isSet (name : String) := ((fields.lookup name).map Json.isNothing) = some false
  return {
    beginning := ← beginningOf (fields.lookup "_env_prefix")
    exactCase := isSet "_case_sensitive"
    skipEmpty := isSet "_env_ignore_empty"
    nullText := (fields.lookup "_env_parse_none_str").bind Json.text?
    files := ← filesOf (fields.lookup "_env_file") }

/-! ### Names and values -/

/-- A name as it is compared. -/
def key (l : Lookup) (name : String) : String :=
  if l.exactCase then name else Text.lower name

/-- The name of a setting outside a program, as it is compared. -/
def outerName (l : Lookup) (setting : String) : String :=
  l.key (l.beginning ++ setting)

/-- The entries that count, under names as they are compared. -/
def counted {α : Type} (l : Lookup) (value : α → Option String) (entries : List (String × α)) :
    List (String × α) :=
  (entries.filter fun e => !(l.skipEmpty && value e.2 = some "")).map fun e => (l.key e.1, e.2)

/-- The value of a setting from its text. -/
def valueOf (l : Lookup) (text : String) : Json :=
  if l.nullText = some text then .null else .str text

end Lookup

end Settings

end RouteAccess
