/-
RouteAccess/Log/Level.lean

The level of a log: the least rank of severity that is written.
-/
import RouteAccess.Event
import RouteAccess.Text.Case

namespace RouteAccess

/-- Why a word cannot set the level: it names another setting of the log, which
is a text or a table. -/
inductive LevelFault
  | textSetting
  | tableSetting
deriving DecidableEq, Repr

/-- The level that a word sets, in any case; a word of no meaning sets that of
information. -/
def logLevel (word : String) : Except LevelFault Nat :=
  match Text.upper word with
  | "NOTSET" => .ok 0
  | "DEBUG" => .ok Severity.debug.rank
  | "INFO" => .ok Severity.info.rank
  | "WARN" => .ok Severity.warning.rank
  | "WARNING" => .ok Severity.warning.rank
  | "ERROR" => .ok Severity.error.rank
  | "CRITICAL" => .ok Severity.critical.rank
  | "FATAL" => .ok Severity.critical.rank
  | "BASIC_FORMAT" => .error .textSetting
  | "_STYLES" => .error .tableSetting
  | _ => .ok Severity.info.rank

end RouteAccess
