import Reshape.Settings
import Reshape.Text.Case

/-!
# Logging

How much is logged and in which form, put together from the verbosity of the command line, the
settings file and the environment. Where several speak, the environment's filter wins over all; a
verbosity that was asked for wins over the file's level, but not over its format.
-/
namespace Reshape

inductive LogFormat where
  | compact
  | full
  | json
  deriving DecidableEq, Repr

namespace LogFormat

def name : LogFormat → String
  | .compact => "Compact"
  | .full => "Full"
  | .json => "Json"

/-- The format of a name, in any case. -/
def ofName? (name : String) : Option LogFormat :=
  match Text.lower name with
  | "compact" => some .compact
  | "full" => some .full
  | "json" => some .json
  | _ => none

end LogFormat

structure Logging where
  /-- The filter: what is logged, and from where. -/
  level : String
  format : LogFormat
  console : Bool
  threadIds : Bool
  sourceLocation : Bool
  deriving DecidableEq, Repr

namespace Logging

/-- Warnings in the compact form. -/
def default : Logging := ⟨"warn", .compact, true, false, false⟩

/-- Logging for a verbosity; beyond two, all there is. -/
def ofVerbosity : Nat → Logging
  | 0 => default
  | 1 => { default with level := "info" }
  | 2 => { default with level := "debug", sourceLocation := true }
  | _ => ⟨"trace", .full, true, true, true⟩

/-- Logging with the section of a settings file: its level counts only without verbosity, its format
only if it is known. -/
def withSection (logging : Logging) (fromFile : LoggingSection) (verbosity : Nat) : Logging where
  level := if verbosity = 0 then fromFile.level.getD logging.level else logging.level
  format := (fromFile.format.bind LogFormat.ofName?).getD logging.format
  console := logging.console
  threadIds := logging.threadIds
  sourceLocation := logging.sourceLocation

/-- Logging with the filter and the format of the environment. -/
def withEnvironment (logging : Logging) (filter format : Option String) : Logging where
  level := filter.getD logging.level
  format := (format.bind LogFormat.ofName?).getD logging.format
  console := logging.console
  threadIds := logging.threadIds
  sourceLocation := logging.sourceLocation

/-- The note on a format of the environment that is not known. -/
def formatNote (format : Option String) : Option String :=
  format.bind fun name =>
    if (LogFormat.ofName? name).isNone then some s!"Invalid log format: {name}, using default"
    else none

/-- Quiet logging: errors only, and not for a console. -/
def quieted (logging : Logging) : Logging := { logging with level := "error", console := false }

def toValue (logging : Logging) : Value :=
  .object [("level", .text logging.level), ("format", .text logging.format.name),
    ("console", .bool logging.console), ("thread_ids", .bool logging.threadIds),
    ("source_location", .bool logging.sourceLocation)]

end Logging
end Reshape
