import Reshape.Arguments
import Reshape.Files.Document
import Reshape.Logging.Filter
import Reshape.Settings.File

/-!
# The program

From the arguments, the environment and the files to what is written and the exit code. The settings
are loaded first, since logging depends on them; logging is set up even if they could not be loaded,
and the program goes on if it cannot be set up.
-/
namespace Reshape

/-- What the program finds around it. -/
structure Surroundings where
  files : Files
  environment : String → Option String
  /-- Does standard output go to a terminal? -/
  terminal : Bool

/-- What the program leaves behind. -/
structure Outcome where
  exitCode : Nat
  output : String
  errors : String
  deriving DecidableEq, Repr

namespace Surroundings

/-- The settings file that the environment names. -/
def config? (s : Surroundings) : Option String := s.environment "SHAPEMAP_CONFIG"

/-- The origin that the environment gives. -/
def origin? (s : Surroundings) : Option String := s.environment "SHAPEMAP_ORIGIN"

def logFilter? (s : Surroundings) : Option String := s.environment "RUST_LOG"

def logFormat? (s : Surroundings) : Option String := s.environment "SHAPEMAP_LOG_FORMAT"

end Surroundings

namespace UsageError

/-- Help and version are no failures. -/
def exitCode : UsageError → Nat
  | .help | .version _ => 0
  | _ => 2

/-- The name and the version of the program, or of a command. -/
def versionText (command : Option String) : String :=
  match command with
  | none => "shapemap 0.1.0"
  | some name => s!"shapemap-{name} 0.1.0"

def helpText : String :=
  "Usage: shapemap [OPTIONS] <COMMAND>\n\n" ++
  "Commands:\n" ++
  "  apply  Compile a definition and apply it to data files\n" ++
  "  check  Compile a definition and show the tree of its plan\n\n" ++
  "Options:\n" ++
  "  -v, --verbose          Log more; may be repeated\n" ++
  "  -q, --quiet            Write results only\n" ++
  "  -c, --config <FILE>    Settings in TOML, YAML or JSON\n" ++
  "  -o, --output <FORMAT>  human, json, json-pretty or yaml\n" ++
  "      --no-color         Write without colors\n" ++
  "  -h, --help             Show this help\n" ++
  "  -V, --version          Show the version\n\n" ++
  "Options of the commands:\n" ++
  "  -d, --definition <FILE>     The definition\n" ++
  "  -i, --input-schema <FILE>   The schema of the data\n" ++
  "  -s, --output-schema <FILE>  The schema of the results\n" ++
  "      --origin <TEXT>         The label of nested elements, for apply\n"

/-- What is wrong with the arguments. -/
def message : UsageError → String
  | .help => "help asked for"
  | .version _ => "version asked for"
  | .nothingGiven => "no arguments"
  | .noCommand => "a command is required"
  | .unknownCommand => "unknown command"
  | .unknownArgument => "unexpected argument"
  | .missingArgument => "a required argument is missing"
  | .invalidValue => "an option has no valid value"
  | .unexpectedValue => "an option takes no value"
  | .conflict => "an argument cannot be used twice or with another one"

/-- What the program leaves behind where no command is run. -/
def outcome (e : UsageError) : Outcome :=
  match e with
  | .help => ⟨e.exitCode, helpText, ""⟩
  | .version command => ⟨e.exitCode, versionText command ++ "\n", ""⟩
  | .nothingGiven => ⟨e.exitCode, "", helpText⟩
  | _ => ⟨e.exitCode, "", s!"error: {e.message}\n\nFor more information, try '--help'.\n"⟩

end UsageError

namespace Invocation

/-- The paths that may be read. -/
def paths (invocation : Invocation) : List String :=
  let ofMapping := fun m : MappingPaths => [m.definition, m.inputSchema, m.outputSchema]
  invocation.config.toList ++
    match invocation.command with
    | .apply mapping _ data => ofMapping mapping ++ data
    | .check mapping => ofMapping mapping

/-- The settings for a command. -/
def settings (invocation : Invocation) (s : Surroundings) : Except Failure Settings :=
  Settings.load s.files invocation.config s.origin?

/-- Are results written in color? -/
def color (invocation : Invocation) (s : Surroundings) : Bool := s.terminal && !invocation.noColor

/-- The writer of the results. -/
def writer (invocation : Invocation) (s : Surroundings) : Report.Writer :=
  ⟨invocation.format, invocation.color s, invocation.quiet⟩

/-- Load the settings and run the command. -/
def run (invocation : Invocation) (s : Surroundings) : Written Unit := do
  let settings ← Journal.lift (invocation.settings s)
  invocation.command.run s.files.document settings (invocation.writer s)

/-- How the program logs. -/
def logging (invocation : Invocation) (s : Surroundings) : Logging :=
  let base := Logging.ofVerbosity invocation.verbosity
  let withFile := match invocation.settings s with
    | .ok settings => base.withSection settings.logging invocation.verbosity
    | .error _ => base
  let all := withFile.withEnvironment s.logFilter? s.logFormat?
  if invocation.quiet then all.quieted else all

/-- What is said about logging before the command runs. -/
def loggingNotes (invocation : Invocation) (s : Surroundings) : List String :=
  let note := (Logging.formatNote s.logFormat?).toList
  match (invocation.logging s).start false with
  | .ok () => note
  | .error failure => note ++ [s!"Failed to initialize logging: {failure.message}"]

/-- What is said about a failure in the end. -/
def failureNotes (color : Bool) (failure : Failure) : List String :=
  failure.report color ::
    if failure.showsHelp then ["", "For more information, try '--help'"] else []

/-- What the program leaves behind when it runs a command. -/
def outcome (invocation : Invocation) (s : Surroundings) : Outcome :=
  let written := invocation.run s
  let output := String.join written.entries
  let lines := fun notes : List String => String.join (notes.map Report.Writer.line)
  let notes := invocation.loggingNotes s
  match written.outcome with
  | .ok () => ⟨0, output, lines notes⟩
  | .error failure =>
    ⟨failure.exitCode, output, lines (notes ++ failureNotes (invocation.color s) failure)⟩

end Invocation

/-- What the program leaves behind when it is run with some arguments. -/
def Surroundings.run (s : Surroundings) (args : List String) : Outcome :=
  match Arguments.read s.config? args with
  | .error e => e.outcome
  | .ok invocation => invocation.outcome s

end Reshape
