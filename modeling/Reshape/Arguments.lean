import Reshape.Command

/-!
# Arguments

What the command line may say and what it means. There are general options, which may stand in front
of a command or behind it, and options of the commands. Each level of the line is read on its own:
the arguments in front of the command, and those behind it. Of a general option given on both levels
the one behind the command counts.

The value of an option is looked at when the next option or the end of its level is reached, so an
earlier fault of that kind may be reported after a later fault of another kind.
-/
namespace Reshape

/-- Why there is no command to run. -/
inductive UsageError where
  | help
  /-- The version is asked for, perhaps that of a command. -/
  | version (command : Option String)
  | nothingGiven
  | noCommand
  | unknownCommand
  | unknownArgument
  /-- An argument that must be given is missing. -/
  | missingArgument
  /-- An option has no value, or none that it takes. -/
  | invalidValue
  /-- An option that takes no value has one. -/
  | unexpectedValue
  /-- An option is given twice, or with another that excludes it. -/
  | conflict
  deriving DecidableEq, Repr

/-- What a command line asks for. -/
structure Invocation where
  verbosity : Nat
  quiet : Bool
  config : Option String
  format : Report.Format
  noColor : Bool
  command : Command
  deriving DecidableEq, Repr

namespace Arguments

/-- Options without a value. -/
inductive Flag where
  | verbose
  | quiet
  | noColor
  | help
  | version
  deriving DecidableEq, Repr

/-- Options with a value. -/
inductive Setting where
  | config
  | output
  | definition
  | inputSchema
  | outputSchema
  | origin
  deriving DecidableEq, Repr

/-- An option and its names. -/
structure Opt where
  meaning : Flag ⊕ Setting
  long : String
  short : Option Char

/-- The options of every level. -/
def generalOptions : List Opt :=
  [⟨.inl .verbose, "verbose", some 'v'⟩, ⟨.inl .quiet, "quiet", some 'q'⟩,
    ⟨.inr .config, "config", some 'c'⟩, ⟨.inr .output, "output", some 'o'⟩,
    ⟨.inl .noColor, "no-color", none⟩, ⟨.inl .help, "help", some 'h'⟩,
    ⟨.inl .version, "version", some 'V'⟩]

/-- The options that say where a mapping is. -/
def mappingOptions : List Opt :=
  [⟨.inr .definition, "definition", some 'd'⟩, ⟨.inr .inputSchema, "input-schema", some 'i'⟩,
    ⟨.inr .outputSchema, "output-schema", some 's'⟩]

/-- What a level of the command line may hold. -/
structure Grammar where
  /-- The command of this level; none in front of it. -/
  command : Option String
  options : List Opt
  commands : List String
  takesData : Bool

def applyGrammar : Grammar :=
  ⟨some "apply", generalOptions ++ mappingOptions ++ [⟨.inr .origin, "origin", none⟩], [], true⟩

def checkGrammar : Grammar := ⟨some "check", generalOptions ++ mappingOptions, [], false⟩

/-- Commands by name. -/
def commandGrammar? (name : String) : Option Grammar :=
  [applyGrammar, checkGrammar].find? fun grammar => grammar.command == some name

def topGrammar : Grammar := ⟨none, generalOptions, ["apply", "check", "help"], false⟩

/-- May an option have a value? An origin may be empty, a path may not. -/
def Setting.accepts : Setting → String → Bool
  | .output, value => (Report.Format.ofWord? value).isSome
  | .origin, _ => true
  | _, value => !value.isEmpty

/-- What a level has given so far. -/
structure Given where
  verbose : Nat
  quiet : Bool
  noColor : Bool
  settings : List (Setting × String)
  data : List String

namespace Given

def nothing : Given := ⟨0, false, false, [], []⟩

def get? (given : Given) (setting : Setting) : Option String := given.settings.lookup setting

/-- Is there anything that the level gives? -/
def isNothing (given : Given) : Bool :=
  given.verbose = 0 && !given.quiet && !given.noColor && given.settings.isEmpty &&
    given.data.isEmpty

/-- Set an option that was not set before. -/
def set (given : Given) (setting : Setting) (value : String) : Except UsageError Given :=
  if (given.get? setting).isSome then .error .conflict
  else if !setting.accepts value then .error .invalidValue
  else .ok { given with settings := given.settings ++ [(setting, value)] }

/-- The general options of two levels, where the deeper one counts. -/
def merge (above below : Given) : Given where
  verbose := if below.verbose = 0 then above.verbose else below.verbose
  quiet := below.quiet || above.quiet
  noColor := below.noColor || above.noColor
  settings := below.settings ++ above.settings
  data := below.data

end Given

/-- What was read and not looked at yet: an option, perhaps with its value, or data. -/
inductive Pending where
  | nothing
  | setting (setting : Setting) (value : Option String)
  | data (paths : List String)

/-- Where the reader of a level is. -/
structure State where
  given : Given
  pending : Pending

namespace State

def start : State := ⟨.nothing, .nothing⟩

/-- Is the next argument the value of an option? -/
def awaiting (state : State) : Option Setting :=
  match state.pending with
  | .setting setting none => some setting
  | _ => none

/-- Look at what is pending. -/
def resolve (state : State) : Except UsageError Given :=
  match state.pending with
  | .nothing => .ok state.given
  | .setting _ none => .error .invalidValue
  | .setting setting (some value) => state.given.set setting value
  | .data paths =>
    if paths.any String.isEmpty then .error .invalidValue
    else .ok { state.given with data := state.given.data ++ paths }

/-- Note a flag. -/
def flag (state : State) (grammar : Grammar) (flag : Flag) : Except UsageError State := do
  let given ← state.resolve
  let given ← match flag with
    | .help => .error .help
    | .version => .error (.version grammar.command)
    | .verbose => .ok { given with verbose := min 255 (given.verbose + 1) }
    | .quiet => if given.quiet then .error .conflict else .ok { given with quiet := true }
    | .noColor => if given.noColor then .error .conflict else .ok { given with noColor := true }
  return ⟨given, .nothing⟩

/-- Note an option, with the value that stands in the same argument, if one does. -/
def setting (state : State) (setting : Setting) (value : Option String) :
    Except UsageError State := do
  let given ← state.resolve
  match value with
  | some value => return ⟨← given.set setting value, .nothing⟩
  | none => return ⟨given, .setting setting none⟩

/-- Note an argument that is no option. -/
def positional (state : State) (grammar : Grammar) (trailing : Bool) (arg : String) :
    Except UsageError State :=
  if grammar.takesData then
    match state.pending with
    | .data paths => .ok { state with pending := .data (paths ++ [arg]) }
    | _ => do return ⟨← state.resolve, .data [arg]⟩
  else if grammar.commands.isEmpty || trailing && grammar.commands.contains arg then
    .error .unknownArgument
  else .error .unknownCommand

end State

/-- The name of a long option, and its value behind an equals sign. -/
def splitLong (cs : List Char) : String × Option String :=
  let name := cs.takeWhile (· ≠ '=')
  match cs.drop name.length with
  | [] => (String.ofList name, none)
  | _ :: value => (String.ofList name, some (String.ofList value))

/-- Read the characters behind two dashes. -/
def readLong (grammar : Grammar) (state : State) (cs : List Char) : Except UsageError State :=
  let (name, value) := splitLong cs
  match grammar.options.find? fun option => option.long = name with
  | none => .error .unknownArgument
  | some option =>
    match option.meaning, value with
    | .inl flag, none => state.flag grammar flag
    | .inl _, some _ => .error .unexpectedValue
    | .inr setting, value => state.setting setting value

/-- Read the characters behind one dash: flags, then perhaps an option with the rest as its value.
-/
def readShort (grammar : Grammar) : State → List Char → Except UsageError State
  | state, [] => .ok state
  | state, c :: rest =>
    match grammar.options.find? fun option => option.short = some c with
    | none => .error .unknownArgument
    | some option =>
      match option.meaning with
      | .inl flag => do readShort grammar (← state.flag grammar flag) rest
      | .inr setting =>
        let value := match rest with
          | [] => none
          | '=' :: value => some (String.ofList value)
          | value => some (String.ofList value)
        state.setting setting value

/-- Read the arguments of a level up to a command, which is returned with the arguments behind it.
Behind two dashes every argument is positional. -/
def readLevel (grammar : Grammar) (trailing : Bool) :
    State → List String → Except UsageError (State × Option (String × List String))
  | state, [] => .ok (state, none)
  | state, arg :: rest =>
    if trailing then do
      readLevel grammar true (← state.positional grammar true arg) rest
    else if state.awaiting.isNone && grammar.commands.contains arg then
      .ok (state, some (arg, rest))
    else
      match arg.toList with
      | ['-', '-'] => readLevel grammar true state rest
      | '-' :: '-' :: cs => do readLevel grammar false (← readLong grammar state cs) rest
      | '-' :: c :: cs => do readLevel grammar false (← readShort grammar state (c :: cs)) rest
      | _ =>
        match state.awaiting with
        | some setting =>
          readLevel grammar false { state with pending := .setting setting (some arg) } rest
        | none => do readLevel grammar false (← state.positional grammar false arg) rest

/-- What a level gives in the end. A settings file named by the environment is looked at unless the
level names one. -/
def finish (config : Option String) (state : State) : Except UsageError Given := do
  let given ← state.resolve
  let named := (given.get? .config).isSome
  if !named && config.any fun path => !Setting.config.accepts path then .error .invalidValue
  else return given

/-- Options that exclude each other. -/
def checkConflicts (given : Given) : Except UsageError Unit :=
  if given.quiet && given.verbose ≠ 0 then .error .conflict else .ok ()

/-- The command that the arguments behind its name describe. -/
def commandOf (grammar : Grammar) (given : Given) : Except UsageError Command :=
  match given.get? .definition, given.get? .inputSchema, given.get? .outputSchema with
  | some definition, some inputSchema, some outputSchema =>
    let paths : MappingPaths := ⟨definition, inputSchema, outputSchema⟩
    if !grammar.takesData then .ok (.check paths)
    else if given.data.isEmpty then .error .missingArgument
    else .ok (.apply paths (given.get? .origin) given.data)
  | _, _, _ => .error .missingArgument

/-- The help on a command, on the help itself or on the program. -/
def helpOn : List String → UsageError
  | [] => .help
  | [name] => if topGrammar.commands.contains name then .help else .unknownCommand
  | _ => .unknownCommand

/-- Read a command line. `config` is the settings file that the environment names. -/
def read (config : Option String) (args : List String) : Except UsageError Invocation := do
  let (state, command) ← readLevel topGrammar false .start args
  match command with
  | none =>
    let given ← finish config state
    if given.isNothing && config.isNone then .error .nothingGiven else .error .noCommand
  | some (name, rest) =>
    match commandGrammar? name with
    | none => .error (helpOn rest)
    | some grammar =>
      let (below, _) ← readLevel grammar false .start rest
      let below ← finish config below
      checkConflicts below
      let command ← commandOf grammar below
      let above ← finish config state
      checkConflicts above
      let given := above.merge below
      return {
        verbosity := if given.quiet then 0 else given.verbose
        quiet := given.quiet
        config := (given.get? .config).or config
        format := ((given.get? .output).bind Report.Format.ofWord?).getD .human
        noColor := given.noColor
        command }

end Arguments
end Reshape
