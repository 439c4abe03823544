import Reshape.Failure
import Reshape.Logging
import Reshape.Pattern.Reader
import Reshape.Text.Property
import Reshape.Text.Space

/-!
# Log filters

A filter is a list of directives with commas between them: a level, a target, or a target with a
level. A target may go with a span in brackets, and that with a field in braces, which may go with a
constant or a pattern for its value. Only the form of a filter is looked at here; what it selects is
not.
-/
namespace Reshape.Logging

/-- What is wrong with a filter. -/
inductive FilterFault where
  | directive
  | level
  | field (fault : PatternFault)
  deriving DecidableEq, Repr

def FilterFault.message : FilterFault → String
  | .directive => "invalid filter directive"
  | .level => "error parsing level filter: expected one of \"off\", \"error\", \"warn\", " ++
      "\"info\", \"debug\", \"trace\", or a number 0-5"
  | .field fault => "invalid field filter: " ++ fault.message

/-- Is this a level: a number up to five, or a name in any case? -/
def isLevel (cs : List Char) : Bool :=
  let digits := match cs with
    | '+' :: rest => rest
    | _ => cs
  let isNumber := !digits.isEmpty && digits.all Char.isDigit && Binary64.digitsValue digits ≤ 5
  isNumber || ["off", "error", "warn", "info", "debug", "trace"].any fun name =>
    Text.eqIgnoreAsciiCase name (String.ofList cs)

/-- Is this a constant: a truth value, or a number, finite or not? -/
def isConstant (cs : List Char) : Bool :=
  let unsigned := (Binary64.takeSign cs).2
  cs = "true".toList || cs = "false".toList || (Binary64.decimalParts? unsigned).isSome ||
    ["inf", "infinity", "nan"].any fun name =>
      Text.eqIgnoreAsciiCase name (String.ofList unsigned)

/-- Check a field: a name, with an equals sign and a value behind it or without. What is behind a
second equals sign does not count. -/
def checkField (cs : List Char) : Except FilterFault Unit :=
  match cs.dropWhile (· ≠ '=') with
  | [] => .ok ()
  | _ :: behind =>
    let value := behind.takeWhile (· ≠ '=')
    if isConstant value then .ok ()
    else match Pattern.ofText? value with
      | none => .error (.field .noMatcher)
      | some pattern => pattern.check.mapError .field

/-- The characters behind so many bytes of text. -/
def dropBytes : Nat → List Char → List Char
  | 0, cs => cs
  | _, [] => []
  | count + 1, c :: rest => dropBytes (count + 1 - c.utf8Size) rest

/-- The characters that so many bytes of text begin with. -/
def takeBytes : Nat → List Char → List Char
  | 0, _ => []
  | _, [] => []
  | count + 1, c :: rest => c :: takeBytes (count + 1 - c.utf8Size) rest

/-- Where the reader of a directive is. Places are counted in bytes. -/
inductive FilterMode where
  | start
  | target
  /-- Within the brackets of a span. -/
  | span
  /-- Within the braces of a field that begins at this place. -/
  | field (index : Nat)
  /-- Behind the braces, still within the brackets. -/
  | fields
  /-- Behind the brackets. -/
  | closed
  /-- Behind an equals sign; the level begins at this place. -/
  | level (index : Nat)
  deriving DecidableEq, Repr

/-- The mode behind a character at a place. A field is looked up in the whole text. -/
def FilterMode.next (whole : List Char) (mode : FilterMode) (place : Nat) (c : Char) :
    Except FilterFault FilterMode :=
  match mode with
  | .start =>
    if c = '[' then .ok .span
    else if ['-', ':', '_'].contains c || Text.isAlphanumeric c then .ok .target
    else .error .directive
  | .target =>
    if c = '=' then .ok (.level (place + 1))
    else if c = '[' then .ok .span
    else .ok .target
  | .span =>
    if c = ']' then .ok .closed
    else if c = '\x7b' then .ok (.field (place + 1))
    else .ok .span
  | .field index =>
    if c = '\x7d' then
      if index = place then .error .directive
      else do
        checkField (takeBytes (place - index) (dropBytes index whole))
        return .fields
    else .ok (.field index)
  | .fields => if c = ']' then .ok .closed else .error .directive
  | .closed => if c = '=' then .ok (.level (place + 1)) else .error .directive
  | .level index => .ok (.level index)

/-- The mode behind the characters from a place on. -/
def FilterMode.run (whole : List Char) :
    FilterMode → Nat → List Char → Except FilterFault FilterMode
  | mode, _, [] => .ok mode
  | mode, place, c :: rest => do
    let mode ← mode.next whole place c
    FilterMode.run whole mode (place + c.utf8Size) rest

/-- Check a directive. Blanks around it do not count, but a field and a level begin at their places
among all of its characters. -/
def checkDirective (cs : List Char) : Except FilterFault Unit := do
  match ← FilterMode.run cs .start 0 (Text.trimList Text.isWhiteSpace cs) with
  | .target | .closed => .ok ()
  | .level index =>
    let level := dropBytes index cs
    if level.isEmpty || isLevel level then .ok () else .error .level
  | _ => .error .directive

/-- Check all directives of a filter. Empty ones do not count. -/
def checkFilter (filter : String) : Except FilterFault Unit :=
  ((filter.splitOn ",").filter fun part => !part.isEmpty).forM fun part =>
    checkDirective part.toList

/-- Set logging up, given whether that was done before. -/
def start (logging : Logging) (again : Bool) : Except Failure Unit :=
  match checkFilter logging.level with
  | .error fault => .error (.other s!"Invalid log filter `{logging.level}`: {fault.message}")
  | .ok () =>
    if again then
      .error (.other ("Failed to initialize logging: " ++
        "a global default trace dispatcher has already been set"))
    else .ok ()

end Reshape.Logging
