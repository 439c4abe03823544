import Reshape.Error
import Reshape.Report.Color

/-!
# Failures of the command

What makes the command fail, the text that is shown for it and the exit code.
-/
namespace Reshape

inductive Failure where
  /-- A file that could not be read. -/
  | io (message : String)
  /-- A definition, or a single record, that failed. -/
  | mapping (error : Error)
  | fileNotFound (path : String)
  /-- A document that is not in the format its name promises. -/
  | invalidFormat (path expected message : String)
  | config (message : String)
  /-- One record of a document that failed. -/
  | record (path : String) (index : Nat) (error : Error)
  | json (message : String)
  | yaml (message : String)
  | other (message : String)
  deriving DecidableEq, Repr

namespace Failure

def message : Failure → String
  | .io message => s!"IO error: {message}"
  | .mapping error =>
    let phase := match error.phase with
      | .compile => "Compile"
      | .apply => "Apply"
      | .input => "Input"
    s!"{phase} error: {error.message}"
  | .fileNotFound path => s!"File not found: {path}"
  | .invalidFormat path expected message =>
    s!"Invalid file format for {path}: expected {expected} ({message})"
  | .config message => s!"Configuration error: {message}"
  | .record path index error => s!"{path}: record {index}: {error.message}"
  | .json message => s!"JSON error: {message}"
  | .yaml message => s!"YAML error: {message}"
  | .other message => message

def exitCode : Failure → Nat
  | .io _ => 1
  | .mapping _ => 2
  | .fileNotFound _ => 3
  | .invalidFormat .. => 4
  | .config _ => 5
  | .record .. => 6
  | .json _ => 12
  | .yaml _ => 13
  | .other _ => 99

/-- Is a hint at the help shown with the failure? -/
def showsHelp : Failure → Bool
  | .fileNotFound _ => true
  | _ => false

/-- The line that reports a failure. -/
def report (color : Bool) (failure : Failure) : String :=
  (if color then Report.Paint.boldRed.apply "Error:" else "Error:") ++ " " ++ failure.message

end Failure
end Reshape
