import Reshape.Program

/-!
# The command line

Reads the arguments, the environment and the files that the arguments name, and hands them to the
program.
-/
namespace Reshape

/-- What stands at a path. -/
def FileContent.load (path : String) : IO FileContent := do
  try
    return .text (← IO.FS.readFile path)
  catch
    | .inappropriateType _ 21 _ => return .directory
    | .noFileOrDirectory .. | .inappropriateType .. => return .missing
    | .permissionDenied .. => return .unreadable "Permission denied (os error 13)"
    | .userError _ => return .unreadable "stream did not contain valid UTF-8"
    | e => return .unreadable (toString e)

/-- The environment variables that the program looks at. -/
def Surroundings.variableNames : List String :=
  ["SHAPEMAP_CONFIG", "SHAPEMAP_ORIGIN", "RUST_LOG", "SHAPEMAP_LOG_FORMAT"]

end Reshape

open Reshape in
def main (args : List String) : IO UInt32 := do
  let environment ← Surroundings.variableNames.filterMapM fun name => do
    return (← IO.getEnv name).map fun value => (name, value)
  let config := environment.lookup "SHAPEMAP_CONFIG"
  let paths := match Arguments.read config args with
    | .ok invocation => invocation.paths
    | .error _ => []
  let contents ← paths.mapM fun path => do return (path, ← FileContent.load path)
  let output ← IO.getStdout
  let surroundings : Surroundings :=
    { files := fun path => (contents.lookup path).getD .missing
      environment := fun name => environment.lookup name
      terminal := ← output.isTty }
  let outcome := surroundings.run args
  output.putStr outcome.output
  (← IO.getStderr).putStr outcome.errors
  return outcome.exitCode.toUInt32
