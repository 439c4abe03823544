import Reshape.Files
import Reshape.Json.Reader
import Reshape.Yaml.Reader

/-!
# Documents

A document is a file that holds one value, in YAML if its name says so and otherwise in JSON.
-/
namespace Reshape.Files

/-- The value of a text in the format that a path promises. -/
def parseDocument (path content : String) : Except Failure Value :=
  if isYamlPath path then
    (Yaml.read .free content).mapError fun e => .invalidFormat path "YAML" e.message
  else (Json.read content).mapError fun e => .invalidFormat path "JSON" e.message

/-- The value of a file. -/
def document (files : Files) (path : String) : Except Failure Value := do
  parseDocument path (← files.read path)

end Reshape.Files
