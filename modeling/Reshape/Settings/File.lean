import Reshape.Files
import Reshape.Json.Shaped
import Reshape.Settings
import Reshape.Toml.Reader
import Reshape.Yaml.Reader

/-!
# Settings files

Settings are written in YAML or JSON if the name of their file says so, and otherwise in TOML. An
origin of the environment goes before the file's.
-/
namespace Reshape.Settings

/-- What a text says by the form of settings, in the format that a path promises. -/
def readContent (path text : String) : Except Failure Value :=
  if isYamlPath path then (Yaml.read form text).mapError fun e => .yaml e.message
  else if fileExtension? path = some "json" then
    (Json.readShaped form text).mapError fun e => .json e.message
  else (Toml.read form text).mapError fun message => .config s!"{path}: {message}"

/-- The settings of a text in the format that a path promises. -/
def parse (path text : String) : Except Failure Settings := ofForm <$> readContent path text

/-- The settings of a file, or the plain ones without a file, under an origin of the environment. -/
def load (files : Files) (path origin : Option String) : Except Failure Settings := do
  let settings ← match path with
    | some path => do parse path (← files.read path)
    | none => .ok default
  return settings.overrideOrigin origin

end Reshape.Settings
