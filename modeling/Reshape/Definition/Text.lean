import Reshape.Definition.Reader
import Reshape.Json.Reader

/-!
# Definitions from text

A definition is read from JSON text in two steps: the text must begin with a value, and the value
must be a definition. Only then does it matter whether anything follows in the text.
-/
namespace Reshape.Definition

/-- Read a definition from JSON text; every fault is one of the text. -/
def ofText (text : String) : Except Error Definition :=
  Json.readThen text (fun e => .json e.message) fun value =>
    (ofValue value).mapError fun e => .json e.message

end Reshape.Definition
