import Reshape.Value
import Reshape.Binary64.Text
import Reshape.Text.Quoted

/-!
# What was found instead

How a value of the wrong kind is described where another kind was expected. Formats differ in how
they lay out a float.
-/
namespace Reshape.Value

/-- What a value is, for a reader who expected something else. -/
def foundIn (layout : Binary64.Layout) : Value → String
  | .null => "null"
  | .bool b => if b then "boolean `true`" else "boolean `false`"
  | .number (.int n) => s!"integer `{n}`"
  | .number (.float x) => s!"floating point `{x.text layout}`"
  | .text s => s!"string {Text.quoted s}"
  | .list _ => "sequence"
  | .object _ => "map"

/-- A value stands where another kind of value should. -/
def mismatchIn (layout : Binary64.Layout) (value : Value) (expected : String) : String :=
  s!"invalid type: {value.foundIn layout}, expected {expected}"

/-- What a value is, for a reader of JSON. -/
def found (value : Value) : String := value.foundIn .json

/-- A value stands where another kind of value should, for a reader of JSON. -/
def mismatch (value : Value) (expected : String) : String := value.mismatchIn .json expected

end Reshape.Value
