import Reshape.Error
import Reshape.Text.Quoted
import Reshape.Value

/-!
# Transforms

A transform is a named function on values that may fail. A resolver finds transforms by name; where
none was configured, no name is known.
-/
namespace Reshape

/-- A named function on values. -/
structure Transform where
  name : String
  call : Value → Except Error Value

namespace Transform

/-- A function that cannot fail, under a name. -/
def total (name : String) (f : Value → Value) : Transform := ⟨name, fun value => .ok (f value)⟩

/-- The failure of a named transform. -/
def failure {α : Type} (name message : String) : Except Error α := .error (.transform name message)

/-- A transform in a line: its name. -/
def description (transform : Transform) : String :=
  "Transform \x7b name: " ++ Text.quoted transform.name ++ ", .. \x7d"

end Transform

/-- What finds a transform by its name. -/
inductive Resolver where
  | unconfigured
  | known (find? : String → Option Transform)

/-- The transform of a name. -/
def Resolver.find? : Resolver → String → Option Transform
  | .unconfigured, _ => none
  | .known find?, name => find? name

end Reshape
