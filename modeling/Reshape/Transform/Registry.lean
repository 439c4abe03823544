import Reshape.Transform.Builtin

/-!
# Registries of transforms

A registry keeps transforms in the order of their names, by code point, each under its own name. The
transform stored last under a name is the one that is found.
-/
namespace Reshape

/-- Transforms in the order of their names. -/
structure Registry where
  transforms : List Transform

namespace Registry

def empty : Registry := ⟨[]⟩

/-- Put a transform at its place in a list ordered by name, instead of the one of its name. -/
def place (new : Transform) : List Transform → List Transform
  | [] => [new]
  | old :: rest =>
    if new.name < old.name then new :: old :: rest
    else if new.name = old.name then new :: rest
    else old :: place new rest

/-- Store a transform under its own name. -/
def insert (registry : Registry) (new : Transform) : Registry := ⟨place new registry.transforms⟩

/-- Store a function under a name. -/
def register (registry : Registry) (name : String) (call : Value → Except Error Value) : Registry :=
  registry.insert ⟨name, call⟩

/-- The built-in transforms. -/
def builtins : Registry := Transform.builtins.foldl insert empty

/-- The transform of a name. -/
def find? (registry : Registry) (name : String) : Option Transform :=
  registry.transforms.find? fun transform => transform.name == name

def contains (registry : Registry) (name : String) : Bool :=
  registry.transforms.any fun transform => transform.name == name

/-- The names in order. -/
def names (registry : Registry) : List String := registry.transforms.map (·.name)

def resolver (registry : Registry) : Resolver := .known registry.find?

end Registry
end Reshape
