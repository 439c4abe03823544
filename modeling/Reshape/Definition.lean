import Reshape.Value

/-!
# Mapping definitions

A definition says for each output field where its value comes from, and which constants go with
them. It is a tree: a field may be given by one definition, or by a list of definitions, of its own.
-/
namespace Reshape

/-- Where a lookup finds its table. -/
inductive TableRef where
  /-- Written out in the definition. -/
  | inline (table : Fields)
  /-- Known to a resolver under a name. -/
  | named (name : String)
  deriving Repr

mutual

/-- One level of a mapping: constants, and the output fields in order. -/
inductive Definition where
  | level (constants : Fields) (fields : List (String × Spec))

/-- How one output field is made. -/
inductive Spec where
  | copy (source : String)
  | lookup (source : String) (table : TableRef)
  /-- A function of a source field or, without one, of the whole input. -/
  | function (source : Option String) (name : String)
  | nested (body : Nested)

/-- What a nested field holds: one definition, or a list of them for an array. -/
inductive Nested where
  | single (definition : Definition)
  | many (definitions : List Definition)

end

namespace Definition

def constants : Definition → Fields
  | .level constants _ => constants

def fields : Definition → List (String × Spec)
  | .level _ fields => fields

/-- Does the definition declare neither fields nor constants? -/
def isEmpty (definition : Definition) : Bool :=
  definition.constants.isEmpty && definition.fields.isEmpty

/-- The reserved key of the constants of a level. -/
def constantKey : String := "$constant"

/-- The reserved key of a nested field. -/
def nestedKey : String := "$nested"

end Definition

/-- The definitions of a nested field as a list. -/
def Nested.toList : Nested → List Definition
  | .single definition => [definition]
  | .many definitions => definitions

end Reshape
