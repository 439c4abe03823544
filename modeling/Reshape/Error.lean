/-!
# What can go wrong with a mapping

One constructor for each cause, with the names and texts that a report needs. The wording, the phase
in which an error belongs and the word for its kind are functions on the cause.
-/
namespace Reshape

/-- What kind of name a resolver was asked for. -/
inductive ResolverKind where
  | function
  | lookup
  deriving DecidableEq, Repr

def ResolverKind.word : ResolverKind → String
  | .function => "function"
  | .lookup => "lookup"

def ResolverKind.name : ResolverKind → String
  | .function => "Function"
  | .lookup => "Lookup"

/-- When an error arises: from the definition, from the data, or from a text handed in. -/
inductive Phase where
  | compile
  | apply
  | input
  deriving DecidableEq, Repr

def Phase.word : Phase → String
  | .compile => "compile"
  | .apply => "apply"
  | .input => "input"

def Phase.name : Phase → String
  | .compile => "Compile"
  | .apply => "Apply"
  | .input => "Input"

inductive Error where
  /-- A field that the output schema does not declare. -/
  | targetUnresolved (field : String)
  /-- A source that the input schema does not declare. -/
  | sourceUnresolved (field source : String)
  /-- Keys that exclude each other in one field. -/
  | incompatibleStrategies (field detail : String)
  /-- A nested definition for a target that is neither object nor array. -/
  | nestedTargetType (field found : String)
  /-- A list of nested definitions for an object target. -/
  | nestedArrayForObject (field : String)
  | lookupWithoutSource (field : String)
  | noStrategy (field : String)
  /-- A key that is both a field and a constant. -/
  | duplicateField (field : String)
  /-- A field whose parts have the wrong shape. -/
  | invalidFieldSpec (field message : String)
  /-- A whole argument, or a part of a schema, that has the wrong shape. -/
  | invalidArgument (argument message : String)
  /-- A name that its resolver does not know. -/
  | unresolved (kind : ResolverKind) (name : String)
  /-- A value without an entry in a lookup table. -/
  | unknownLookupValue (value target : String)
  /-- A transform that failed. -/
  | transform (name message : String)
  /-- Data given to a mapper without a plan. -/
  | compileRequired
  /-- A text or value that could not be decoded. -/
  | json (message : String)
  deriving DecidableEq, Repr

namespace Error

/-- The name of a transform that has none. -/
def anonymous : String := "<anonymous>"

def message : Error → String
  | .targetUnresolved field => s!"unable to resolve target field `{field}`"
  | .sourceUnresolved field source =>
    s!"unable to resolve source field `{source}` for target `{field}`"
  | .incompatibleStrategies field detail => s!"incompatible strategies for `{field}`: {detail}"
  | .nestedTargetType field found =>
    s!"unexpected target type `{found}` for nested strategy on `{field}`"
  | .nestedArrayForObject field => s!"array not allowed for object target `{field}`"
  | .lookupWithoutSource field => s!"lookup requires source for `{field}`"
  | .noStrategy field => s!"no recognized strategy for field `{field}`"
  | .duplicateField field => s!"duplicate field `{field}` in strategy and constant"
  | .invalidFieldSpec field message => s!"invalid field spec for `{field}`: {message}"
  | .invalidArgument argument message => s!"invalid {argument}: {message}"
  | .unresolved kind name => s!"unable to resolve {kind.word} `{name}`"
  | .unknownLookupValue value target => s!"unknown lookup value `{value}` for target `{target}`"
  | .transform name message => s!"transform `{name}` failed: {message}"
  | .compileRequired => "compile required before apply"
  | .json message => s!"JSON error: {message}"

def phase : Error → Phase
  | .unknownLookupValue .. | .transform .. | .compileRequired => .apply
  | .json .. => .input
  | _ => .compile

/-- The word for the kind of an error. -/
def kind : Error → String
  | .targetUnresolved .. => "TargetUnresolved"
  | .sourceUnresolved .. => "SourceUnresolved"
  | .incompatibleStrategies .. => "IncompatibleStrategies"
  | .nestedTargetType .. => "NestedTargetType"
  | .nestedArrayForObject .. => "NestedArrayForObject"
  | .lookupWithoutSource .. => "LookupWithoutSource"
  | .noStrategy .. => "NoStrategy"
  | .duplicateField .. => "DuplicateField"
  | .invalidFieldSpec .. => "InvalidFieldSpec"
  | .invalidArgument .. => "InvalidArgument"
  | .unresolved .. => "Unresolved"
  | .unknownLookupValue .. => "UnknownLookupValue"
  | .transform .. => "Transform"
  | .compileRequired => "CompileRequired"
  | .json .. => "Json"

end Error
end Reshape
