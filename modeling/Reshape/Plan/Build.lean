import Reshape.Definition
import Reshape.Event
import Reshape.Journal
import Reshape.Transform.Table

/-!
# Building the plan of a definition

Each field of a definition is resolved against the output fragment of its level and the one input
fragment, and each name against its resolver. The first fault ends the building. A field is noted
after all that is below it.
-/
namespace Reshape

/-- What definitions are resolved against at every level. -/
structure Scope where
  input : Fragment
  functions : Resolver
  lookups : Resolver

namespace Scope

/-- The source of a target. -/
def bind (scope : Scope) (target source : String) : Except Error Binding := do
  match ← scope.input.property source with
  | some fragment => return ⟨source, fragment⟩
  | none => .error (.sourceUnresolved target source)

end Scope

/-- Ask a resolver for a name; one that was not configured is noted. -/
def Resolver.resolve (resolver : Resolver) (kind : ResolverKind) (name : String) :
    Journal Event Error Transform := do
  match resolver with
  | .unconfigured => Journal.note (.resolverMissing name)
  | .known _ => pure ()
  match resolver.find? name with
  | some transform => return transform
  | none => Journal.fail (.unresolved kind name)

namespace Scope

/-- The transform of a lookup for a target. -/
def table (scope : Scope) (target : String) : TableRef → Journal Event Error Transform
  | .inline table => pure (Transform.lookup target table)
  | .named name => do
    return (← scope.lookups.resolve .lookup name).forTarget target

/-- The node of a target, whose fragment the output fragment must declare and whose strategy is
built for that fragment. -/
def node (target : String) (output : Fragment)
    (strategy : Fragment → Journal Event Error Strategy) : Journal Event Error Node := do
  match ← Journal.lift (output.property target) with
  | none => Journal.fail (.targetUnresolved target)
  | some fragment =>
    let strategy ← strategy fragment
    Journal.note (.fieldCompiled target strategy.kind)
    return .mk target fragment strategy

mutual

/-- The plan of one level against its output fragment. -/
def build (scope : Scope) : Definition → Fragment → Journal Event Error Level
  | .level constants fields, output => do
    return .mk constants (← buildFields scope constants fields output)

/-- The nodes of a level; a field may not be a constant as well. -/
def buildFields (scope : Scope) (constants : Fields) :
    List (String × Spec) → Fragment → Journal Event Error (List Node)
  | [], _ => pure []
  | (key, spec) :: rest, output =>
    if constants.contains key then Journal.fail (.duplicateField key)
    else do
      let node ← node key output (buildStrategy scope key spec)
      return node :: (← buildFields scope constants rest output)

/-- The strategy of a field. -/
def buildStrategy (scope : Scope) (key : String) : Spec → Fragment → Journal Event Error Strategy
  | .nested body, fragment => buildNested scope key body fragment
  | .copy source, _ => do
    return .copy (← Journal.lift (scope.bind key source))
  | .lookup source table, _ => do
    let source ← Journal.lift (scope.bind key source)
    return .lookup source (← scope.table key table)
  | .function (some source) name, _ => do
    let source ← Journal.lift (scope.bind key source)
    return .functionOfField source (← scope.functions.resolve .function name)
  | .function none name, _ => do
    return .functionOfInput (← scope.functions.resolve .function name)

/-- The strategy of a nested field: an array takes one definition or many, an object exactly one,
and nothing else takes any. -/
def buildNested (scope : Scope) (key : String) : Nested → Fragment → Journal Event Error Strategy
  | .single definition, fragment =>
    match fragment.container with
    | .array => do
      let items ← Journal.lift fragment.itemsOrEmpty
      Journal.note (.arrayEntered key 1)
      return .nestedArray [← build scope definition items]
    | .object => do
      return .nestedObject (← build scope definition fragment)
    | .other => Journal.fail (.nestedTargetType key fragment.typeText)
  | .many definitions, fragment =>
    match fragment.container with
    | .array => do
      let items ← Journal.lift fragment.itemsOrEmpty
      Journal.note (.arrayEntered key definitions.length)
      return .nestedArray (← buildLevels scope definitions items)
    | .object => Journal.fail (.nestedArrayForObject key)
    | .other => Journal.fail (.nestedTargetType key fragment.typeText)

/-- The levels of an array, all against the fragment of its items. -/
def buildLevels (scope : Scope) : List Definition → Fragment → Journal Event Error (List Level)
  | [], _ => pure []
  | definition :: rest, items => do
    let level ← build scope definition items
    return level :: (← buildLevels scope rest items)

end

/-- The node of a field. -/
def buildNode (scope : Scope) (key : String) (spec : Spec) (output : Fragment) :
    Journal Event Error Node :=
  node key output (buildStrategy scope key spec)

end Scope
end Reshape
