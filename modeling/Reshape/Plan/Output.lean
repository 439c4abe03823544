import Reshape.Event
import Reshape.Journal
import Reshape.Text.Space

/-!
# The output of a plan

A plan turns a value into an object, field by field in the order of its nodes. A field whose result
is null or the empty text is left out. Constants go only with a level that has a field; so a nested
object without fields is left out with its constants, and so is such an element of an array. Each
element that stays carries the origin.
-/
namespace Reshape

/-- The field that every element of a nested array carries. -/
def originKey : String := "dataOrigin"

/-- A source field as nodes see it: a text is trimmed, a missing field is null. -/
def Binding.read (source : Binding) (input : Value) : Value :=
  match input.get? source.name with
  | some (.text s) => .text (Text.trim Text.isTextSpace s)
  | some value => value
  | none => .null

/-- The fields of a level with its constants, which give way to fields of the same name. -/
def withConstants (constants output : Fields) : Fields :=
  if output.isEmpty then output
  else constants.foldl (fun fields constant => fields.insertNew constant.1 constant.2) output

mutual

/-- The fields that a level makes of an input. -/
def Level.output (input : Value) (origin : String) : Level → Journal Event Error Fields
  | .mk constants nodes => do
    return withConstants constants (← outputOfNodes input origin nodes [])

/-- The fields of some nodes, put into those that are there. -/
def outputOfNodes (input : Value) (origin : String) :
    List Node → Fields → Journal Event Error Fields
  | [], output => pure output
  | node :: rest, output => do
    let result ← node.result input origin
    if result.isSuppressed then
      Journal.note (.resultSuppressed node.target)
      outputOfNodes input origin rest output
    else outputOfNodes input origin rest (output.insert node.target result)

/-- What a node makes of an input, also if it will be left out. -/
def Node.result (input : Value) (origin : String) : Node → Journal Event Error Value
  | .mk target _ strategy => do
    Journal.note (.strategyApplied target strategy.kind)
    strategy.result input origin target

/-- What a strategy makes of an input for a target. -/
def Strategy.result (input : Value) (origin : String) (target : String) :
    Strategy → Journal Event Error Value
  | .copy source => pure (source.read input)
  | .lookup source transform | .functionOfField source transform =>
    Journal.lift (transform.call (source.read input))
  | .functionOfInput transform => Journal.lift (transform.call input)
  | .nestedObject level => do
    let fields ← level.output input origin
    if fields.isEmpty then
      Journal.note (.objectSuppressed target)
      return .null
    else return .object fields
  | .nestedArray levels => do
    return .list (← elements input origin target 0 levels)

/-- The elements that levels make for an array, numbered from an index. -/
def elements (input : Value) (origin : String) (target : String) :
    Nat → List Level → Journal Event Error (List Value)
  | _, [] => pure []
  | index, level :: rest => do
    let fields ← level.output input origin
    if fields.isEmpty then
      Journal.note (.elementDropped target index)
      elements input origin target (index + 1) rest
    else
      let others ← elements input origin target (index + 1) rest
      return .object (fields.insert originKey (.text origin)) :: others

end

/-- The object that a plan makes of an input. -/
def Level.apply (level : Level) (input : Value) (origin : String) : Journal Event Error Value := do
  return .object (← level.output input origin)

end Reshape
