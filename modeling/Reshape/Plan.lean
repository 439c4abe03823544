import Reshape.Schema
import Reshape.Transform

/-!
# Plans

The executable form of a definition. A level owns its nodes, and a nested node owns its levels, so a
plan is a finite tree that needs neither definition nor resolvers any more. A node keeps the
fragments of its target and its source, which say what was declared for them; they have no influence
on results.
-/
namespace Reshape

/-- The input field that a node reads, and what the input schema declares for it. -/
structure Binding where
  name : String
  fragment : Fragment
  deriving Repr

mutual

/-- One level of a plan. -/
inductive Level where
  | mk (constants : Fields) (nodes : List Node)

/-- One output field. -/
inductive Node where
  | mk (target : String) (fragment : Fragment) (strategy : Strategy)

/-- How a field is made, with all names resolved. -/
inductive Strategy where
  | copy (source : Binding)
  | lookup (source : Binding) (transform : Transform)
  /-- A function of a source field. -/
  | functionOfField (source : Binding) (transform : Transform)
  /-- A function of the whole input. -/
  | functionOfInput (transform : Transform)
  | nestedObject (level : Level)
  | nestedArray (levels : List Level)

end

/-- What kind of strategy a node has. -/
inductive StrategyKind where
  | copy
  | lookup
  | functionOfField
  | functionOfInput
  | nestedObject
  | nestedArray
  deriving DecidableEq, Repr

def StrategyKind.word : StrategyKind → String
  | .copy => "copy"
  | .lookup => "lookup"
  | .functionOfField => "functionVal"
  | .functionOfInput => "functionFull"
  | .nestedObject => "nestedObject"
  | .nestedArray => "nestedArray"

def StrategyKind.all : List StrategyKind :=
  [.copy, .lookup, .functionOfField, .functionOfInput, .nestedObject, .nestedArray]

namespace Strategy

def kind : Strategy → StrategyKind
  | .copy _ => .copy
  | .lookup .. => .lookup
  | .functionOfField .. => .functionOfField
  | .functionOfInput _ => .functionOfInput
  | .nestedObject _ => .nestedObject
  | .nestedArray _ => .nestedArray

/-- The input field that is read, if a single one is. -/
def source? : Strategy → Option Binding
  | .copy source | .lookup source _ | .functionOfField source _ => some source
  | _ => none

/-- The transform that is called, if one is. -/
def transform? : Strategy → Option Transform
  | .lookup _ transform | .functionOfField _ transform | .functionOfInput transform =>
    some transform
  | _ => none

end Strategy

namespace Node

def target : Node → String
  | .mk target _ _ => target

def fragment : Node → Fragment
  | .mk _ fragment _ => fragment

def strategy : Node → Strategy
  | .mk _ _ strategy => strategy

def kind (node : Node) : StrategyKind := node.strategy.kind

end Node

namespace Level

def constants : Level → Fields
  | .mk constants _ => constants

def nodes : Level → List Node
  | .mk _ nodes => nodes

/-- The first node of a target on this level. -/
def node? (level : Level) (target : String) : Option Node :=
  level.nodes.find? fun node => node.target == target

end Level

mutual

/-- How many nodes a level has, those of nested levels included. -/
def Level.nodeCount : Level → Nat
  | .mk _ nodes => nodesCount nodes

def nodesCount : List Node → Nat
  | [] => 0
  | node :: rest => node.count + nodesCount rest

/-- A node and those below it. -/
def Node.count : Node → Nat
  | .mk _ _ strategy => 1 + strategy.count

/-- The nodes below a node of this strategy. -/
def Strategy.count : Strategy → Nat
  | .nestedObject level => level.nodeCount
  | .nestedArray levels => levelsCount levels
  | _ => 0

def levelsCount : List Level → Nat
  | [] => 0
  | level :: rest => level.nodeCount + levelsCount rest

end

end Reshape
