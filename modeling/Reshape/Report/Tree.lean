import Reshape.Plan
import Reshape.Report.Color

/-!
# The tree of a plan

What a plan does, without what it needs to do it: for each node its target, kind, source and
transform, and for each level below it the names of the constants and the nodes. The tree can be
written as a value or as lines for a reader, one for each node, with a header line before the levels
that need one.
-/
namespace Reshape.Report

inductive TreeNode where
  | mk (target : String) (kind : StrategyKind) (source transform : Option String)
    (constants : List (List String)) (levels : List (List TreeNode))

mutual

/-- The tree of a level. -/
def treeOfLevel : Level → List TreeNode
  | .mk _ nodes => treeOfNodes nodes

def treeOfNodes : List Node → List TreeNode
  | [] => []
  | node :: rest => treeOfNode node :: treeOfNodes rest

def treeOfNode : Node → TreeNode
  | .mk target _ strategy =>
    .mk target strategy.kind (strategy.source?.map (·.name)) (strategy.transform?.map (·.name))
      (constantNames strategy) (treeOfStrategy strategy)

/-- The trees of the levels below a node. -/
def treeOfStrategy : Strategy → List (List TreeNode)
  | .nestedObject level => [treeOfLevel level]
  | .nestedArray levels => treeOfLevels levels
  | _ => []

def treeOfLevels : List Level → List (List TreeNode)
  | [] => []
  | level :: rest => treeOfLevel level :: treeOfLevels rest

/-- The names of the constants of the levels below a node. -/
def constantNames : Strategy → List (List String)
  | .nestedObject level => [level.constants.keys]
  | .nestedArray levels => levels.map fun level => level.constants.keys
  | _ => []

end

/-- A part that is left out if it is empty. -/
def partUnlessEmpty (name : String) (items : List Value) : List (String × Value) :=
  if items.isEmpty then [] else [(name, .list items)]

mutual

/-- A tree as a value. -/
def treeValues : List TreeNode → List Value
  | [] => []
  | node :: rest => nodeValue node :: treeValues rest

/-- A node as a value; what is absent or empty is left out. -/
def nodeValue : TreeNode → Value
  | .mk target kind source transform constants levels =>
    .object ([("target", .text target), ("strategy", .text kind.word)] ++
      source.toList.map (fun name => ("source", .text name)) ++
      transform.toList.map (fun name => ("transform", .text name)) ++
      partUnlessEmpty "constants" (constants.map fun names => .list (names.map Value.text)) ++
      partUnlessEmpty "levels" (levelValues levels))

def levelValues : List (List TreeNode) → List Value
  | [] => []
  | level :: rest => .list (treeValues level) :: levelValues rest

end

/-- The indentation of a depth. -/
def indentation (depth : Nat) : String := String.ofList (List.replicate (2 * depth) ' ')

/-- The line of a node. -/
def nodeLine (color : Bool) (depth : Nat) : TreeNode → String
  | .mk target kind source transform _ _ =>
    let target := if color then Paint.bold.apply target else target
    let word := if color then Paint.cyan.apply kind.word else kind.word
    let source := (source.map fun name => s!" <- {name}").getD ""
    let transform := (transform.map fun name => s!" via {name}").getD ""
    indentation depth ++ target ++ " [" ++ word ++ "]" ++ source ++ transform

/-- The header of a level, below a node at a depth: a level of an array is numbered, and constants
are listed where there are any. A level without number and constants has no header. -/
def headerLine (depth : Nat) (number : Option Nat) (constants : List String) : List String :=
  let listing := if constants.isEmpty then [] else ["constants: " ++ ", ".intercalate constants]
  let parts := (number.map fun index => s!"[{index}]").toList ++ listing
  if parts.isEmpty then [] else [indentation (depth + 1) ++ " ".intercalate parts]

mutual

/-- The lines of a tree at a depth. -/
def treeLines (color : Bool) (depth : Nat) : List TreeNode → List String
  | [] => []
  | node :: rest => nodeLines color depth node ++ treeLines color depth rest

/-- The line of a node and those of the levels below it. -/
def nodeLines (color : Bool) (depth : Nat) : TreeNode → List String
  | .mk target kind source transform constants levels =>
    nodeLine color depth (.mk target kind source transform constants levels) ::
      levelLines color depth (kind == .nestedArray) 0 constants levels

/-- The lines of levels from an index on, below a node at a depth. -/
def levelLines (color : Bool) (depth : Nat) (many : Bool) (index : Nat)
    (constants : List (List String)) : List (List TreeNode) → List String
  | [] => []
  | level :: rest =>
    headerLine depth (if many then some index else none) (constants.head?.getD []) ++
      treeLines color (if many then depth + 2 else depth + 1) level ++
      levelLines color depth many (index + 1) constants.tail rest

end

/-- The lines of a whole tree. -/
def treeText (color : Bool) (tree : List TreeNode) : String :=
  "\n".intercalate (treeLines color 0 tree)

end Reshape.Report
