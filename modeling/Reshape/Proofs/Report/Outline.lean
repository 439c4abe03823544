import Mathlib.Data.List.Forall2
import Reshape.Proofs.Plan.Tree
import Reshape.Proofs.Report.Line
import Reshape.Report.Tree

/-!
# The outline of a plan

The tree of a plan has its nodes, in order, each with what its line tells and with the constants and
nodes of the levels below it. For a reader the tree becomes an outline: a line for each node, and a
header in front of each level of an array and of each level of an object that has constants. The
outline is made of the plan alone, so it says what the lines of the tree are without the tree.
-/
namespace Reshape

/-- All names that the tree of a plan shows for a node: its own, and those of the constants right
below it. -/
def Node.names (node : Node) : List String :=
  node.summary.names ++ node.strategy.levels.flatMap fun level => level.constants.keys

namespace Report

mutual

/-- The outline of a level at a depth. -/
def outline (depth : Nat) : Level → List Line
  | .mk _ nodes => outlineOfNodes depth nodes

def outlineOfNodes (depth : Nat) : List Node → List Line
  | [] => []
  | node :: rest => outlineOfNode depth node ++ outlineOfNodes depth rest

/-- The line of a node, and right behind it those of the levels below. -/
def outlineOfNode (depth : Nat) : Node → List Line
  | .mk target fragment strategy =>
    .node depth (Node.mk target fragment strategy).summary :: outlineBelow depth strategy

/-- The lines below a node of this strategy: the level of an object is one step deeper, with a header
if it has constants. -/
def outlineBelow (depth : Nat) : Strategy → List Line
  | .nestedObject level =>
    (if level.constants.isEmpty then []
      else [.header (depth + 1) none level.constants.keys]) ++ outline (depth + 1) level
  | .nestedArray levels => outlineOfLevels depth 0 levels
  | _ => []

/-- The levels of an array from an index on: each has a header with its number, and is two steps
deeper. -/
def outlineOfLevels (depth index : Nat) : List Level → List Line
  | [] => []
  | level :: rest =>
    .header (depth + 1) (some index) level.constants.keys ::
      (outline (depth + 2) level ++ outlineOfLevels depth (index + 1) rest)

end

section Lines

theorem intercalate_listed (names : List String) :
    " ".intercalate (listed names) = ", ".intercalate names := by
  induction names with
  | nil => rfl
  | cons name rest ih =>
    cases rest with
    | nil => rfl
    | cons next rest =>
      have hne : listed (next :: rest) ≠ [] := listed_ne_nil (List.cons_ne_nil _ _)
      rw [listed, String.intercalate_cons_of_ne_nil hne, ih, String.intercalate_cons_cons]
      simp [String.append_assoc]

theorem nodeLine_eq (depth : Nat) (summary : Summary) (constants : List (List String))
    (levels : List (List TreeNode)) :
    nodeLine false depth (.mk summary.target summary.kind summary.source summary.transform
      constants levels) = (Line.node depth summary).text := by
  obtain ⟨target, kind, source, transform⟩ := summary
  have hs (s : String) : toString s = s := rfl
  rw [← String.toList_inj]
  cases source <;> cases transform <;>
    simp [nodeLine, Line.text, Line.words, Line.depth, indentation, hs]

/-- A header is one line, or none if it would have neither number nor constants. -/
theorem headerLine_eq (depth : Nat) (number : Option Nat) (constants : List String) :
    headerLine depth number constants =
      if number.isNone && constants.isEmpty then []
      else [(Line.header (depth + 1) number constants).text] := by
  have hs (s : String) : toString s = s := rfl
  cases constants with
  | nil => cases number <;> simp [headerLine, Line.text, Line.words, Line.depth, indentation, hs]
  | cons name rest =>
    have hne : listed (name :: rest) ≠ [] := listed_ne_nil (List.cons_ne_nil _ _)
    have hlisted : " ".intercalate ("constants:" :: listed (name :: rest)) =
        "constants: " ++ ", ".intercalate (name :: rest) := by
      rw [String.intercalate_cons_of_ne_nil hne, intercalate_listed]
      rfl
    cases number with
    | none =>
      simp [headerLine, Line.text, Line.words, Line.depth, indentation, hlisted]
    | some index =>
      simp [headerLine, Line.text, Line.words, Line.depth, indentation, hlisted,
        String.intercalate_cons_of_ne_nil, hs]

mutual

/-- The lines of the tree of a level are its outline. -/
theorem treeLines_level (depth : Nat) : ∀ level : Level,
    treeLines false depth (treeOfLevel level) = (outline depth level).map Line.text
  | .mk _ nodes => treeLines_nodes depth nodes

theorem treeLines_nodes (depth : Nat) : ∀ nodes : List Node,
    treeLines false depth (treeOfNodes nodes) = (outlineOfNodes depth nodes).map Line.text
  | [] => rfl
  | node :: rest => by
    have hn := nodeLines_node depth node
    have hr := treeLines_nodes depth rest
    rw [treeOfNodes, treeLines, outlineOfNodes, List.map_append, hn, hr]

theorem nodeLines_node (depth : Nat) : ∀ node : Node,
    nodeLines false depth (treeOfNode node) = (outlineOfNode depth node).map Line.text
  | .mk target fragment strategy => by
    have hb := levelLines_strategy depth strategy
    rw [treeOfNode, nodeLines, outlineOfNode, List.map_cons, ← hb]
    exact congrArg (· :: _) (nodeLine_eq depth (Node.mk target fragment strategy).summary _ _)

theorem levelLines_strategy (depth : Nat) : ∀ strategy : Strategy,
    levelLines false depth (strategy.kind == .nestedArray) 0 (constantNames strategy)
      (treeOfStrategy strategy) = (outlineBelow depth strategy).map Line.text
  | .copy _ => rfl
  | .lookup _ _ => rfl
  | .functionOfField _ _ => rfl
  | .functionOfInput _ => rfl
  | .nestedObject level => by
    have hl := treeLines_level (depth + 1) level
    have he : level.constants.keys.isEmpty = level.constants.isEmpty := List.isEmpty_map
    show headerLine depth none level.constants.keys ++
      treeLines false (depth + 1) (treeOfLevel level) ++ [] = _
    rw [headerLine_eq, hl, List.append_nil, he, outlineBelow, List.map_append]
    cases level.constants.isEmpty <;> rfl
  | .nestedArray levels => levelLines_levels depth 0 levels

theorem levelLines_levels (depth index : Nat) : ∀ levels : List Level,
    levelLines false depth true index (levels.map fun level => level.constants.keys)
      (treeOfLevels levels) = (outlineOfLevels depth index levels).map Line.text
  | [] => rfl
  | level :: rest => by
    have hl := treeLines_level (depth + 2) level
    have hr := levelLines_levels depth (index + 1) rest
    show headerLine depth (some index) level.constants.keys ++
      treeLines false (depth + 2) (treeOfLevel level) ++
      levelLines false depth true (index + 1) (rest.map fun level => level.constants.keys)
        (treeOfLevels rest) = _
    rw [headerLine_eq, hl, hr, outlineOfLevels, List.map_cons, List.map_append]
    rfl

end

/-- The text of the tree is that of its outline. -/
theorem treeText_eq (plan : Level) : treeText false (treeOfLevel plan) =
    "\n".intercalate ((outline 0 plan).map Line.text) := by
  rw [treeText, treeLines_level]

end Lines

section Nodes

mutual

/-- All nodes of a tree, each before those below it. -/
def preorderOfTrees : List TreeNode → List TreeNode
  | [] => []
  | tree :: rest => preorderOfTree tree ++ preorderOfTrees rest

def preorderOfTree : TreeNode → List TreeNode
  | .mk target kind source transform constants levels =>
    .mk target kind source transform constants levels :: preorderOfTreeLevels levels

def preorderOfTreeLevels : List (List TreeNode) → List TreeNode
  | [] => []
  | level :: rest => preorderOfTrees level ++ preorderOfTreeLevels rest

end

mutual

/-- The nodes of a tree are those of the plan. -/
theorem preorder_treeOfLevel : ∀ level : Level,
    preorderOfTrees (treeOfLevel level) = level.preorder.map treeOfNode
  | .mk _ nodes => preorder_treeOfNodes nodes

theorem preorder_treeOfNodes : ∀ nodes : List Node,
    preorderOfTrees (treeOfNodes nodes) = (preorderOfNodes nodes).map treeOfNode
  | [] => rfl
  | node :: rest => by
    have hn := preorder_treeOfNode node
    have hr := preorder_treeOfNodes rest
    rw [treeOfNodes, preorderOfTrees, preorderOfNodes, List.map_append, hn, hr]

theorem preorder_treeOfNode : ∀ node : Node,
    preorderOfTree (treeOfNode node) = node.preorder.map treeOfNode
  | .mk target fragment strategy => by
    have hs := preorder_treeOfStrategy strategy
    rw [Node.preorder, List.map_cons, ← hs]
    rfl

theorem preorder_treeOfStrategy : ∀ strategy : Strategy,
    preorderOfTreeLevels (treeOfStrategy strategy) = strategy.preorder.map treeOfNode
  | .copy _ => rfl
  | .lookup _ _ => rfl
  | .functionOfField _ _ => rfl
  | .functionOfInput _ => rfl
  | .nestedObject level => by
    have hl := preorder_treeOfLevel level
    rw [treeOfStrategy, preorderOfTreeLevels, preorderOfTreeLevels, Strategy.preorder, hl,
      List.append_nil]
  | .nestedArray levels => preorder_treeOfLevels levels

theorem preorder_treeOfLevels : ∀ levels : List Level,
    preorderOfTreeLevels (treeOfLevels levels) = (preorderOfLevels levels).map treeOfNode
  | [] => rfl
  | level :: rest => by
    have hl := preorder_treeOfLevel level
    have hr := preorder_treeOfLevels rest
    rw [treeOfLevels, preorderOfTreeLevels, preorderOfLevels, List.map_append, hl, hr]

end

theorem treeOfLevels_eq_map (levels : List Level) :
    treeOfLevels levels = levels.map treeOfLevel := by
  induction levels with
  | nil => rfl
  | cons level rest ih => rw [treeOfLevels, ih, List.map_cons]

/-- A node of a tree shows a node of a plan: what its summary tells and, level by level, the names of
the constants and the tree. There are no levels below a value, one below an object, and one for each
definition of an array. -/
inductive Shows : Node → TreeNode → Prop where
  | value {node : Node} (object : node.kind ≠ .nestedObject) (array : node.kind ≠ .nestedArray) :
      Shows node (.mk node.target node.kind node.summary.source node.summary.transform [] [])
  | object {target : String} {fragment : Fragment} {level : Level} :
      Shows (.mk target fragment (.nestedObject level))
        (.mk target .nestedObject none none [level.constants.keys] [treeOfLevel level])
  | array {target : String} {fragment : Fragment} {levels : List Level} :
      Shows (.mk target fragment (.nestedArray levels))
        (.mk target .nestedArray none none (levels.map fun level => level.constants.keys)
          (levels.map treeOfLevel))

theorem shows_treeOfNode (node : Node) : Shows node (treeOfNode node) := by
  obtain ⟨target, fragment, strategy⟩ := node
  cases strategy with
  | nestedObject level => exact .object
  | nestedArray levels =>
    have h : Shows (.mk target fragment (.nestedArray levels)) _ := .array
    rwa [← treeOfLevels_eq_map] at h
  | _ => exact .value nofun nofun

end Nodes

section Listing

/-- The headers of the levels of an array from an index on. -/
def headersFrom (index : Nat) : List Level → List Line
  | [] => []
  | level :: rest => .header 0 (some index) level.constants.keys :: headersFrom (index + 1) rest

/-- The headers that belong to a node of this strategy. -/
def headersOf : Strategy → List Line
  | .nestedObject level =>
    if level.constants.isEmpty then [] else [.header 0 none level.constants.keys]
  | .nestedArray levels => headersFrom 0 levels
  | _ => []

/-- The lines that belong to a node, wherever they stand and whatever their depth. -/
def linesOfNode (node : Node) : List Line := .node 0 node.summary :: headersOf node.strategy

mutual

/-- The nodes that have their lines in the outline, in order, are all nodes of the plan. -/
theorem summaries_outline (depth : Nat) : ∀ level : Level,
    (outline depth level).filterMap Line.summary? = level.preorder.map Node.summary
  | .mk _ nodes => summaries_outlineOfNodes depth nodes

theorem summaries_outlineOfNodes (depth : Nat) : ∀ nodes : List Node,
    (outlineOfNodes depth nodes).filterMap Line.summary? =
      (preorderOfNodes nodes).map Node.summary
  | [] => rfl
  | node :: rest => by
    have hn := summaries_outlineOfNode depth node
    have hr := summaries_outlineOfNodes depth rest
    rw [outlineOfNodes, preorderOfNodes, List.filterMap_append, List.map_append, hn, hr]

theorem summaries_outlineOfNode (depth : Nat) : ∀ node : Node,
    (outlineOfNode depth node).filterMap Line.summary? = node.preorder.map Node.summary
  | .mk target fragment strategy => by
    have hb := summaries_outlineBelow depth strategy
    rw [outlineOfNode, Node.preorder, List.map_cons, ← hb]
    rfl

theorem summaries_outlineBelow (depth : Nat) : ∀ strategy : Strategy,
    (outlineBelow depth strategy).filterMap Line.summary? = strategy.preorder.map Node.summary
  | .copy _ => rfl
  | .lookup _ _ => rfl
  | .functionOfField _ _ => rfl
  | .functionOfInput _ => rfl
  | .nestedObject level => by
    have hl := summaries_outline (depth + 1) level
    rw [outlineBelow, Strategy.preorder, List.filterMap_append, hl]
    cases level.constants.isEmpty <;> rfl
  | .nestedArray levels => summaries_outlineOfLevels depth 0 levels

theorem summaries_outlineOfLevels (depth index : Nat) : ∀ levels : List Level,
    (outlineOfLevels depth index levels).filterMap Line.summary? =
      (preorderOfLevels levels).map Node.summary
  | [] => rfl
  | level :: rest => by
    have hl := summaries_outline (depth + 2) level
    have hr := summaries_outlineOfLevels depth (index + 1) rest
    rw [outlineOfLevels, preorderOfLevels, List.map_append, ← hl, ← hr, ← List.filterMap_append]
    rfl

end

mutual

/-- Every line of the outline belongs to one node of the plan, and all lines of each are there. -/
theorem outline_perm (depth : Nat) : ∀ level : Level,
    ((outline depth level).map Line.bare).Perm (level.preorder.flatMap linesOfNode)
  | .mk _ nodes => outlineOfNodes_perm depth nodes

theorem outlineOfNodes_perm (depth : Nat) : ∀ nodes : List Node,
    ((outlineOfNodes depth nodes).map Line.bare).Perm
      ((preorderOfNodes nodes).flatMap linesOfNode)
  | [] => .nil
  | node :: rest => by
    have hn := outlineOfNode_perm depth node
    have hr := outlineOfNodes_perm depth rest
    rw [outlineOfNodes, preorderOfNodes, List.map_append, List.flatMap_append]
    exact hn.append hr

theorem outlineOfNode_perm (depth : Nat) : ∀ node : Node,
    ((outlineOfNode depth node).map Line.bare).Perm (node.preorder.flatMap linesOfNode)
  | .mk target fragment strategy => by
    have hb := outlineBelow_perm depth strategy
    rw [outlineOfNode, Node.preorder, List.map_cons, List.flatMap_cons]
    exact hb.cons _

theorem outlineBelow_perm (depth : Nat) : ∀ strategy : Strategy,
    ((outlineBelow depth strategy).map Line.bare).Perm
      (headersOf strategy ++ strategy.preorder.flatMap linesOfNode)
  | .copy _ => .nil
  | .lookup _ _ => .nil
  | .functionOfField _ _ => .nil
  | .functionOfInput _ => .nil
  | .nestedObject level => by
    have hl := outline_perm (depth + 1) level
    rw [outlineBelow, headersOf, Strategy.preorder, List.map_append]
    cases level.constants.isEmpty
    · exact hl.cons _
    · exact hl
  | .nestedArray levels => outlineOfLevels_perm depth 0 levels

theorem outlineOfLevels_perm (depth index : Nat) : ∀ levels : List Level,
    ((outlineOfLevels depth index levels).map Line.bare).Perm
      (headersFrom index levels ++ (preorderOfLevels levels).flatMap linesOfNode)
  | [] => .nil
  | level :: rest => by
    have hl := outline_perm (depth + 2) level
    have hr := outlineOfLevels_perm depth (index + 1) rest
    rw [outlineOfLevels, headersFrom, preorderOfLevels, List.map_cons, List.map_append,
      List.flatMap_append, List.cons_append]
    exact ((hl.append hr).trans (List.perm_append_comm_assoc _ _ _)).cons _

end

theorem eq_of_mem_headersFrom {levels : List Level} {index : Nat} {line : Line}
    (h : line ∈ headersFrom index levels) :
    ∃ level ∈ levels, ∃ number, line = .header 0 (some number) level.constants.keys := by
  induction levels generalizing index with
  | nil => cases h
  | cons level rest ih =>
    rcases List.mem_cons.mp h with rfl | hr
    · exact ⟨level, List.mem_cons_self, index, rfl⟩
    · obtain ⟨other, ho, number, he⟩ := ih hr
      exact ⟨other, List.mem_cons_of_mem _ ho, number, he⟩

/-- A header is that of a level below the node, and has a number or constants to tell of. -/
theorem eq_of_mem_headersOf {strategy : Strategy} {line : Line} (h : line ∈ headersOf strategy) :
    ∃ level ∈ strategy.levels, ∃ number, line = .header 0 number level.constants.keys ∧
      (number = none → level.constants.isEmpty = false) := by
  cases strategy with
  | nestedObject level =>
    rw [headersOf] at h
    split at h
    · cases h
    · next hc =>
      exact ⟨level, List.mem_singleton_self _, none, List.mem_singleton.mp h,
        fun _ => Bool.eq_false_iff.mpr hc⟩
  | nestedArray levels =>
    obtain ⟨level, hl, number, he⟩ := eq_of_mem_headersFrom h
    exact ⟨level, hl, some number, he, nofun⟩
  | _ => cases h

theorem names_linesOfNode {node : Node} {line : Line} (h : line ∈ linesOfNode node) :
    ∀ name ∈ line.names, name ∈ node.names := by
  intro name hn
  rw [Node.names, List.mem_append]
  rcases List.mem_cons.mp h with rfl | hh
  · exact .inl hn
  · obtain ⟨level, hl, number, rfl, -⟩ := eq_of_mem_headersOf hh
    exact .inr (List.mem_flatMap.mpr ⟨level, hl, hn⟩)

theorem exists_node_of_mem_outline {depth : Nat} {plan : Level} {line : Line}
    (hl : line ∈ outline depth plan) : ∃ node ∈ plan.preorder, line.bare ∈ linesOfNode node :=
  List.mem_flatMap.mp ((outline_perm depth plan).mem_iff.mp (List.mem_map_of_mem hl))

/-- A name in the outline is one that the tree shows for some node. -/
theorem exists_node_of_name {depth : Nat} {plan : Level} {line : Line}
    (hl : line ∈ outline depth plan) {name : String} (hn : name ∈ line.names) :
    ∃ node ∈ plan.preorder, name ∈ node.names := by
  obtain ⟨node, hnode, hb⟩ := exists_node_of_mem_outline hl
  exact ⟨node, hnode, names_linesOfNode hb name (by rwa [Line.names_bare])⟩

end Listing

/-- The tree of a plan has as many nodes as the plan, in the same order, each showing its own. Its
text for a reader is the outline of the plan: the lines of the nodes in their order, each node's
headers among them and nothing else. The text breaks into these lines wherever no name breaks. -/
theorem tree_agrees_with_plan (plan : Level) :
    (preorderOfTrees (treeOfLevel plan)).length = plan.nodeCount ∧
    List.Forall₂ Shows plan.preorder (preorderOfTrees (treeOfLevel plan)) ∧
    treeText false (treeOfLevel plan) = "\n".intercalate ((outline 0 plan).map Line.text) ∧
    (outline 0 plan).filterMap Line.summary? = plan.preorder.map Node.summary ∧
    ((outline 0 plan).map Line.bare).Perm (plan.preorder.flatMap linesOfNode) ∧
    (plan.nodes ≠ [] → (∀ node ∈ plan.preorder, ∀ name ∈ node.names, '\n' ∉ name.toList) →
      linesOf (treeText false (treeOfLevel plan)) = (outline 0 plan).map Line.text) := by
  have htext := treeText_eq plan
  have hnodes := preorder_treeOfLevel plan
  refine ⟨?_, ?_, htext, summaries_outline 0 plan, outline_perm 0 plan, fun hne hnames => ?_⟩
  · rw [hnodes, List.length_map, Level.nodeCount_eq_length]
  · rw [hnodes, List.forall₂_map_right_iff, List.forall₂_same]
    exact fun node _ => shows_treeOfNode node
  · rw [htext]
    refine linesOf_intercalate ?_ fun line hl name hn => ?_
    · obtain ⟨constants, nodes⟩ := plan
      obtain ⟨node, rest, rfl⟩ := List.exists_cons_of_ne_nil hne
      obtain ⟨target, fragment, strategy⟩ := node
      exact List.cons_ne_nil _ _
    · obtain ⟨node, hnode, hmem⟩ := exists_node_of_name hl hn
      exact hnames node hnode name hmem

def harbour : Level := .mk [("port", "Kiel")]
  [.mk "berths" .empty (.nestedArray
      [.mk [("kind", "dry"), ("free", .bool true)] [.mk "id" .empty (.copy ⟨"number", .empty⟩)],
        .mk [] []]),
    .mk "owner" .empty (.nestedObject (.mk []
      [.mk "ships" .empty (.nestedArray []),
        .mk "crew" .empty (.nestedObject (.mk [("flag", "DE")] []))]))]

/-- An array without definitions, empty levels, and objects with and without constants. -/
theorem tree_agrees_with_plan_harbour :
    (preorderOfTrees (treeOfLevel harbour)).length = 5 ∧
    linesOf (treeText false (treeOfLevel harbour)) =
      ["berths [nestedArray]", "  [0] constants: kind, free", "    id [copy] <- number", "  [1]",
        "owner [nestedObject]", "  ships [nestedArray]", "  crew [nestedObject]",
        "    constants: flag"] := by
  obtain ⟨count, -, -, -, -, lines⟩ := tree_agrees_with_plan harbour
  refine ⟨count, (lines (List.cons_ne_nil _ _) (by decide)).trans ?_⟩
  decide

end Report
end Reshape
