import Reshape.Plan

/-!
# Plans as trees

The levels right below a node, the listings of all nodes of a plan, each before or each after those
below it, and induction over the levels of a plan. The listings are what "every node, at any depth"
means. They carry no statement about what the nodes make of an input.
-/
namespace Reshape

/-- What tells nodes of a listing apart: the target, and the kind of strategy. -/
def Node.caption (node : Node) : String × StrategyKind := (node.target, node.kind)

theorem map_fst_caption (nodes : List Node) :
    (nodes.map Node.caption).map Prod.fst = nodes.map Node.target := by
  rw [List.map_map]
  rfl

/-- The levels right below a node of this strategy. -/
def Strategy.levels : Strategy → List Level
  | .nestedObject level => [level]
  | .nestedArray levels => levels
  | _ => []

mutual

/-- All nodes of a level and of the levels below it, each before those below it. -/
def Level.preorder : Level → List Node
  | .mk _ nodes => preorderOfNodes nodes

def preorderOfNodes : List Node → List Node
  | [] => []
  | node :: rest => node.preorder ++ preorderOfNodes rest

/-- A node and those below it. -/
def Node.preorder : Node → List Node
  | .mk target fragment strategy => .mk target fragment strategy :: strategy.preorder

/-- The nodes below a node of this strategy. -/
def Strategy.preorder : Strategy → List Node
  | .nestedObject level => level.preorder
  | .nestedArray levels => preorderOfLevels levels
  | _ => []

def preorderOfLevels : List Level → List Node
  | [] => []
  | level :: rest => level.preorder ++ preorderOfLevels rest

end

theorem preorderOfNodes_eq (nodes : List Node) :
    preorderOfNodes nodes = nodes.flatMap Node.preorder := by
  induction nodes with
  | nil => rfl
  | cons node rest ih => rw [preorderOfNodes, ih, List.flatMap_cons]

theorem preorderOfLevels_eq (levels : List Level) :
    preorderOfLevels levels = levels.flatMap Level.preorder := by
  induction levels with
  | nil => rfl
  | cons level rest ih => rw [preorderOfLevels, ih, List.flatMap_cons]

theorem Level.preorder_eq (level : Level) :
    level.preorder = level.nodes.flatMap Node.preorder := by
  obtain ⟨constants, nodes⟩ := level
  rw [Level.preorder, preorderOfNodes_eq, Level.nodes]

theorem Strategy.preorder_eq (strategy : Strategy) :
    strategy.preorder = strategy.levels.flatMap Level.preorder := by
  cases strategy with
  | nestedObject level =>
    rw [Strategy.preorder, Strategy.levels, List.flatMap_singleton]
  | nestedArray levels => rw [Strategy.preorder, Strategy.levels, preorderOfLevels_eq]
  | _ => rfl

/-- A node comes right before all nodes of its levels, one level after the other. -/
theorem Node.preorder_eq (node : Node) :
    node.preorder = node :: node.strategy.levels.flatMap Level.preorder := by
  obtain ⟨target, fragment, strategy⟩ := node
  rw [Node.preorder, Strategy.preorder_eq, Node.strategy]

/-- What holds of a level whenever it holds of all levels right below its nodes holds of every
level. -/
theorem Level.induction {motive : Level → Prop}
    (mk : ∀ constants nodes,
      (∀ node ∈ nodes, ∀ level ∈ node.strategy.levels, motive level) →
        motive (.mk constants nodes))
    (level : Level) : motive level := by
  -- A strategy and a list of nodes satisfy the motive when all levels right below them do.
  refine @Level.rec motive (fun node => ∀ level ∈ node.strategy.levels, motive level)
    (fun strategy => ∀ level ∈ strategy.levels, motive level)
    (fun nodes => ∀ node ∈ nodes, ∀ level ∈ node.strategy.levels, motive level)
    (fun levels => ∀ level ∈ levels, motive level)
    mk (fun _ _ _ below => below) ?_ ?_ ?_ ?_ ?_ (fun _ below => below) ?_ ?_ ?_ ?_ level
  · intro _ _ h; cases h
  · intro _ _ _ h; cases h
  · intro _ _ _ h; cases h
  · intro _ _ h; cases h
  · intro _ below _ h
    rw [List.mem_singleton.mp h]
    exact below
  · intro _ h; cases h
  · intro _ _ head tail
    exact List.forall_mem_cons.mpr ⟨head, tail⟩
  · intro _ h; cases h
  · intro _ _ head tail
    exact List.forall_mem_cons.mpr ⟨head, tail⟩

/-- What holds of all nodes of a level, at any depth, holds of its own nodes and of all nodes of
the levels right below these. -/
theorem Level.forall_mem_preorder {P : Node → Prop} {constants : Fields} {nodes : List Node} :
    (∀ node ∈ (Level.mk constants nodes).preorder, P node) ↔
      ∀ node ∈ nodes, P node ∧
        ∀ level ∈ node.strategy.levels, ∀ below ∈ level.preorder, P below := by
  rw [Level.preorder_eq, Level.nodes, List.forall_mem_flatMap]
  apply forall₂_congr
  intro node _
  rw [Node.preorder_eq, List.forall_mem_cons, List.forall_mem_flatMap]

/-- A level and all levels below it. -/
def Level.all (level : Level) : List Level :=
  level :: level.preorder.flatMap fun node => node.strategy.levels

theorem Level.forall_mem_all {P : Level → Prop} {constants : Fields} {nodes : List Node} :
    (∀ level ∈ (Level.mk constants nodes).all, P level) ↔ P (.mk constants nodes) ∧
      ∀ node ∈ nodes, ∀ level ∈ node.strategy.levels, ∀ below ∈ level.all, P below := by
  have hp := @Level.forall_mem_preorder (fun node => ∀ level ∈ node.strategy.levels, P level)
    constants nodes
  rw [Level.all, List.forall_mem_cons, List.forall_mem_flatMap, hp]
  simp only [Level.all, List.forall_mem_cons, List.forall_mem_flatMap]
  apply and_congr_right
  intro _
  constructor
  · intro h node hn level hl
    exact ⟨(h node hn).1 level hl, (h node hn).2 level hl⟩
  · intro h node hn
    exact ⟨fun level hl => (h node hn level hl).1, fun level hl => (h node hn level hl).2⟩

/-- The nodes of a level are among those of every plan that it belongs to. -/
theorem Level.preorder_subset_of_mem_all (plan : Level) :
    ∀ level ∈ plan.all, level.preorder ⊆ plan.preorder := by
  induction plan using Level.induction with
  | mk constants nodes ih =>
    rw [Level.forall_mem_all]
    refine ⟨List.Subset.refl _, fun node hn inner hi level hl below hb => ?_⟩
    have hin : below ∈ inner.preorder := ih node hn inner hi level hl hb
    rw [Level.preorder_eq, Level.nodes, List.mem_flatMap]
    refine ⟨node, hn, ?_⟩
    rw [Node.preorder_eq]
    exact List.mem_cons_of_mem _ (List.mem_flatMap.mpr ⟨inner, hi, hin⟩)

mutual

/-- The count of a plan's nodes is the length of their listing. -/
theorem Level.nodeCount_eq_length : ∀ level : Level, level.nodeCount = level.preorder.length
  | .mk _ nodes => nodesCount_eq_length nodes

theorem nodesCount_eq_length : ∀ nodes : List Node,
    nodesCount nodes = (preorderOfNodes nodes).length
  | [] => rfl
  | node :: rest => by
    have hn := Node.count_eq_length node
    have hr := nodesCount_eq_length rest
    rw [nodesCount, preorderOfNodes, List.length_append, hn, hr]

theorem Node.count_eq_length : ∀ node : Node, node.count = node.preorder.length
  | .mk _ _ strategy => by
    have hs := Strategy.count_eq_length strategy
    rw [Node.count, Node.preorder, List.length_cons, hs, Nat.add_comm]

theorem Strategy.count_eq_length : ∀ strategy : Strategy,
    strategy.count = strategy.preorder.length
  | .copy _ => rfl
  | .lookup _ _ => rfl
  | .functionOfField _ _ => rfl
  | .functionOfInput _ => rfl
  | .nestedObject level => Level.nodeCount_eq_length level
  | .nestedArray levels => levelsCount_eq_length levels

theorem levelsCount_eq_length : ∀ levels : List Level,
    levelsCount levels = (preorderOfLevels levels).length
  | [] => rfl
  | level :: rest => by
    have hl := Level.nodeCount_eq_length level
    have hr := levelsCount_eq_length rest
    rw [levelsCount, preorderOfLevels, List.length_append, hl, hr]

end

mutual

/-- All nodes of a level and of the levels below it, each after those below it. -/
def Level.postorder : Level → List Node
  | .mk _ nodes => postorderOfNodes nodes

def postorderOfNodes : List Node → List Node
  | [] => []
  | node :: rest => node.postorder ++ postorderOfNodes rest

/-- The nodes below a node, and it behind them. -/
def Node.postorder : Node → List Node
  | .mk target fragment strategy => strategy.postorder ++ [.mk target fragment strategy]

/-- The nodes below a node of this strategy. -/
def Strategy.postorder : Strategy → List Node
  | .nestedObject level => level.postorder
  | .nestedArray levels => postorderOfLevels levels
  | _ => []

def postorderOfLevels : List Level → List Node
  | [] => []
  | level :: rest => level.postorder ++ postorderOfLevels rest

end

mutual

/-- Both listings have the same nodes, each as often. -/
theorem Level.postorder_perm : ∀ level : Level, level.postorder.Perm level.preorder
  | .mk _ nodes => postorderOfNodes_perm nodes

theorem postorderOfNodes_perm : ∀ nodes : List Node,
    (postorderOfNodes nodes).Perm (preorderOfNodes nodes)
  | [] => .nil
  | node :: rest => by
    have hn := Node.postorder_perm node
    have hr := postorderOfNodes_perm rest
    rw [postorderOfNodes, preorderOfNodes]
    exact hn.append hr

theorem Node.postorder_perm : ∀ node : Node, node.postorder.Perm node.preorder
  | .mk target fragment strategy => by
    have hs := Strategy.postorder_perm strategy
    rw [Node.postorder, Node.preorder]
    exact (List.perm_append_singleton _ _).trans (hs.cons _)

theorem Strategy.postorder_perm : ∀ strategy : Strategy,
    strategy.postorder.Perm strategy.preorder
  | .copy _ => .nil
  | .lookup _ _ => .nil
  | .functionOfField _ _ => .nil
  | .functionOfInput _ => .nil
  | .nestedObject level => Level.postorder_perm level
  | .nestedArray levels => postorderOfLevels_perm levels

theorem postorderOfLevels_perm : ∀ levels : List Level,
    (postorderOfLevels levels).Perm (preorderOfLevels levels)
  | [] => .nil
  | level :: rest => by
    have hl := Level.postorder_perm level
    have hr := postorderOfLevels_perm rest
    rw [postorderOfLevels, preorderOfLevels]
    exact hl.append hr

end

theorem Level.length_postorder (level : Level) : level.postorder.length = level.nodeCount := by
  rw [level.nodeCount_eq_length, level.postorder_perm.length_eq]

end Reshape
