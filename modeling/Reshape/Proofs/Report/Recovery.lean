import Reshape.Proofs.Report.Outline

/-!
# Trees that read alike

The outline of a plan gives its tree back: how deep a line is says which level it belongs to, though
the levels of objects and of arrays are not equally deep and only some have a header. With names that
can be told from what is around them, the text gives the outline back, so two plans with the same text
have the same tree. Plans that differ in what a tree does not show may have the same text.
-/
namespace Reshape.Report

/-- What may follow a level at this depth: nothing, or a line that is less deep. -/
def Shallower (depth : Nat) (rest : List Line) : Prop := ∀ line ∈ rest.head?, line.depth < depth

section Heads

variable {depth : Nat} {rest rest' : List Line}

theorem Shallower.not_cons {line : Line} (h : Shallower depth (line :: rest)) :
    line.depth < depth := h line rfl

/-- What follows a node: the next nodes of its level, or what follows the level. -/
theorem Shallower.after_node (h : Shallower depth rest) (nodes : List Node) :
    Shallower (depth + 1) (outlineOfNodes depth nodes ++ rest) := by
  rcases nodes with _ | ⟨⟨target, fragment, strategy⟩, more⟩
  · exact fun line hl => Nat.lt_trans (h line hl) (Nat.lt_succ_self depth)
  · rintro line ⟨⟩
    exact Nat.lt_succ_self depth

/-- What follows a level of an array: the next levels, or what follows the array. -/
theorem Shallower.after_level (h : Shallower (depth + 1) rest) (index : Nat)
    (levels : List Level) :
    Shallower (depth + 2) (outlineOfLevels depth index levels ++ rest) := by
  rcases levels with _ | ⟨level, more⟩
  · exact fun line hl => Nat.lt_trans (h line hl) (Nat.lt_succ_self (depth + 1))
  · rintro line ⟨⟩
    exact Nat.lt_succ_self (depth + 1)

/-- A level at a depth does not begin with a header there. -/
theorem outline_ne_header (h : Shallower depth rest) {level : Level} {number : Option Nat}
    {constants : List String} :
    outline depth level ++ rest ≠ .header depth number constants :: rest' := by
  obtain ⟨fields, _ | ⟨⟨target, fragment, strategy⟩, more⟩⟩ := level
  · rintro rfl
    exact Nat.lt_irrefl depth h.not_cons
  · rintro ⟨⟩

/-- A level of an object says itself whether it has a header in front. -/
theorem headers_inj (h : Shallower (depth + 1) rest) (h' : Shallower (depth + 1) rest')
    {level level' : Level}
    (he : (if level.constants.isEmpty then []
        else [.header (depth + 1) none level.constants.keys]) ++
          (outline (depth + 1) level ++ rest) =
      (if level'.constants.isEmpty then []
        else [.header (depth + 1) none level'.constants.keys]) ++
          (outline (depth + 1) level' ++ rest')) :
    level.constants.keys = level'.constants.keys ∧
      outline (depth + 1) level ++ rest = outline (depth + 1) level' ++ rest' := by
  split at he <;> split at he
  · next hc hc' =>
    rw [List.isEmpty_iff.mp hc, List.isEmpty_iff.mp hc']
    exact ⟨rfl, he⟩
  · exact absurd he (outline_ne_header h)
  · exact absurd he.symm (outline_ne_header h')
  · obtain ⟨hheader, hbelow⟩ := List.cons.inj he
    exact ⟨(Line.header.inj hheader).2.2, hbelow⟩

end Heads

mutual

/-- The outline of a level, with less deep lines behind it, gives back the tree and where it ends. -/
theorem outline_injective (depth : Nat) : ∀ (level level' : Level) {rest rest' : List Line},
    Shallower depth rest → Shallower depth rest' →
    outline depth level ++ rest = outline depth level' ++ rest' →
    treeOfLevel level = treeOfLevel level' ∧ rest = rest'
  | .mk _ nodes, .mk _ nodes', _, _, hr, hr', h => outlineOfNodes_injective depth nodes nodes' hr hr' h
  termination_by structural level => level

theorem outlineOfNodes_injective (depth : Nat) : ∀ (nodes nodes' : List Node)
    {rest rest' : List Line}, Shallower depth rest → Shallower depth rest' →
    outlineOfNodes depth nodes ++ rest = outlineOfNodes depth nodes' ++ rest' →
    treeOfNodes nodes = treeOfNodes nodes' ∧ rest = rest'
  | [], [], _, _, _, _, h => ⟨rfl, h⟩
  | [], .mk _ _ _ :: _, _, _, hr, _, h => by
    rw [outlineOfNodes, List.nil_append] at h
    rw [h] at hr
    exact absurd hr.not_cons (Nat.lt_irrefl depth)
  | .mk _ _ _ :: _, [], _, _, _, hr', h => by
    rw [outlineOfNodes, List.nil_append] at h
    rw [← h] at hr'
    exact absurd hr'.not_cons (Nat.lt_irrefl depth)
  | node :: more, node' :: more', rest, rest', hr, hr', h => by
    rw [outlineOfNodes, outlineOfNodes, List.append_assoc, List.append_assoc] at h
    obtain ⟨hn, hm⟩ := outlineOfNode_injective depth node node' (hr.after_node more)
      (hr'.after_node more') h
    obtain ⟨ht, he⟩ := outlineOfNodes_injective depth more more' hr hr' hm
    exact ⟨by rw [treeOfNodes, treeOfNodes, hn, ht], he⟩
  termination_by structural nodes => nodes

theorem outlineOfNode_injective (depth : Nat) : ∀ (node node' : Node) {rest rest' : List Line},
    Shallower (depth + 1) rest → Shallower (depth + 1) rest' →
    outlineOfNode depth node ++ rest = outlineOfNode depth node' ++ rest' →
    treeOfNode node = treeOfNode node' ∧ rest = rest'
  | .mk target fragment strategy, .mk target' fragment' strategy', rest, rest', hr, hr', h => by
    obtain ⟨hline, hbelow⟩ := List.cons.inj h
    obtain ⟨htarget, hkind, hsource, htransform⟩ := Summary.mk.inj (Line.node.inj hline).2
    obtain ⟨hc, ht, he⟩ := outlineBelow_injective depth strategy strategy' hkind hr hr' hbelow
    have hkinds : strategy.kind = strategy'.kind := hkind
    have hsources : strategy.source?.map (·.name) = strategy'.source?.map (·.name) := hsource
    have htransforms : strategy.transform?.map (·.name) = strategy'.transform?.map (·.name) :=
      htransform
    refine ⟨?_, he⟩
    rw [treeOfNode, treeOfNode, hkinds, hsources, htransforms, hc, ht]
    exact congrArg (TreeNode.mk · _ _ _ _ _) htarget
  termination_by structural node => node

theorem outlineBelow_injective (depth : Nat) : ∀ (strategy strategy' : Strategy)
    {rest rest' : List Line}, strategy.kind = strategy'.kind →
    Shallower (depth + 1) rest → Shallower (depth + 1) rest' →
    outlineBelow depth strategy ++ rest = outlineBelow depth strategy' ++ rest' →
    constantNames strategy = constantNames strategy' ∧
      treeOfStrategy strategy = treeOfStrategy strategy' ∧ rest = rest'
  | .copy _, .copy _, _, _, _, _, _, h => ⟨rfl, rfl, h⟩
  | .lookup _ _, .lookup _ _, _, _, _, _, _, h => ⟨rfl, rfl, h⟩
  | .functionOfField _ _, .functionOfField _ _, _, _, _, _, _, h => ⟨rfl, rfl, h⟩
  | .functionOfInput _, .functionOfInput _, _, _, _, _, _, h => ⟨rfl, rfl, h⟩
  | .nestedObject level, .nestedObject level', rest, rest', _, hr, hr', h => by
    rw [outlineBelow, outlineBelow, List.append_assoc, List.append_assoc] at h
    obtain ⟨hk, hb⟩ := headers_inj hr hr' h
    obtain ⟨ht, he⟩ := outline_injective (depth + 1) level level' hr hr' hb
    exact ⟨congrArg ([·]) hk, congrArg ([·]) ht, he⟩
  | .nestedArray levels, .nestedArray levels', _, _, _, hr, hr', h =>
    outlineOfLevels_injective depth 0 levels levels' hr hr' h
  termination_by structural strategy => strategy

theorem outlineOfLevels_injective (depth index : Nat) : ∀ (levels levels' : List Level)
    {rest rest' : List Line}, Shallower (depth + 1) rest → Shallower (depth + 1) rest' →
    outlineOfLevels depth index levels ++ rest = outlineOfLevels depth index levels' ++ rest' →
    (levels.map fun level => level.constants.keys) =
        (levels'.map fun level => level.constants.keys) ∧
      treeOfLevels levels = treeOfLevels levels' ∧ rest = rest'
  | [], [], _, _, _, _, h => ⟨rfl, rfl, h⟩
  | [], level' :: _, _, _, hr, _, h => by
    rw [outlineOfLevels, List.nil_append] at h
    rw [h] at hr
    exact absurd hr.not_cons (Nat.lt_irrefl (depth + 1))
  | level :: _, [], _, _, _, hr', h => by
    rw [outlineOfLevels, List.nil_append] at h
    rw [← h] at hr'
    exact absurd hr'.not_cons (Nat.lt_irrefl (depth + 1))
  | level :: more, level' :: more', rest, rest', hr, hr', h => by
    rw [outlineOfLevels, outlineOfLevels, List.cons_append, List.cons_append, List.append_assoc,
      List.append_assoc] at h
    obtain ⟨hheader, hbelow⟩ := List.cons.inj h
    obtain ⟨hl, hm⟩ := outline_injective (depth + 2) level level' (hr.after_level _ more)
      (hr'.after_level _ more') hbelow
    obtain ⟨hc, ht, he⟩ := outlineOfLevels_injective depth (index + 1) more more' hr hr' hm
    refine ⟨?_, ?_, he⟩
    · rw [List.map_cons, List.map_cons, (Line.header.inj hheader).2.2, hc]
    · rw [treeOfLevels, treeOfLevels, hl, ht]
  termination_by structural levels => levels

end

section Names

/-- No line is without words: a header without number is only there if it has constants. -/
theorem words_linesOfNode {node : Node} {line : Line} (h : line ∈ linesOfNode node) :
    line.words ≠ [] := by
  rcases List.mem_cons.mp h with rfl | hh
  · exact List.cons_ne_nil _ _
  · obtain ⟨level, -, number, rfl, hc⟩ := eq_of_mem_headersOf hh
    cases number with
    | some index => exact List.cons_ne_nil _ _
    | none =>
      have hkeys : level.constants.keys.isEmpty = false := List.isEmpty_map.trans (hc rfl)
      rw [Line.words, hkeys]
      exact List.cons_ne_nil _ _

/-- Where the names of a plan can be told from what is around them, so can those in its outline. -/
theorem plain_of_mem_outline {plan : Level}
    (h : ∀ node ∈ plan.preorder, ∀ name ∈ node.names, PlainName name) :
    ∀ line ∈ outline 0 plan, line.Plain := by
  intro line hl
  refine ⟨fun name hn => ?_, ?_⟩
  · obtain ⟨node, hnode, hmem⟩ := exists_node_of_name hl hn
    exact h node hnode name hmem
  · obtain ⟨node, -, hb⟩ := exists_node_of_mem_outline hl
    rw [← Line.words_bare]
    exact words_linesOfNode hb

end Names

/-- Two plans whose trees have the same text have the same tree, where no name in them is empty or
has white space, a comma or a bracket in it. -/
theorem tree_eq_of_text_eq {plan plan' : Level}
    (h : ∀ node ∈ plan.preorder, ∀ name ∈ node.names, PlainName name)
    (h' : ∀ node ∈ plan'.preorder, ∀ name ∈ node.names, PlainName name)
    (he : treeText false (treeOfLevel plan) = treeText false (treeOfLevel plan')) :
    treeOfLevel plan = treeOfLevel plan' := by
  rw [treeText_eq, treeText_eq] at he
  have hlines : outline 0 plan = outline 0 plan' :=
    lines_eq_of_text_eq (plain_of_mem_outline h) (plain_of_mem_outline h') he
  have hends : Shallower 0 [] := fun _ hl => nomatch hl
  exact (outline_injective 0 plan plan' hends hends (congrArg (· ++ []) hlines)).1

/-- A cottage whose plan may differ in what no line shows: its own constants, a fragment, and what is
done under a name. -/
def cottage (constants : Fields) (fragment : Fragment) (round : Value → Value) : Level :=
  .mk constants
    [.mk "beds" fragment (.nestedArray
        [.mk [("deck", .int 2), ("view", "sea")]
            [.mk "width" .empty (.functionOfField ⟨"size", fragment⟩ (.total "round" round))],
          .mk [] []]),
      .mk "guest" .empty (.nestedObject (.mk [("paid", .bool true)]
        [.mk "name" .empty (.copy ⟨"holder", fragment⟩)]))]

def cottageRooms : Fragment := ⟨some "array", [], none⟩

/-- Both kinds of header and both depths are told apart in one text. -/
theorem tree_eq_of_text_eq_cottage :
    treeText false (treeOfLevel (cottage [] .empty id)) =
        "beds [nestedArray]\n  [0] constants: deck, view\n    width [functionVal] <- size via round\n" ++
          "  [1]\nguest [nestedObject]\n  constants: paid\n  name [copy] <- holder" ∧
      treeOfLevel (cottage [] .empty id) =
        treeOfLevel (cottage [("line", "night")] cottageRooms fun _ => .null) := by
  refine ⟨by decide +kernel, tree_eq_of_text_eq ?_ ?_ ?_⟩
  · decide +kernel
  · decide +kernel
  · decide +kernel

/-- Two plans that read alike and are not: blanks in names hide where a name ends. -/
example :
    let plan source name : Level :=
      .mk [] [.mk "to" .empty (.functionOfField ⟨source, .empty⟩ (.total name id))]
    treeText false (treeOfLevel (plan "at via top" "cut")) =
        treeText false (treeOfLevel (plan "at" "top via cut")) ∧
      treeOfLevel (plan "at via top" "cut") ≠ treeOfLevel (plan "at" "top via cut") := by
  refine ⟨by decide +kernel, fun h => ?_⟩
  simp [treeOfLevel, treeOfNodes, treeOfNode, Strategy.source?] at h

end Reshape.Report
