import Reshape.Mapper
import Reshape.Proofs.Plan.Composition

/-!
# The elements of a nested array

What the levels of a nested array come to, one by one: a level that comes out empty gives no element,
and any other gives one, its output with the origin. What the levels themselves put out is taken as it
is. An element may hold the origin and nothing else, where its level maps a field to that key.
-/
namespace Reshape

/-- The origin takes the place of what stands under its key, or goes to the end. -/
inductive StampOf (origin : String) : Fields → Fields → Prop where
  | replaced {before after : Fields} {old : Value} (free : originKey ∉ before.keys) :
      StampOf origin (before ++ (originKey, old) :: after)
        (before ++ (originKey, .text origin) :: after)
  | appended {fields : Fields} (free : originKey ∉ fields.keys) :
      StampOf origin fields (fields ++ [(originKey, .text origin)])

/-- A node of a level shows a result. -/
def Level.Shows (input : Value) (origin : String) (level : Level) (result : String × Value) : Prop :=
  ∃ node ∈ level.nodes, node.target = result.1 ∧
    (node.result input origin).outcome = .ok result.2 ∧ result.2 ≠ .null ∧ result.2 ≠ .text ""

/-- Some key of an element, other than that of the origin, holds what a node of its level shows;
unless the level shows something under the key of the origin, and nothing under any other. -/
def HoldsShown (input : Value) (origin : String) (level : Level) (fields : Fields) : Prop :=
  (∃ entry ∈ fields, entry.1 ≠ originKey ∧ level.Shows input origin entry) ∨
    (∃ result, level.Shows input origin result) ∧
      ∀ result, level.Shows input origin result → result.1 = originKey

variable {input : Value} {origin : String}

theorem stampOf_insert (origin : String) (fields : Fields) :
    StampOf origin fields (fields.insert originKey (.text origin)) := by
  induction fields with
  | nil => exact .appended List.not_mem_nil
  | cons field rest ih =>
    obtain ⟨key, value⟩ := field
    rw [Fields.insert]
    by_cases hk : key = originKey
    · rw [if_pos hk, hk]
      exact @StampOf.replaced origin [] rest value List.not_mem_nil
    · have hf {front : Fields} (free : originKey ∉ front.keys) :
          originKey ∉ Fields.keys ((key, value) :: front) := by
        rw [Fields.keys, List.map_cons, List.mem_cons, not_or]
        exact ⟨Ne.symm hk, free⟩
      rw [if_neg hk]
      generalize Fields.insert rest originKey (.text origin) = element at ih ⊢
      cases ih with
      | @replaced before after old free =>
        exact @StampOf.replaced origin ((key, value) :: before) after old (hf free)
      | appended free => exact .appended (hf free)

theorem shows_iff {level : Level} {results : List (String × Value)}
    (made : level.Makes input origin results) {result : String × Value} :
    level.Shows input origin result ↔ result ∈ shown results := by
  rw [mem_shown, Value.Blank, not_or]
  constructor
  · rintro ⟨node, hn, ht, hv, hs⟩
    have hd : node.made input origin = .ok result :=
      made_eq_ok.mpr ⟨ht.symm, Node.outcome_result input origin node ▸ hv⟩
    obtain ⟨other, hm, hd'⟩ := Outcome.exists_result_of_mem (makes_iff.mp made) hn
    rw [hd] at hd'
    cases hd'
    exact ⟨hm, hs⟩
  · rintro ⟨hm, hs⟩
    obtain ⟨node, hn, ht, hv⟩ := made.exists_node hm
    exact ⟨node, hn, ht, hv, hs⟩

/-- What a level shows stays in its element, unless it is under the key of the origin. -/
theorem holdsShown_insert {level : Level} {output : Fields}
    (ho : (level.output input origin).outcome = .ok output) (hne : output ≠ []) :
    HoldsShown input origin level (output.insert originKey (.text origin)) := by
  obtain ⟨results, made, rfl⟩ := Level.exists_makes ho
  have hs : shown results ≠ [] := mt assembled_eq_nil_iff.mpr hne
  by_cases hk : ∃ result ∈ shown results, result.1 ≠ originKey
  · obtain ⟨result, hr, hk⟩ := hk
    obtain ⟨entry, he, hek, hes⟩ := exists_mem_assembled level.constants hr
    rw [← hek] at hk
    exact Or.inl ⟨entry, Fields.mem_insert_of_mem he hk _, hk, (shows_iff made).mpr hes⟩
  · obtain ⟨result, hr⟩ := List.exists_mem_of_ne_nil _ hs
    refine Or.inr ⟨⟨result, (shows_iff made).mpr hr⟩, fun other hother => ?_⟩
    exact not_not.mp fun hn => hk ⟨other, (shows_iff made).mp hother, hn⟩

theorem outcome_result_of_children {node : Node} {children : List (Level × Fields)}
    (array : node.strategy = .nestedArray (children.map Prod.fst))
    (made : ∀ child ∈ children, (child.1.output input origin).outcome = .ok child.2) :
    (node.result input origin).outcome =
      .ok (.list (survivors origin (children.map Prod.snd))) := by
  have hm : (children.map Prod.fst).mapM (fun level => (level.output input origin).outcome) =
      .ok (children.map Prod.snd) := by
    rw [Outcome.mapM_eq_ok, List.forall₂_map_left_iff, List.forall₂_map_right_iff, List.forall₂_same]
    exact made
  rw [Node.outcome_result, array, outcome_result_nestedArray, hm]
  rfl

theorem survivors_eq_map (origin : String) (children : List (Level × Fields)) :
    survivors origin (children.map Prod.snd) =
      ((children.filter fun child => !child.2.isEmpty).map fun child =>
        child.2.insert originKey (.text origin)).map Value.object := by
  rw [survivors, List.filter_map, List.map_map, List.map_map]
  rfl

/-- A node whose result is a list is written in its parent, as it is where no other node has its
target. -/
theorem written_in_parent {node : Node} {items : List Value}
    (result : (node.result input origin).outcome = .ok (.list items)) {parent : Level}
    (given : node ∈ parent.nodes) {output : Fields}
    (ho : (parent.output input origin).outcome = .ok output) :
    node.target ∈ output.keys ∧
      ((∀ other ∈ parent.nodes, other.target = node.target → other = node) →
        output.get? node.target = some (.list items)) := by
  refine ⟨(mem_keys_output ho).mpr (Or.inl ⟨node, given, rfl, _, result, rfl⟩), fun sole => ?_⟩
  have hs : parent.Shows input origin (node.target, .list items) :=
    ⟨node, given, rfl, result, by simp, by simp⟩
  have hn : output.keys.Nodup := nodup_output ho
  obtain ⟨results, made, rfl⟩ := Level.exists_makes ho
  obtain ⟨⟨key, value⟩, he, hk, hes⟩ :=
    exists_mem_assembled parent.constants ((shows_iff made).mp hs)
  obtain ⟨other, hin, ht, hv, -⟩ := (shows_iff made).mpr hes
  obtain rfl : other = node := sole other hin (ht.trans hk)
  obtain rfl : value = .list items := Except.ok.inj (hv.symm.trans result)
  obtain rfl : key = other.target := hk
  exact Fields.get?_eq_some_of_mem hn he

/-- If all levels of a nested array have an output then the node makes an array of one element for
each output that is not empty, in order, and of no other. An element is the output of its level but
for the origin, and holds something that the level shows under another key than that of the origin,
if the level shows anything under another key. The node is always written in its parent, if need be
as the empty array. -/
theorem nested_array_elements {node : Node} {children : List (Level × Fields)}
    (array : node.strategy = .nestedArray (children.map Prod.fst))
    (made : ∀ child ∈ children, (child.1.output input origin).outcome = .ok child.2) :
    ∃ elements : List Fields,
      (node.result input origin).outcome = .ok (.list (elements.map .object)) ∧
      List.Forall₂ (fun child element => StampOf origin child.2 element ∧
          HoldsShown input origin child.1 element)
        (children.filter fun child => !child.2.isEmpty) elements ∧
      ∀ parent : Level, node ∈ parent.nodes → ∀ output,
        (parent.output input origin).outcome = .ok output → node.target ∈ output.keys ∧
          ((∀ other ∈ parent.nodes, other.target = node.target → other = node) →
            output.get? node.target = some (.list (elements.map .object))) := by
  have hr := outcome_result_of_children array made
  rw [survivors_eq_map] at hr
  refine ⟨_, hr, ?_, fun parent given output ho => written_in_parent hr given ho⟩
  rw [List.forall₂_map_right_iff, List.forall₂_same]
  intro child hc
  obtain ⟨hm, hs⟩ := List.mem_filter.mp hc
  have hne : child.2 ≠ [] := by simpa using hs
  exact ⟨stampOf_insert origin child.2, holdsShown_insert (made child hm) hne⟩

section Quay

/-- Three berths: the first comes out empty, and the second maps a field to the key of the origin. -/
def quayBerths : List (Level × Fields) :=
  [(.mk [("no", .int 1)] [.mk "ship" .empty (.copy ⟨"west", .empty⟩)], []),
    (.mk [("no", .int 2)]
        [.mk "dataOrigin" .empty (.copy ⟨"id", .empty⟩), .mk "ship" .empty (.copy ⟨"mid", .empty⟩)],
      [("dataOrigin", "7"), ("ship", "Gesine"), ("no", .int 2)]),
    (.mk [] [.mk "ship" .empty (.copy ⟨"east", .empty⟩)], [("ship", "Alma")])]

def quayNode : Node := .mk "berths" .empty (.nestedArray (quayBerths.map Prod.fst))

def quayInput : Value :=
  .object [("west", " "), ("mid", "Gesine "), ("east", "Alma"), ("id", "7")]

def quayElements : List Fields :=
  [[("dataOrigin", "erp"), ("ship", "Gesine"), ("no", .int 2)],
    [("ship", "Alma"), ("dataOrigin", "erp")]]

theorem nested_array_elements_quay :
    quayNode.strategy = .nestedArray (quayBerths.map Prod.fst) ∧
    (∀ child ∈ quayBerths, (child.1.output quayInput "erp").outcome = .ok child.2) ∧
    (quayNode.result quayInput "erp").outcome = .ok (.list (quayElements.map .object)) ∧
    List.Forall₂ (fun child element => StampOf "erp" child.2 element ∧
        HoldsShown quayInput "erp" child.1 element)
      (quayBerths.filter fun child => !child.2.isEmpty) quayElements := by
  have made : ∀ child ∈ quayBerths, (child.1.output quayInput "erp").outcome = .ok child.2 := by
    simp only [quayBerths, List.forall_mem_cons]
    exact ⟨rfl, rfl, rfl, List.forall_mem_nil _⟩
  have hr : (quayNode.result quayInput "erp").outcome =
    .ok (.list (quayElements.map .object)) := rfl
  have array : quayNode.strategy = .nestedArray (quayBerths.map Prod.fst) := rfl
  obtain ⟨elements, he, each, -⟩ := nested_array_elements array made
  rw [hr, Except.ok.injEq, Value.list.injEq] at he
  have hinj : Function.Injective Value.object := fun _ _ h => Value.object.inj h
  obtain rfl : quayElements = elements := List.map_injective_iff.mpr hinj he
  exact ⟨array, made, hr, each⟩

end Quay

section Label

def labelDefinition : Value := .object
  [("lines", .object [("$nested", .list
    [.object [("dataOrigin", .object [("source", "number")])]])])]

def labelInput : Value := .object [("properties", .object [("number", .object [])])]

def labelOutput : Value := .object
  [("properties", .object
    [("lines", .object
      [("type", "array"),
        ("items", .object [("properties", .object [("dataOrigin", .object [])])])])])]

def labelData : Value := .object [("number", "7")]

/-- One level with its output. -/
def labelLines : List (Level × Fields) :=
  [(.mk [] [.mk "dataOrigin" .empty (.copy ⟨"number", .empty⟩)], [("dataOrigin", "7")])]

def labelNode : Node := .mk "lines" .empty (.nestedArray (labelLines.map Prod.fst))

/-- The origin may be all that an element holds: where the only field of its level is mapped to the
key of the origin, which replaces what the field was mapped to. -/
theorem origin_alone_in_element :
    (∃ compiled,
      ((Mapper.ofConfig ⟨"erp", false⟩).compile labelDefinition labelInput labelOutput).outcome =
        .ok compiled ∧
      (compiled.apply labelData).outcome =
        .ok (.object [("lines", .list [.object [("dataOrigin", "erp")]])])) ∧
    ¬ ∀ (node : Node) (children : List (Level × Fields)) (input : Value) (origin : String)
        (elements : List Fields), node.strategy = .nestedArray (children.map Prod.fst) →
      (∀ child ∈ children, (child.1.output input origin).outcome = .ok child.2) →
      (node.result input origin).outcome = .ok (.list (elements.map .object)) →
        List.Forall₂ (fun child element => ∃ key ∈ element.keys,
            key ≠ originKey ∧ key ∉ child.1.constants.keys)
          (children.filter fun child => !child.2.isEmpty) elements := by
  refine ⟨⟨_, rfl, rfl⟩, fun h => ?_⟩
  have made : ∀ child ∈ labelLines, (child.1.output labelData "erp").outcome = .ok child.2 :=
    List.forall_mem_singleton.mpr rfl
  have hr : (labelNode.result labelData "erp").outcome =
    .ok (.list ([[("dataOrigin", .text "erp")]].map Value.object)) := rfl
  have hclaim := h labelNode labelLines labelData "erp" _ rfl made hr
  obtain ⟨⟨key, hk, hne, -⟩, -⟩ := List.forall₂_cons.mp hclaim
  exact hne (List.mem_singleton.mp hk)

end Label

end Reshape
