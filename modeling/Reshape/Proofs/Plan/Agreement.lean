import Reshape.Plan.Output
import Reshape.Proofs.Plan.Mirror

/-!
# What of an input decides the output

A plan reads its input through the sources of its nodes only, unless a function takes the input as a
whole. A compiled plan has only sources that its input schema declares, at every depth. So two inputs
that agree on the declared fields cannot be told apart. Functions of the whole input are excluded,
and what transforms make of equal arguments is equal because they are functions.
-/
namespace Reshape

/-- A value less the space around it, if it is a text. -/
def Value.trimmed : Value → Value
  | .text s => .text (Text.trim Text.isTextSpace s)
  | value => value

/-- Two inputs agree on a schema when each field that it declares is equal in both, where a missing
field counts as null and the space around a text does not count. -/
def Agree (schema : Fragment) (x y : Value) : Prop :=
  ∀ name ∈ schema.properties.keys,
    ((x.get? name).getD .null).trimmed = ((y.get? name).getD .null).trimmed

theorem Binding.read_eq (source : Binding) (input : Value) :
    source.read input = ((input.get? source.name).getD .null).trimmed := by
  unfold Binding.read Value.trimmed
  cases input.get? source.name with
  | none => rfl
  | some value => cases value <;> rfl

/-- Values that are no objects have no fields, like the empty object. -/
theorem agree_empty {schema : Fragment} {x : Value} (h : ∀ fields, x ≠ .object fields) :
    Agree schema x (.object []) := by
  intro name _
  cases x with
  | object fields => exact absurd rfl (h fields)
  | _ => rfl

/-- A strategy sees no difference between two inputs. -/
def Strategy.Confuses (x y : Value) (strategy : Strategy) : Prop :=
  strategy.kind ≠ .functionOfInput ∧
    ∀ source, strategy.source? = some source → source.read x = source.read y

section Congruence

variable {x y : Value} {origin : String}

theorem outputOfNodes_congr {nodes : List Node}
    (same : ∀ node ∈ nodes, node.result x origin = node.result y origin) (output : Fields) :
    outputOfNodes x origin nodes output = outputOfNodes y origin nodes output := by
  induction nodes generalizing output with
  | nil => rw [outputOfNodes, outputOfNodes]
  | cons node rest ih =>
    obtain ⟨head, tail⟩ := List.forall_mem_cons.mp same
    simp only [outputOfNodes, head, ih tail]

theorem elements_congr {levels : List Level}
    (same : ∀ level ∈ levels, level.output x origin = level.output y origin) (target : String)
    (index : Nat) :
    elements x origin target index levels = elements y origin target index levels := by
  induction levels generalizing index with
  | nil => rw [elements, elements]
  | cons level rest ih =>
    obtain ⟨head, tail⟩ := List.forall_mem_cons.mp same
    simp only [elements, head, ih tail]

/-- A node depends on its own source and on the levels right below it. -/
theorem Node.result_congr {node : Node} (own : node.strategy.Confuses x y)
    (below : ∀ level ∈ node.strategy.levels, level.output x origin = level.output y origin) :
    node.result x origin = node.result y origin := by
  obtain ⟨target, fragment, strategy⟩ := node
  obtain ⟨hk, hs⟩ := own
  rw [Node.result, Node.result]
  congr 1
  funext _
  cases strategy with
  | copy source => rw [Strategy.result, Strategy.result, hs source rfl]
  | lookup source transform => rw [Strategy.result, Strategy.result, hs source rfl]
  | functionOfField source transform => rw [Strategy.result, Strategy.result, hs source rfl]
  | functionOfInput transform => exact absurd rfl hk
  | nestedObject level =>
    rw [Strategy.result, Strategy.result, below level (List.mem_singleton_self level)]
  | nestedArray levels =>
    have hl : ∀ level ∈ levels, level.output x origin = level.output y origin := below
    rw [Strategy.result, Strategy.result, elements_congr hl]

/-- Inputs that no node tells apart, at any depth, give one output, with one journal. -/
theorem Level.output_congr (level : Level)
    (same : ∀ node ∈ level.preorder, node.strategy.Confuses x y) :
    level.output x origin = level.output y origin := by
  induction level using Level.induction with
  | mk constants nodes ih =>
    have hn : ∀ node ∈ nodes, node.result x origin = node.result y origin := by
      intro node hm
      obtain ⟨own, below⟩ := Level.forall_mem_preorder.mp same node hm
      exact Node.result_congr own fun level hl => ih node hm level hl (below level hl)
    rw [Level.output, Level.output, outputOfNodes_congr hn]

end Congruence

/-- The source of a node in a mirroring plan is declared by the input schema. -/
theorem MirrorsSpec.source_declared {scope : Scope} {key : String} {spec : Spec} {target : Fragment}
    {strategy : Strategy} {source : Binding} (h : MirrorsSpec scope key spec target strategy)
    (hs : strategy.source? = some source) : source.name ∈ scope.input.properties.keys := by
  cases h with
  | copy bound => cases hs; exact bound.mem_keys
  | lookup bound _ => cases hs; exact bound.mem_keys
  | functionOfField bound _ => cases hs; exact bound.mem_keys
  | functionOfInput _ => cases hs
  | object _ _ => cases hs
  | array _ _ _ => cases hs

/-- A plan that was built without functions of the whole input makes the same of two inputs that
agree on the input schema: the same output or the same error, and the same journal. -/
theorem apply_eq_of_agree {scope : Scope} {definition : Definition} {output : Fragment}
    {plan : Level} (hp : (scope.build definition output).outcome = .ok plan)
    (hf : ∀ node ∈ plan.preorder, node.kind ≠ .functionOfInput) {x y : Value}
    (ha : Agree scope.input x y) (origin : String) :
    plan.apply x origin = plan.apply y origin := by
  have same : ∀ node ∈ plan.preorder, node.strategy.Confuses x y := by
    intro node hm
    refine ⟨hf node hm, fun source hs => ?_⟩
    obtain ⟨spec, hr⟩ := (build_eq_ok.mp hp).rule_of_mem hm
    have hd := hr.source_declared hs
    rw [source.read_eq, source.read_eq, ha source.name hd]
  rw [Level.apply, Level.apply, plan.output_congr same]

section Shipment

def shipmentScope : Scope where
  input := ⟨none, [("number", .object []), ("town", .object [])], none⟩
  functions := .unconfigured
  lookups := .unconfigured

def shipmentDefinition : Definition := .level [("kind", "shipment")]
  [("id", .copy "number"),
    ("to", .nested (.single (.level []
      [("city", .lookup "town" (.inline [("B", "Berlin")]))])))]

def shipmentOutput : Fragment where
  kind := none
  properties :=
    [("id", .object []),
      ("to", .object [("type", "object"), ("properties", .object [("city", .object [])])])]
  items := none

/-- Order, padding and a field that is not declared make no difference, and an input that is no
object is like an empty one. -/
theorem apply_eq_of_agree_shipment :
    ∃ plan, (shipmentScope.build shipmentDefinition shipmentOutput).outcome = .ok plan ∧
      (∀ node ∈ plan.preorder, node.kind ≠ .functionOfInput) ∧
      (plan.apply (.object [("town", " B"), ("extra", .int 1), ("number", "7\n")]) "erp" =
        plan.apply (.object [("number", "7"), ("town", "B")]) "erp") ∧
      (plan.apply (.object [("number", "7"), ("town", "B")]) "erp").outcome =
        .ok (.object [("id", "7"), ("to", .object [("city", "Berlin")]), ("kind", "shipment")]) ∧
      plan.apply (.list ["B"]) "erp" = plan.apply (.object []) "erp" := by
  obtain ⟨plan, hp, hf, ho⟩ : ∃ plan,
      (shipmentScope.build shipmentDefinition shipmentOutput).outcome = .ok plan ∧
      (∀ node ∈ plan.preorder, node.kind ≠ .functionOfInput) ∧
      (plan.apply (.object [("number", "7"), ("town", "B")]) "erp").outcome =
        .ok (.object [("id", "7"), ("to", .object [("city", "Berlin")]), ("kind", "shipment")]) :=
    ⟨_, rfl, by decide, rfl⟩
  refine ⟨plan, hp, hf, apply_eq_of_agree hp hf ?_ "erp", ho, apply_eq_of_agree hp hf ?_ "erp"⟩
  · intro name hn
    simp only [shipmentScope, Fields.keys, List.map_cons, List.map_nil, List.mem_cons,
      List.not_mem_nil, or_false] at hn
    rcases hn with rfl | rfl <;> rfl
  · exact agree_empty fun fields h => by cases h

end Shipment

end Reshape
