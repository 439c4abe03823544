import Reshape.Proofs.Plan.Calls
import Reshape.Proofs.Plan.Key

/-!
# More data, more output

What a plan of copies and nested levels makes of an input stands in what it makes of an input that
has more data: where a source was read as nothing in the first, the second may have anything. Filling
one field may bring back a level, its parent and an element of an array, so what is kept is stated
level by level. Transforms are excluded, since a function may make less of more.
-/
namespace Reshape

mutual

/-- An output of a level stands in another: each of its keys does. -/
inductive Embeds (origin : String) : Level → Fields → Fields → Prop where
  | mk {level : Level} {fields fields' : Fields}
      (each : ∀ key value, fields.get? key = some value →
        EmbedsEntry origin level fields' key value) :
      Embeds origin level fields fields'

/-- A key of an output is a key of another, with the same constant of the level or with what the same
node made. -/
inductive EmbedsEntry (origin : String) : Level → Fields → String → Value → Prop where
  | constant {constants fields' : Fields} {nodes : List Node} {key : String} {value : Value}
      (given : (key, value) ∈ constants) (there : fields'.get? key = some value) :
      EmbedsEntry origin (.mk constants nodes) fields' key value
  | made {constants fields' : Fields} {nodes : List Node} {node : Node} {value value' : Value}
      (given : node ∈ nodes) (there : fields'.get? node.target = some value')
      (inner : EmbedsValue origin node.strategy value value') :
      EmbedsEntry origin (.mk constants nodes) fields' node.target value

/-- A copied value is equal; nested values embed. -/
inductive EmbedsValue (origin : String) : Strategy → Value → Value → Prop where
  | copied {source : Binding} {value : Value} : EmbedsValue origin (.copy source) value value
  | object {level : Level} {fields fields' : Fields} (inner : Embeds origin level fields fields') :
      EmbedsValue origin (.nestedObject level) (.object fields) (.object fields')
  | array {levels : List Level} {items items' : List Value}
      (each : EmbedsElements origin levels items items') :
      EmbedsValue origin (.nestedArray levels) (.list items) (.list items')

/-- Elements embed in order into some of the others, each into the one that the same level made. Both
carry the same origin, whatever the level had under that key. -/
inductive EmbedsElements (origin : String) : List Level → List Value → List Value → Prop where
  | nil : EmbedsElements origin [] [] []
  | dropped {level : Level} {levels : List Level} {items items' : List Value}
      (tail : EmbedsElements origin levels items items') :
      EmbedsElements origin (level :: levels) items items'
  | revived {level : Level} {levels : List Level} {items items' : List Value} {item' : Value}
      (tail : EmbedsElements origin levels items items') :
      EmbedsElements origin (level :: levels) items (item' :: items')
  | kept {level : Level} {levels : List Level} {fields fields' : Fields} {items items' : List Value}
      (stamp : fields.get? originKey = some (.text origin))
      (stamp' : fields'.get? originKey = some (.text origin))
      (each : ∀ key value, key ≠ originKey → fields.get? key = some value →
        EmbedsEntry origin level fields' key value)
      (tail : EmbedsElements origin levels items items') :
      EmbedsElements origin (level :: levels) (.object fields :: items) (.object fields' :: items')

end

variable {origin : String}

section Relation

variable {level : Level} {fields fields' : Fields}

theorem EmbedsEntry.there {key : String} {value : Value}
    (h : EmbedsEntry origin level fields' key value) : ∃ value', fields'.get? key = some value' := by
  cases h with
  | constant _ there => exact ⟨_, there⟩
  | made _ there _ => exact ⟨_, there⟩

/-- Putting another key into the larger output does not disturb an entry. -/
theorem EmbedsEntry.insert {key name : String} {value new : Value} (hk : key ≠ name)
    (h : EmbedsEntry origin level fields' key value) :
    EmbedsEntry origin level (fields'.insert name new) key value := by
  have hg : (fields'.insert name new).get? key = fields'.get? key := by
    rw [Fields.get?_insert, if_neg (Ne.symm hk)]
  cases h with
  | constant given there => exact .constant given (hg.trans there)
  | made given there inner => exact .made given (hg.trans there) inner

theorem Embeds.isEmpty (h : Embeds origin level fields fields') (hf : fields.isEmpty = false) :
    fields'.isEmpty = false := by
  obtain ⟨each⟩ := h
  cases fields with
  | nil => cases hf
  | cons entry rest =>
    have hg : Fields.get? (entry :: rest) entry.1 = some entry.2 := by
      rw [Fields.get?_cons, if_pos rfl]
    obtain ⟨value', hv⟩ := (each entry.1 entry.2 hg).there
    cases fields' with
    | nil => cases hv
    | cons => rfl

end Relation

section Output

variable {x x' : Value}

/-- A level makes an output of either input, and the one embeds into the other. -/
def Level.Grows (x x' : Value) (origin : String) (level : Level) : Prop :=
  ∃ fields fields', (level.output x origin).outcome = .ok fields ∧
    (level.output x' origin).outcome = .ok fields' ∧ Embeds origin level fields fields'

/-- A node has a result for either input; if the first is written then so is the second, and the one
embeds into the other. -/
def Node.Grows (x x' : Value) (origin : String) (node : Node) : Prop :=
  ∃ value value', (node.result x origin).outcome = .ok value ∧
    (node.result x' origin).outcome = .ok value' ∧
    (value.isSuppressed = false →
      value'.isSuppressed = false ∧ EmbedsValue origin node.strategy value value')

theorem survivors_embed : ∀ {levels : List Level}, (∀ level ∈ levels, level.Grows x x' origin) →
    ∃ outputs outputs',
      (levels.mapM fun level => (level.output x origin).outcome) = .ok outputs ∧
      (levels.mapM fun level => (level.output x' origin).outcome) = .ok outputs' ∧
      EmbedsElements origin levels (survivors origin outputs) (survivors origin outputs')
  | [], _ => ⟨[], [], rfl, rfl, .nil⟩
  | level :: levels, h => by
    obtain ⟨⟨fields, fields', hf, hf', he⟩, tail⟩ := List.forall_mem_cons.mp h
    obtain ⟨outputs, outputs', ho, ho', hs⟩ := survivors_embed tail
    refine ⟨fields :: outputs, fields' :: outputs', Outcome.mapM_cons_eq_ok.mpr ⟨_, _, hf, ho, rfl⟩,
      Outcome.mapM_cons_eq_ok.mpr ⟨_, _, hf', ho', rfl⟩, ?_⟩
    rw [survivors_cons, survivors_cons]
    cases hfe : fields.isEmpty with
    | true =>
      rw [if_pos rfl]
      split
      · exact .dropped hs
      · exact .revived hs
    | false =>
      rw [he.isEmpty hfe, if_neg Bool.false_ne_true, if_neg Bool.false_ne_true]
      obtain ⟨each⟩ := he
      refine .kept ?_ ?_ (fun key value hk hv => ?_) hs
      · rw [Fields.get?_insert, if_pos rfl]
      · rw [Fields.get?_insert, if_pos rfl]
      · rw [Fields.get?_insert, if_neg (Ne.symm hk)] at hv
        exact (each key value hv).insert hk

theorem Node.grows {node : Node}
    (kind : node.kind = .copy ∨ node.kind = .nestedObject ∨ node.kind = .nestedArray)
    (filled : ∀ source, node.strategy.source? = some source →
      (source.read x).isSuppressed = true ∨ source.read x = source.read x')
    (below : ∀ level ∈ node.strategy.levels, level.Grows x x' origin) :
    node.Grows x x' origin := by
  rw [Node.Grows]
  rw [Node.outcome_result, Node.outcome_result]
  obtain ⟨target, fragment, strategy⟩ := node
  cases strategy with
  | copy source =>
    refine ⟨source.read x, source.read x', rfl, rfl, fun hs => ?_⟩
    rcases filled source rfl with hn | heq
    · rw [hn] at hs
      cases hs
    · rw [← heq]
      exact ⟨hs, .copied⟩
  | nestedObject level =>
    obtain ⟨fields, fields', hf, hf', he⟩ := below level (List.mem_singleton_self level)
    simp only [Node.strategy, outcome_result_nestedObject, hf, hf', Outcome.map_eq_ok]
    refine ⟨_, _, ⟨fields, rfl, rfl⟩, ⟨fields', rfl, rfl⟩, fun hs => ?_⟩
    cases hfe : fields.isEmpty with
    | true =>
      rw [hfe, if_pos rfl] at hs
      cases hs
    | false =>
      rw [he.isEmpty hfe, if_neg Bool.false_ne_true, if_neg Bool.false_ne_true]
      exact ⟨rfl, .object he⟩
  | nestedArray levels =>
    have each : ∀ level ∈ levels, level.Grows x x' origin := below
    obtain ⟨outputs, outputs', ho, ho', hs⟩ := survivors_embed each
    simp only [Node.strategy, outcome_result_nestedArray, ho, ho']
    exact ⟨_, _, rfl, rfl, fun _ => ⟨rfl, .array hs⟩⟩
  | lookup source transform => rcases kind with hk | hk | hk <;> cases hk
  | functionOfField source transform => rcases kind with hk | hk | hk <;> cases hk
  | functionOfInput transform => rcases kind with hk | hk | hk <;> cases hk

section Entry

variable {level : Level} {output output' : Fields} {key : String} {value : Value}

/-- What one node wrote for the first input is there for the second. -/
theorem embedsEntry_of_target (distinct : level.Distinct)
    (ho : (level.output x origin).outcome = .ok output)
    (ho' : (level.output x' origin).outcome = .ok output') {node : Node} (hn : node ∈ level.nodes)
    (grows : node.Grows x x' origin) (hv : output.get? node.target = some value) :
    EmbedsEntry origin level output' node.target value := by
  obtain ⟨constants, nodes⟩ := level
  obtain ⟨made, made', hm, hm', he⟩ := grows
  obtain ⟨first, hf, hg⟩ := get?_output_target distinct ho hn
  obtain ⟨second, hs, hg'⟩ := get?_output_target distinct ho' hn
  obtain rfl : made = first := Except.ok.inj (hm.symm.trans hf)
  obtain rfl : made' = second := Except.ok.inj (hm'.symm.trans hs)
  rw [hg] at hv
  cases hsup : made.isSuppressed with
  | true =>
    rw [hsup, if_pos rfl] at hv
    cases hv
  | false =>
    rw [hsup, if_neg Bool.false_ne_true] at hv
    obtain rfl : made = value := Option.some.inj hv
    obtain ⟨hsup', inner⟩ := he hsup
    rw [hsup', if_neg Bool.false_ne_true] at hg'
    exact .made hn hg' inner

theorem isEmpty_of_grows (ho : (level.output x origin).outcome = .ok output)
    (ho' : (level.output x' origin).outcome = .ok output')
    (each : ∀ node ∈ level.nodes, node.Grows x x' origin) (hoe : output.isEmpty = false) :
    output'.isEmpty = false := by
  obtain ⟨node, hn, made, hm, hs⟩ := (isEmpty_output ho).mp hoe
  obtain ⟨first, made', hf, hm', he⟩ := each node hn
  obtain rfl : made = first := Except.ok.inj (hm.symm.trans hf)
  exact (isEmpty_output ho').mpr ⟨node, hn, made', hm', (he hs).1⟩

/-- A constant that went with what was written for the first input goes with it for the second. -/
theorem embedsEntry_of_constant (ho : (level.output x origin).outcome = .ok output)
    (ho' : (level.output x' origin).outcome = .ok output')
    (each : ∀ node ∈ level.nodes, node.Grows x x' origin)
    (hk : ∀ node ∈ level.nodes, node.target ≠ key) (hv : output.get? key = some value) :
    EmbedsEntry origin level output' key value := by
  have hc := get?_output_of_not_target ho hk
  have hc' := get?_output_of_not_target ho' hk
  rw [hv] at hc
  cases hoe : output.isEmpty with
  | true =>
    rw [hoe, if_pos rfl] at hc
    cases hc
  | false =>
    rw [hoe, if_neg Bool.false_ne_true] at hc
    rw [isEmpty_of_grows ho ho' each hoe, if_neg Bool.false_ne_true, ← hc] at hc'
    obtain ⟨constants, nodes⟩ := level
    exact .constant (Fields.mem_of_get?_eq_some hc.symm) hc'

end Entry

theorem Level.exists_output {level : Level}
    (kinds : ∀ node ∈ level.preorder,
      node.kind = .copy ∨ node.kind = .nestedObject ∨ node.kind = .nestedArray) (input : Value)
    (origin : String) : ∃ output, (level.output input origin).outcome = .ok output := by
  rw [← Outcome.failure?_eq_none_iff, ← level.firstFailure_calls, calls_eq_nil input kinds]
  rfl

theorem Level.grows (level : Level)
    (kinds : ∀ node ∈ level.preorder,
      node.kind = .copy ∨ node.kind = .nestedObject ∨ node.kind = .nestedArray)
    (distinct : ∀ below ∈ level.all, below.Distinct)
    (filled : ∀ node ∈ level.preorder, ∀ source, node.strategy.source? = some source →
      (source.read x).isSuppressed = true ∨ source.read x = source.read x') :
    level.Grows x x' origin := by
  induction level using Level.induction with
  | mk constants nodes ih =>
    have hk := Level.forall_mem_preorder.mp kinds
    have hf := Level.forall_mem_preorder.mp filled
    obtain ⟨hd, below⟩ := Level.forall_mem_all.mp distinct
    have each : ∀ node ∈ nodes, node.Grows x x' origin := by
      intro node hn
      refine Node.grows (hk node hn).1 (hf node hn).1 fun level hl => ?_
      exact ih node hn level hl ((hk node hn).2 level hl) (below node hn level hl)
        ((hf node hn).2 level hl)
    obtain ⟨output, ho⟩ := Level.exists_output kinds x origin
    obtain ⟨output', ho'⟩ := Level.exists_output kinds x' origin
    refine ⟨output, output', ho, ho', .mk fun key value hv => ?_⟩
    by_cases hn : ∃ node ∈ nodes, node.target = key
    · obtain ⟨node, hn, rfl⟩ := hn
      exact embedsEntry_of_target hd ho ho' hn (each node hn) hv
    · exact embedsEntry_of_constant ho ho' each (fun node hm he => hn ⟨node, hm, he⟩) hv

end Output

/-- More data never lose output. For a plan that only copies and nests, with distinct keys on each
level, let each source that is bound anywhere read as nothing in the first input or alike in both.
Then the plan can be applied to both inputs, and its output on the first embeds into that on the
second. -/
theorem apply_embeds_of_filled {plan : Level}
    (kinds : ∀ node ∈ plan.preorder,
      node.kind = .copy ∨ node.kind = .nestedObject ∨ node.kind = .nestedArray)
    (distinct : ∀ level ∈ plan.all, level.Distinct) {x x' : Value}
    (filled : ∀ node ∈ plan.preorder, ∀ source, node.strategy.source? = some source →
      (source.read x).isSuppressed = true ∨ source.read x = source.read x') (origin : String) :
    ∃ fields fields', (plan.apply x origin).outcome = .ok (.object fields) ∧
      (plan.apply x' origin).outcome = .ok (.object fields') ∧ Embeds origin plan fields fields' := by
  have grows : plan.Grows x x' origin := plan.grows kinds distinct filled
  obtain ⟨fields, fields', hf, hf', he⟩ := grows
  refine ⟨fields, fields', ?_, ?_, he⟩
  · rw [Level.outcome_apply, hf]
    rfl
  · rw [Level.outcome_apply, hf']
    rfl

section Invoice

/-- An invoice with a buyer and three lines, whose parts have constants. -/
def invoicePlan : Level := .mk [("kind", "invoice")]
  [.mk "no" .empty (.copy ⟨"number", .empty⟩),
    .mk "buyer" .empty (.nestedObject
      (.mk [("role", "buyer")] [.mk "name" .empty (.copy ⟨"name", .empty⟩)])),
    .mk "lines" .empty (.nestedArray
      [.mk [] [.mk "item" .empty (.copy ⟨"first", .empty⟩)],
        .mk [("unit", "kg")] [.mk "dataOrigin" .empty (.copy ⟨"second", .empty⟩),
          .mk "item" .empty (.copy ⟨"number", .empty⟩)],
        .mk [] [.mk "item" .empty (.copy ⟨"third", .empty⟩)]])]

def invoiceData : Value := .object [("number", .int 7), ("name", "  ")]

def invoiceMore : Value :=
  .object [("number", .int 7), ("name", "Ada"), ("first", "ink"), ("second", "pen")]

def invoiceOutput : Fields :=
  [("no", .int 7),
    ("lines", .list [.object [("item", .int 7), ("unit", "kg"), ("dataOrigin", "erp")]]),
    ("kind", "invoice")]

/-- The name brings back the buyer with its constant, and one line comes before the line that was
there; that line has its two keys in another order. -/
theorem apply_embeds_of_filled_invoice :
    (∀ node ∈ invoicePlan.preorder, ∀ source, node.strategy.source? = some source →
      (source.read invoiceData).isSuppressed = true ∨
        source.read invoiceData = source.read invoiceMore) ∧
    (∀ level ∈ invoicePlan.all, level.Distinct) ∧
    ∃ fields, (invoicePlan.apply invoiceData "erp").outcome = .ok (.object invoiceOutput) ∧
      (invoicePlan.apply invoiceMore "erp").outcome = .ok (.object fields) ∧
      Embeds "erp" invoicePlan invoiceOutput fields := by
  have kinds : ∀ node ∈ invoicePlan.preorder,
      node.kind = .copy ∨ node.kind = .nestedObject ∨ node.kind = .nestedArray := by decide
  have distinct : ∀ level ∈ invoicePlan.all, level.Distinct := by
    have h : ∀ level ∈ invoicePlan.all, (level.nodes.map Node.target).Nodup ∧
        ∀ node ∈ level.nodes, node.target ∉ level.constants.keys := by decide
    exact fun level hl => ⟨(h level hl).1, (h level hl).2⟩
  have filled : ∀ node ∈ invoicePlan.preorder, ∀ source, node.strategy.source? = some source →
      (source.read invoiceData).isSuppressed = true ∨
        source.read invoiceData = source.read invoiceMore := by
    have sources : ∀ source ∈ invoicePlan.preorder.filterMap fun node => node.strategy.source?,
        (source.read invoiceData).isSuppressed = true ∨
          source.read invoiceData = source.read invoiceMore := by
      change ∀ source ∈ [_, _, _, _, _, _], _
      simp only [List.forall_mem_cons]
      exact ⟨.inr rfl, .inl rfl, .inl rfl, .inl rfl, .inr rfl, .inl rfl, nofun⟩
    exact fun node hn source hs => sources source (List.mem_filterMap.mpr ⟨node, hn, hs⟩)
  obtain ⟨fields, fields', hf, hf', he⟩ := apply_embeds_of_filled kinds distinct filled "erp"
  have ho : (invoicePlan.apply invoiceData "erp").outcome = .ok (.object invoiceOutput) := rfl
  obtain rfl : fields = invoiceOutput := by
    rw [hf] at ho
    cases ho
    rfl
  exact ⟨filled, distinct, fields', hf, hf', he⟩

end Invoice

end Reshape
