import Reshape.Proofs.Plan.Assembly

/-!
# The origin as a label

What a plan makes of one input under two origins. It fails under both alike, and otherwise the two
outputs differ only in the entry of the origin that the elements of nested arrays carry. A value that
was copied, that a transform returned or that is a constant is the same in both, whatever keys it may
hold itself. The journals are not compared.
-/
namespace Reshape

mutual

/-- Two outputs of a level have the same keys in the same order, and under each key a constant of the
level or what one of its nodes made. -/
inductive Relabelled (origin origin' : String) : Level → Fields → Fields → Prop where
  | mk {constants fields fields' : Fields} {nodes : List Node} (distinct : fields.keys.Nodup)
      (each : RelabelledEntries origin origin' constants nodes fields fields') :
      Relabelled origin origin' (.mk constants nodes) fields fields'

inductive RelabelledEntries (origin origin' : String) :
    Fields → List Node → Fields → Fields → Prop where
  | nil {constants : Fields} {nodes : List Node} :
      RelabelledEntries origin origin' constants nodes [] []
  | constant {constants fields fields' : Fields} {nodes : List Node} {entry : String × Value}
      (given : entry ∈ constants)
      (tail : RelabelledEntries origin origin' constants nodes fields fields') :
      RelabelledEntries origin origin' constants nodes (entry :: fields) (entry :: fields')
  | made {constants fields fields' : Fields} {nodes : List Node} {node : Node} {value value' : Value}
      (given : node ∈ nodes) (head : RelabelledValue origin origin' node.strategy value value')
      (tail : RelabelledEntries origin origin' constants nodes fields fields') :
      RelabelledEntries origin origin' constants nodes ((node.target, value) :: fields)
        ((node.target, value') :: fields')

/-- Two values that one strategy made: equal ones, unless the strategy is nested. -/
inductive RelabelledValue (origin origin' : String) : Strategy → Value → Value → Prop where
  | plain {strategy : Strategy} {value : Value}
      (kind : strategy.kind ≠ .nestedObject ∧ strategy.kind ≠ .nestedArray) :
      RelabelledValue origin origin' strategy value value
  | object {level : Level} {fields fields' : Fields}
      (inner : Relabelled origin origin' level fields fields') :
      RelabelledValue origin origin' (.nestedObject level) (.object fields) (.object fields')
  | array {levels : List Level} {items items' : List Value}
      (each : RelabelledElements origin origin' levels items items') :
      RelabelledValue origin origin' (.nestedArray levels) (.list items) (.list items')

/-- Elements of the same levels stand in the same places. Each has one entry of the origin, which is
the one origin here and the other there; before and after it are the entries of the level. -/
inductive RelabelledElements (origin origin' : String) :
    List Level → List Value → List Value → Prop where
  | nil : RelabelledElements origin origin' [] [] []
  | dropped {level : Level} {levels : List Level} {items items' : List Value}
      (tail : RelabelledElements origin origin' levels items items') :
      RelabelledElements origin origin' (level :: levels) items items'
  | kept {constants before before' after after' : Fields} {nodes : List Node}
      {levels : List Level} {items items' : List Value}
      (sole : originKey ∉ Fields.keys (before ++ after))
      (front : RelabelledEntries origin origin' constants nodes before before')
      (back : RelabelledEntries origin origin' constants nodes after after')
      (tail : RelabelledElements origin origin' levels items items') :
      RelabelledElements origin origin' (.mk constants nodes :: levels)
        (.object (before ++ (originKey, .text origin) :: after) :: items)
        (.object (before' ++ (originKey, .text origin') :: after') :: items')

end

open Outcome (Related)

variable {origin origin' : String}

namespace RelabelledEntries

variable {constants fields fields' : Fields} {nodes : List Node}

/-- The first entries stand under one key and are relabelled by themselves. -/
theorem cons_cases {entry : String × Value}
    (h : RelabelledEntries origin origin' constants nodes (entry :: fields) fields') :
    ∃ value' rest', fields' = (entry.1, value') :: rest' ∧
      RelabelledEntries origin origin' constants nodes [entry] [(entry.1, value')] ∧
      RelabelledEntries origin origin' constants nodes fields rest' := by
  cases h with
  | constant given tail => exact ⟨_, _, rfl, .constant given .nil, tail⟩
  | made given head tail => exact ⟨_, _, rfl, .made given head .nil, tail⟩

theorem append {more more' : Fields}
    (h : RelabelledEntries origin origin' constants nodes fields fields')
    (hm : RelabelledEntries origin origin' constants nodes more more') :
    RelabelledEntries origin origin' constants nodes (fields ++ more) (fields' ++ more') := by
  induction fields generalizing fields' with
  | nil => cases h; exact hm
  | cons entry fields ih =>
    cases h with
    | constant given tail => exact .constant given (ih tail)
    | made given head tail => exact .made given head (ih tail)

theorem keys_eq (h : RelabelledEntries origin origin' constants nodes fields fields') :
    fields.keys = fields'.keys := by
  induction fields generalizing fields' with
  | nil => cases h; rfl
  | cons entry fields ih =>
    obtain ⟨value', rest', rfl, -, tail⟩ := h.cons_cases
    exact congrArg (entry.1 :: ·) (ih tail)

theorem isEmpty_eq (h : RelabelledEntries origin origin' constants nodes fields fields') :
    fields.isEmpty = fields'.isEmpty := by
  cases h <;> rfl

theorem contains_eq (h : RelabelledEntries origin origin' constants nodes fields fields')
    (name : String) : fields.contains name = fields'.contains name := by
  have hk : fields.contains name = false ↔ fields'.contains name = false := by
    rw [Fields.contains_eq_false_iff, Fields.contains_eq_false_iff, h.keys_eq]
  cases hc : fields'.contains name with
  | false => exact hk.mpr hc
  | true =>
    have hf : fields.contains name ≠ false := fun hf => by
      rw [hk.mp hf] at hc
      cases hc
    exact Bool.of_not_eq_false hf

/-- What a node makes takes its place on both sides, wherever its target stands already. -/
theorem insert {node : Node} {value value' : Value} (given : node ∈ nodes)
    (made : RelabelledValue origin origin' node.strategy value value')
    (h : RelabelledEntries origin origin' constants nodes fields fields') :
    RelabelledEntries origin origin' constants nodes (fields.insert node.target value)
      (fields'.insert node.target value') := by
  induction fields generalizing fields' with
  | nil => cases h; exact .made given made .nil
  | cons entry fields ih =>
    obtain ⟨old', rest', rfl, head, tail⟩ := h.cons_cases
    rw [Fields.insert, Fields.insert]
    split
    · rename_i hk
      rw [hk]
      exact .made given made tail
    · exact head.append (ih tail)

theorem insertNew {entry : String × Value} (given : entry ∈ constants)
    (h : RelabelledEntries origin origin' constants nodes fields fields') :
    RelabelledEntries origin origin' constants nodes (fields.insertNew entry.1 entry.2)
      (fields'.insertNew entry.1 entry.2) := by
  unfold Fields.insertNew
  rw [← h.contains_eq]
  split
  · exact h
  · exact h.append (.constant given .nil)

/-- Constants of the level are put in on both sides. -/
theorem foldl_insertNew {some : Fields} (given : ∀ entry ∈ some, entry ∈ constants)
    (h : RelabelledEntries origin origin' constants nodes fields fields') :
    RelabelledEntries origin origin' constants nodes
      (some.foldl (fun fields entry => fields.insertNew entry.1 entry.2) fields)
      (some.foldl (fun fields entry => fields.insertNew entry.1 entry.2) fields') := by
  induction some generalizing fields fields' with
  | nil => exact h
  | cons entry some ih =>
    obtain ⟨head, tail⟩ := List.forall_mem_cons.mp given
    exact ih tail (h.insertNew head)

theorem withConstants (h : RelabelledEntries origin origin' constants nodes fields fields') :
    RelabelledEntries origin origin' constants nodes (withConstants constants fields)
      (withConstants constants fields') := by
  unfold Reshape.withConstants
  rw [← h.isEmpty_eq]
  split
  · exact h
  · exact h.foldl_insertNew fun _ hm => hm

/-- The origin is put in at the same place on both sides. -/
theorem insert_origin (h : RelabelledEntries origin origin' constants nodes fields fields')
    (distinct : fields.keys.Nodup) :
    ∃ before before' after after',
      fields.insert originKey (.text origin) = before ++ (originKey, .text origin) :: after ∧
      fields'.insert originKey (.text origin') = before' ++ (originKey, .text origin') :: after' ∧
      originKey ∉ Fields.keys (before ++ after) ∧
      RelabelledEntries origin origin' constants nodes before before' ∧
      RelabelledEntries origin origin' constants nodes after after' := by
  induction fields generalizing fields' with
  | nil => cases h; exact ⟨[], [], [], [], rfl, rfl, List.not_mem_nil, .nil, .nil⟩
  | cons entry fields ih =>
    obtain ⟨old', rest', rfl, head, tail⟩ := h.cons_cases
    obtain ⟨key, old⟩ := entry
    obtain ⟨hk, hd⟩ := List.nodup_cons.mp distinct
    rw [Fields.insert, Fields.insert]
    split
    · rename_i he
      subst he
      exact ⟨[], [], fields, rest', rfl, rfl, hk, .nil, tail⟩
    · rename_i he
      obtain ⟨before, before', after, after', hb, hb', sole, front, back⟩ := ih tail hd
      have hs : originKey ∉ Fields.keys ((key, old) :: before ++ after) := by
        rw [List.cons_append, Fields.keys, List.map_cons, List.mem_cons, not_or]
        exact ⟨Ne.symm he, sole⟩
      refine ⟨(key, old) :: before, (key, old') :: before', after, after', ?_, ?_, hs,
        head.append front, back⟩
      · rw [hb, List.cons_append]
      · rw [hb', List.cons_append]

end RelabelledEntries

/-- Two results of a strategy are left out both or neither, and differ only in the origin. -/
def RelabelledResult (origin origin' : String) (strategy : Strategy) (value value' : Value) : Prop :=
  value.isSuppressed = value'.isSuppressed ∧
    (value.isSuppressed = false → RelabelledValue origin origin' strategy value value')

section Output

variable {input : Value}

/-- A run over some of the nodes of a level keeps what it started with relabelled. -/
theorem outputOfNodes_relabelled {constants : Fields} {nodes : List Node} :
    ∀ {rest : List Node}, (∀ node ∈ rest, node ∈ nodes ∧
        Related (RelabelledResult origin origin' node.strategy) (node.result input origin).outcome
          (node.result input origin').outcome) →
      ∀ {fields fields' : Fields}, RelabelledEntries origin origin' constants nodes fields fields' →
        Related (RelabelledEntries origin origin' constants nodes)
          (outputOfNodes input origin rest fields).outcome
          (outputOfNodes input origin' rest fields').outcome
  | [], _, _, _, h => .ok h
  | node :: rest, hr, _, _, h => by
    obtain ⟨⟨given, head⟩, tail⟩ := List.forall_mem_cons.mp hr
    simp only [outputOfNodes, Journal.outcome_bind]
    refine head.bind fun value value' ⟨hs, hv⟩ => ?_
    rw [← hs]
    cases hc : value.isSuppressed with
    | true =>
      simp only [↓reduceIte, Journal.outcome_bind, Journal.outcome_note, Outcome.ok_bind]
      exact outputOfNodes_relabelled tail h
    | false =>
      simp only [Bool.false_eq_true, ↓reduceIte]
      exact outputOfNodes_relabelled tail (h.insert given (hv hc))

/-- Levels with relabelled outputs give relabelled elements: the origin is put in only after it is
known which elements stay. -/
theorem elements_relabelled (target : String) : ∀ {levels : List Level},
    (∀ level ∈ levels, Related (Relabelled origin origin' level) (level.output input origin).outcome
      (level.output input origin').outcome) →
      ∀ index : Nat, Related (RelabelledElements origin origin' levels)
        (elements input origin target index levels).outcome
        (elements input origin' target index levels).outcome
  | [], _, _ => .ok .nil
  | level :: levels, hl, index => by
    obtain ⟨head, tail⟩ := List.forall_mem_cons.mp hl
    have rest := elements_relabelled target tail (index + 1)
    simp only [elements, Journal.outcome_bind]
    refine head.bind fun fields fields' hf => ?_
    obtain ⟨distinct, each⟩ := hf
    rw [← each.isEmpty_eq]
    split
    · simp only [Journal.outcome_bind, Journal.outcome_note, Outcome.ok_bind]
      exact rest.imp fun _ _ => .dropped
    · simp only [Journal.outcome_bind, Journal.outcome_pure]
      refine rest.bind fun items items' hi => ?_
      obtain ⟨before, before', after, after', hb, hb', sole, front, back⟩ :=
        each.insert_origin distinct
      rw [hb, hb']
      exact .ok (.kept sole front back hi)

theorem Node.result_relabelled {node : Node}
    (below : ∀ level ∈ node.strategy.levels, Related (Relabelled origin origin' level)
      (level.output input origin).outcome (level.output input origin').outcome) :
    Related (RelabelledResult origin origin' node.strategy) (node.result input origin).outcome
      (node.result input origin').outcome := by
  have plain {strategy : Strategy} (x : Except Error Value)
      (kind : strategy.kind ≠ .nestedObject ∧ strategy.kind ≠ .nestedArray) :
      Related (RelabelledResult origin origin' strategy) x x :=
    .refl (fun _ => ⟨rfl, fun _ => .plain kind⟩) x
  rw [Node.outcome_result, Node.outcome_result]
  obtain ⟨target, fragment, strategy⟩ := node
  cases strategy with
  | copy source => exact plain _ (by constructor <;> intro h <;> cases h)
  | lookup source transform => exact plain _ (by constructor <;> intro h <;> cases h)
  | functionOfField source transform => exact plain _ (by constructor <;> intro h <;> cases h)
  | functionOfInput transform => exact plain _ (by constructor <;> intro h <;> cases h)
  | nestedObject level =>
    have hl := below level (List.mem_singleton_self level)
    simp only [Node.strategy, Strategy.result, Journal.outcome_bind]
    refine hl.bind fun fields fields' hf => ?_
    have hf' := hf
    obtain ⟨distinct, each⟩ := hf'
    rw [← each.isEmpty_eq]
    split
    · exact .ok ⟨rfl, fun h => by cases h⟩
    · exact .ok ⟨rfl, fun _ => .object hf⟩
  | nestedArray levels =>
    have hl := elements_relabelled target below 0
    simp only [Node.strategy, Strategy.result, Journal.outcome_bind]
    exact hl.bind fun items items' hi => .ok ⟨rfl, fun _ => .array hi⟩

/-- Under any two origins a level has the same output but for these, or fails alike. -/
theorem Level.output_relabelled (level : Level) :
    Related (Relabelled origin origin' level) (level.output input origin).outcome
      (level.output input origin').outcome := by
  induction level using Level.induction with
  | mk constants nodes ih =>
    have each : ∀ node ∈ nodes, node ∈ nodes ∧
        Related (RelabelledResult origin origin' node.strategy) (node.result input origin).outcome
          (node.result input origin').outcome :=
      fun node hn => ⟨hn, Node.result_relabelled (ih node hn)⟩
    have none : RelabelledEntries origin origin' constants nodes [] [] := .nil
    have run := outputOfNodes_relabelled each none
    have hd := @nodup_output input origin (.mk constants nodes)
    simp only [Level.output, Journal.outcome_bind] at hd ⊢
    rcases run.elim with ⟨e, he, he'⟩ | ⟨fields, fields', hf, hf', hr⟩
    · rw [he, he']
      exact .error e
    · rw [hf] at hd ⊢
      rw [hf']
      exact .ok (.mk (hd rfl) hr.withConstants)

end Output

/-- Without nested arrays there is no place where the origin could stand. -/
theorem Relabelled.eq {level : Level} (arrayless : ∀ node ∈ level.preorder, node.kind ≠ .nestedArray)
    {fields fields' : Fields} (h : Relabelled origin origin' level fields fields') :
    fields = fields' := by
  induction level using Level.induction generalizing fields fields' with
  | mk constants nodes ih =>
    have hn := Level.forall_mem_preorder.mp arrayless
    obtain ⟨-, each⟩ := h
    induction fields generalizing fields' with
    | nil => cases each; rfl
    | cons entry fields ihf =>
      cases each with
      | constant _ tail => exact congrArg _ (ihf tail)
      | @made _ _ _ _ node _ _ given head tail =>
        obtain ⟨kind, below⟩ := hn node given
        rw [ihf tail]
        obtain ⟨target, fragment, strategy⟩ := node
        cases head with
        | plain _ => rfl
        | @object level _ _ inner =>
          have hl : level ∈ [level] := List.mem_singleton_self level
          rw [ih _ given level hl (below level hl) inner]
        | array _ => exact absurd rfl kind

/-- The origin is a label. Under any two origins a plan fails on an input with the same failure, or it
makes two outputs of it that differ in nothing but the entry of the origin in the elements of nested
arrays; and if the plan has no nested array, at any depth, then in nothing at all. -/
theorem apply_of_other_origin (plan : Level) (input : Value) (origin origin' : String) :
    Related (fun made made' => ∃ fields fields', made = .object fields ∧ made' = .object fields' ∧
        Relabelled origin origin' plan fields fields')
      (plan.apply input origin).outcome (plan.apply input origin').outcome ∧
    ((∀ node ∈ plan.preorder, node.kind ≠ .nestedArray) →
      (plan.apply input origin).outcome = (plan.apply input origin').outcome) := by
  have h : Related (Relabelled origin origin' plan) (plan.output input origin).outcome
      (plan.output input origin').outcome := plan.output_relabelled
  rw [Level.outcome_apply, Level.outcome_apply]
  rcases h.elim with ⟨e, he, he'⟩ | ⟨fields, fields', hf, hf', hr⟩
  · rw [he, he']
    exact ⟨.error e, fun _ => rfl⟩
  · rw [hf, hf']
    refine ⟨.ok ⟨fields, fields', rfl, rfl, hr⟩, fun arrayless => ?_⟩
    rw [hr.eq arrayless]

section Depot

/-- A site whose first dock maps a field of its own to the key of the origin, and whose second dock
may come out empty. -/
def depotSite : Level := .mk []
  [.mk "docks" .empty (.nestedArray
    [.mk [("no", .int 1)]
        [.mk "dataOrigin" .empty (.copy ⟨"id", .empty⟩), .mk "name" .empty (.copy ⟨"town", .empty⟩)],
      .mk [("no", .int 2)] [.mk "name" .empty (.copy ⟨"branch", .empty⟩)]])]

def depotPlan : Level := .mk [("kind", "depot")]
  [.mk "raw" .empty (.copy ⟨"record", .empty⟩), .mk "site" .empty (.nestedObject depotSite)]

def depotCopies : Level := .mk [] [.mk "raw" .empty (.copy ⟨"record", .empty⟩)]

def depotInput : Value :=
  .object [("id", "7"), ("town", "Ulm"), ("record", .object [("dataOrigin", "scan")])]

def depotOutput (origin : String) : Fields :=
  [("raw", .object [("dataOrigin", "scan")]),
    ("site", .object [("docks", .list
      [.object [("dataOrigin", .text origin), ("name", "Ulm"), ("no", .int 1)]])]),
    ("kind", "depot")]

/-- The key of the origin inside a copied value stays as it was. -/
theorem apply_of_other_origin_depot :
    (depotPlan.apply depotInput "erp").outcome = .ok (.object (depotOutput "erp")) ∧
    (depotPlan.apply depotInput "crm").outcome = .ok (.object (depotOutput "crm")) ∧
    Relabelled "erp" "crm" depotPlan (depotOutput "erp") (depotOutput "crm") ∧
    (∀ node ∈ depotCopies.preorder, node.kind ≠ .nestedArray) ∧
    (depotCopies.apply depotInput "erp").outcome = (depotCopies.apply depotInput "crm").outcome := by
  have h : (depotPlan.apply depotInput "erp").outcome = .ok (.object (depotOutput "erp")) := rfl
  have h' : (depotPlan.apply depotInput "crm").outcome = .ok (.object (depotOutput "crm")) := rfl
  have hc : ∀ node ∈ depotCopies.preorder, node.kind ≠ .nestedArray := by decide
  obtain ⟨hr, -⟩ := apply_of_other_origin depotPlan depotInput "erp" "crm"
  obtain ⟨-, hs⟩ := apply_of_other_origin depotCopies depotInput "erp" "crm"
  rw [h, h'] at hr
  cases hr with
  | ok related =>
    obtain ⟨fields, fields', hf, hf', hd⟩ := related
    cases hf
    cases hf'
    exact ⟨h, h', hd, hc, hs hc⟩

end Depot

end Reshape
