import Reshape.Proofs.Definition.Grammar
import Reshape.Proofs.Keys
import Reshape.Proofs.Mapper
import Reshape.Proofs.Plan.Calls
import Reshape.Proofs.Plan.Key

/-!
# One node for each key

A definition that was read from a value has each of its keys once, so on no level of its plan do two
nodes have one target, and no target is a constant or the reserved key. There the first node of a
target, which is the one that is found, makes what stands under the target in the output. In a plan of
a definition that was put together by hand, a later node of the same target could take its place.
-/
namespace Reshape

/-- No target of a level occurs twice, is a constant as well, or is the reserved key. -/
structure Level.Keyed (level : Level) : Prop extends level.Distinct where
  unreserved : ∀ node ∈ level.nodes, node.target ≠ Definition.constantKey

section Parts

open Definition (Denotes)

theorem MirrorsFields.exists_field {scope : Scope} {constants : Fields} {output : Fragment}
    {node : Node} : ∀ {fields : List (String × Spec)} {nodes : List Node},
      MirrorsFields scope constants output fields nodes → node ∈ nodes →
        ∃ spec, (node.target, spec) ∈ fields ∧
          MirrorsSpec scope node.target spec node.fragment node.strategy
  | _, _, .nil, hn => by cases hn
  | _, _, .cons _ _ head tail, hn => by
    rcases List.mem_cons.mp hn with rfl | hr
    · exact ⟨_, List.mem_cons_self, head⟩
    · obtain ⟨spec, hs, hm⟩ := tail.exists_field hr
      exact ⟨spec, List.mem_cons_of_mem _ hs, hm⟩

theorem MirrorsLevels.exists_definition {scope : Scope} {items : Fragment} {level : Level} :
    ∀ {definitions : List Definition} {levels : List Level},
      MirrorsLevels scope items definitions levels → level ∈ levels →
        ∃ definition ∈ definitions, Mirrors scope definition items level
  | _, _, .nil, hl => by cases hl
  | _, _, .cons head tail, hl => by
    rcases List.mem_cons.mp hl with rfl | hr
    · exact ⟨_, List.mem_cons_self, head⟩
    · obtain ⟨definition, hd, hm⟩ := tail.exists_definition hr
      exact ⟨definition, List.mem_cons_of_mem _ hd, hm⟩

/-- A level below a node mirrors a definition in the nested body of the node's rule. -/
theorem Mirrors.exists_part {scope : Scope} {definition : Definition} {output : Fragment}
    {level : Level} (h : Mirrors scope definition output level) {node : Node}
    (hn : node ∈ level.nodes) {inner : Level} (hi : inner ∈ node.strategy.levels) :
    ∃ body, (node.target, .nested body) ∈ definition.fields ∧
      ∃ part ∈ body.toList, ∃ fragment, Mirrors scope part fragment inner := by
  cases h with
  | level each =>
    obtain ⟨spec, hs, hm⟩ := each.exists_field hn
    obtain ⟨target, fragment, strategy⟩ := node
    cases hm with
    | object _ mirrored =>
      obtain rfl := List.mem_singleton.mp hi
      exact ⟨_, hs, _, List.mem_singleton_self _, _, mirrored⟩
    | array _ _ each =>
      obtain ⟨part, hp, mirrored⟩ := each.exists_definition hi
      exact ⟨_, hs, part, hp, _, mirrored⟩
    | _ => cases hi

/-- The definitions in a nested body are denoted by values that again hold no key twice. -/
theorem Definition.Denotes.exists_value {value : Value} {definition : Definition}
    (h : Denotes value definition) (distinct : value.distinctKeys = true) {key : String}
    {body : Nested} (given : (key, .nested body) ∈ definition.fields) {part : Definition}
    (hp : part ∈ body.toList) : ∃ raw, Denotes raw part ∧ raw.distinctKeys = true := by
  cases h with
  | object _ each =>
    obtain ⟨-, rule, hr, hd⟩ := each.rule_of_mem given
    have hrule := (distinctKeys_object.mp distinct).2 _ hr
    cases hd with
    | nested _ _ _ held inner =>
      have hraw := (distinctKeys_object.mp hrule).2 _ (Fields.mem_of_get?_eq_some held)
      cases inner with
      | single inner =>
        obtain rfl := List.mem_singleton.mp hp
        exact ⟨_, inner, hraw⟩
      | many each =>
        obtain ⟨item, hi, hd⟩ := each.denotes_of_mem hp
        exact ⟨item, hd, distinctKeys_list.mp hraw item hi⟩

/-- The top level of a plan of what a value denotes. -/
theorem Mirrors.keyed {scope : Scope} {value : Value} {definition : Definition} {output : Fragment}
    {level : Level} (h : Mirrors scope definition output level) (hd : Denotes value definition)
    (distinct : value.distinctKeys = true) : level.Keyed := by
  have hk := hd.fieldKeys_eq
  cases hd with
  | @object fields constants _ _ _ =>
    obtain ⟨each⟩ := h
    have ht := each.targets_eq
    have hn : (Fields.keys fields).Nodup := (distinctKeys_object.mp distinct).1
    change _ = (Fields.keys fields).filter _ at hk
    rw [Definition.fields] at hk
    refine ⟨⟨?_, each.fresh⟩, fun node hnode hr => ?_⟩
    · rw [Level.nodes, ht, hk]
      exact hn.filter _
    · have hm : node.target ∈ (Fields.keys fields).filter fun key => key ≠ Definition.constantKey := by
        rw [← hk, ← ht]
        exact List.mem_map_of_mem hnode
      exact of_decide_eq_true (List.mem_filter.mp hm).2 hr

/-- And so on every level below. -/
theorem Mirrors.keyed_all {scope : Scope} {value : Value} {definition : Definition}
    {output : Fragment} {plan : Level} (h : Mirrors scope definition output plan)
    (hd : Denotes value definition) (distinct : value.distinctKeys = true) :
    ∀ level ∈ plan.all, level.Keyed := by
  induction plan using Level.induction generalizing value definition output with
  | mk constants nodes ih =>
    rw [Level.forall_mem_all]
    refine ⟨h.keyed hd distinct, fun node hn inner hi => ?_⟩
    obtain ⟨body, given, part, hp, fragment, mirrored⟩ := h.exists_part hn hi
    obtain ⟨raw, hr, hk⟩ := hd.exists_value distinct given hp
    exact ih node hn inner hi mirrored hr hk

end Parts

section Output

variable {input : Value} {origin : String} {level : Level} {output : Fields} {key : String}

/-- If a plan has an output then so does each of its levels. -/
theorem exists_output_of_apply {plan : Level} {out : Value}
    (h : (plan.apply input origin).outcome = .ok out) (hl : level ∈ plan.all) :
    ∃ output, (level.output input origin).outcome = .ok output := by
  have hp : firstFailure (plan.calls input) = none := by
    rw [← failure?_apply, Outcome.failure?_eq_none_iff]
    exact ⟨out, h⟩
  rw [firstFailure_eq_none_iff] at hp
  rw [← Outcome.failure?_eq_none_iff, ← level.firstFailure_calls, firstFailure_eq_none_iff]
  intro call hc
  obtain ⟨node, hn, hcall⟩ := List.mem_filterMap.mp hc
  exact hp call (List.mem_filterMap.mpr ⟨node, plan.preorder_subset_of_mem_all level hl hn, hcall⟩)

theorem mem_output_iff (ho : (level.output input origin).outcome = .ok output) {value : Value} :
    (key, value) ∈ output ↔ output.get? key = some value :=
  ⟨Fields.get?_eq_some_of_mem (nodup_output ho), Fields.mem_of_get?_eq_some⟩

/-- Under the target of a node that is found stands what the node made, if it is neither null nor the
empty text. -/
theorem mem_output_of_node (hd : level.Distinct)
    (ho : (level.output input origin).outcome = .ok output) {node : Node}
    (found : level.node? key = some node) :
    ∃ result, (node.result input origin).outcome = .ok result ∧
      ∀ value, (key, value) ∈ output ↔ value = result ∧ result ≠ .null ∧ result ≠ .text "" := by
  obtain rfl : node.target = key := by simpa using List.find?_some found
  obtain ⟨result, hr, hg⟩ := get?_output_target hd ho (List.mem_of_find?_eq_some found)
  refine ⟨result, hr, fun value => ?_⟩
  rw [mem_output_iff ho, hg, ← not_or, ← Value.Blank]
  by_cases hb : result.Blank
  · simp [hb, isSuppressed_eq_true_iff.mpr hb]
  · simp [hb, isSuppressed_eq_false_iff.mpr hb, eq_comm]

/-- Under a key for which no node is found stands the constant of the level, if anything does. -/
theorem mem_output_of_no_node (ho : (level.output input origin).outcome = .ok output)
    (missing : level.node? key = none) (value : Value) :
    (key, value) ∈ output ↔ output ≠ [] ∧ level.constants.get? key = some value := by
  have free : ∀ node ∈ level.nodes, node.target ≠ key := by simpa using List.find?_eq_none.mp missing
  rw [mem_output_iff ho, get?_output_of_not_target ho free]
  cases output <;> simp

end Output

/-- A plan that was compiled from a value in which no object holds a key twice has on each of its
levels one node at most for each key, none for a constant and none for the reserved key. If the plan
has an output then each of its levels has one. In the output of a level, what stands under the target
of a node is what this very node made, and it is missing exactly if that is null or the empty text;
any other key is that of a constant, and has its value. -/
theorem node_decides_key {mapper compiled : Mapper} {definition inputSchema outputSchema : Value}
    (distinct : definition.distinctKeys = true)
    (built : (mapper.compile definition inputSchema outputSchema).outcome = .ok compiled) :
    ∃ plan, compiled.plan? = some plan ∧ ∀ level ∈ plan.all,
      ((level.nodes.map Node.target).Nodup ∧ ∀ node ∈ level.nodes,
        node.target ∉ level.constants.keys ∧ node.target ≠ Definition.constantKey) ∧
      ∀ input origin,
        ((∃ out, (plan.apply input origin).outcome = .ok out) →
          ∃ output, (level.output input origin).outcome = .ok output) ∧
        ∀ output, (level.output input origin).outcome = .ok output → ∀ key,
          (∀ node, level.node? key = some node →
            ∃ result, (node.result input origin).outcome = .ok result ∧
              ∀ value, (key, value) ∈ output ↔
                value = result ∧ result ≠ .null ∧ result ≠ .text "") ∧
          (level.node? key = none → ∀ value, (key, value) ∈ output ↔
            output ≠ [] ∧ level.constants.get? key = some value) := by
  obtain ⟨parsed, source, target, plan, hd, -, -, hp, rfl⟩ := Mapper.compile_eq_ok.mp built
  have denoted : Definition.Denotes definition parsed := Definition.ofValue_eq_ok.mp hd
  have keyed : ∀ level ∈ plan.all, level.Keyed := (build_eq_ok.mp hp).keyed_all denoted distinct
  refine ⟨plan, rfl, fun level hl => ?_⟩
  have hk := keyed level hl
  refine ⟨⟨hk.targets, fun node hn => ⟨hk.fresh node hn, hk.unreserved node hn⟩⟩,
    fun input origin => ⟨fun ⟨out, h⟩ => exists_output_of_apply h hl, fun output ho key => ?_⟩⟩
  exact ⟨fun node found => mem_output_of_node hk.toDistinct ho found, mem_output_of_no_node ho⟩

section Voyage

def voyageDefinition : Value := .object
  [("no", .object [("source", "number")]), ("$constant", .object [("line", "north")]),
    ("leg", .object [("$nested", .object
      [("$constant", .object [("kind", "leg")]), ("port", .object [("source", "port")]),
        ("note", .object [("source", "note")])])])]

def voyageInput : Value := .object
  [("properties", .object
    [("number", .object []), ("port", .object []), ("note", .object [])])]

def voyageProperties : Fields := [("port", .object []), ("note", .object [])]

def voyageOutput : Value := .object
  [("properties", .object
    [("no", .object []),
      ("leg", .object [("type", "object"), ("properties", .object voyageProperties)])])]

def voyageData : Value := .object [("number", .int 0), ("port", " Kiel"), ("note", "\t")]

def voyageLeg : Level := .mk [("kind", "leg")]
  [.mk "port" .empty (.copy ⟨"port", .empty⟩), .mk "note" .empty (.copy ⟨"note", .empty⟩)]

def voyagePlan : Level := .mk [("line", "north")]
  [.mk "no" .empty (.copy ⟨"number", .empty⟩),
    .mk "leg" ⟨some "object", voyageProperties, none⟩ (.nestedObject voyageLeg)]

/-- On the level of a leg the port is what its node made, the note is missing, and the kind is that of
the constant. -/
theorem node_decides_key_voyage :
    voyageDefinition.distinctKeys = true ∧ voyageLeg ∈ voyagePlan.all ∧
    ∃ compiled,
      ((Mapper.ofConfig ⟨"erp", false⟩).compile voyageDefinition voyageInput voyageOutput).outcome =
        .ok compiled ∧
      compiled.plan? = some voyagePlan ∧
      ∃ output, (voyageLeg.output voyageData "erp").outcome = .ok output ∧
        ("port", .text "Kiel") ∈ output ∧ ("note", .text "") ∉ output ∧
        ("kind", .text "leg") ∈ output := by
  have distinct : voyageDefinition.distinctKeys = true := by decide
  have leg : voyageLeg ∈ voyagePlan.all := List.mem_cons_of_mem _ List.mem_cons_self
  obtain ⟨compiled, built, kept⟩ : ∃ compiled,
      ((Mapper.ofConfig ⟨"erp", false⟩).compile voyageDefinition voyageInput voyageOutput).outcome =
        .ok compiled ∧ compiled.plan? = some voyagePlan := ⟨_, rfl, rfl⟩
  obtain ⟨plan, hplan, levels⟩ := node_decides_key distinct built
  obtain rfl : voyagePlan = plan := Option.some.inj (kept.symm.trans hplan)
  obtain ⟨-, keys⟩ := levels voyageLeg leg
  obtain ⟨whole, each⟩ := keys voyageData "erp"
  obtain ⟨output, ho⟩ := whole ⟨_, rfl⟩
  obtain ⟨port, hport, portIff⟩ := (each output ho "port").1 _ rfl
  obtain ⟨note, hnote, noteIff⟩ := (each output ho "note").1 _ rfl
  have kindIff := (each output ho "kind").2 rfl
  obtain rfl : .text "Kiel" = port := Except.ok.inj hport
  obtain rfl : .text "" = note := Except.ok.inj hnote
  have hin : ("port", .text "Kiel") ∈ output := (portIff _).mpr ⟨rfl, by simp, by simp⟩
  refine ⟨distinct, leg, compiled, built, kept, output, ho, hin, fun hn => ?_,
    (kindIff _).mpr ⟨List.ne_nil_of_mem hin, rfl⟩⟩
  exact ((noteIff _).mp hn).2.2 rfl

end Voyage

end Reshape
