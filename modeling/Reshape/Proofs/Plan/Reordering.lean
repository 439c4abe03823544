import Mathlib.Data.List.Perm.Basic
import Reshape.Proofs.Plan.Mirror

/-!
# Declarations in another order

Definitions whose fields and constants stand in another order on any of their levels, and plans whose
nodes do. The definitions of an array keep their order. If one of two such definitions is built then so
is the other, and their plans are reordered likewise. Which fault ends a building depends on the order
and is not compared.
-/
namespace Reshape

mutual

/-- A definition with its fields and constants in another order, at any depth. On each level that is
reordered, no field and no constant is declared twice. -/
inductive Reordered : Definition → Definition → Prop where
  | level {constants constants' : Fields} {fields middle fields' : List (String × Spec)}
      (keys : (fields.map Prod.fst).Nodup) (distinct : constants.keys.Nodup)
      (each : ReorderedFields fields middle) (order : middle.Perm fields')
      (constantOrder : constants.Perm constants') :
      Reordered (.level constants fields) (.level constants' fields')

/-- Fields are reordered each in itself. -/
inductive ReorderedFields : List (String × Spec) → List (String × Spec) → Prop where
  | nil : ReorderedFields [] []
  | cons {key : String} {spec spec' : Spec} {fields fields' : List (String × Spec)}
      (head : ReorderedSpec spec spec') (tail : ReorderedFields fields fields') :
      ReorderedFields ((key, spec) :: fields) ((key, spec') :: fields')

inductive ReorderedSpec : Spec → Spec → Prop where
  | kept {spec : Spec} : ReorderedSpec spec spec
  | single {definition definition' : Definition} (inner : Reordered definition definition') :
      ReorderedSpec (.nested (.single definition)) (.nested (.single definition'))
  | many {definitions definitions' : List Definition}
      (each : ReorderedDefinitions definitions definitions') :
      ReorderedSpec (.nested (.many definitions)) (.nested (.many definitions'))

/-- Definitions of an array are reordered each in itself; they keep their places. -/
inductive ReorderedDefinitions : List Definition → List Definition → Prop where
  | nil : ReorderedDefinitions [] []
  | cons {definition definition' : Definition} {definitions definitions' : List Definition}
      (head : Reordered definition definition')
      (tail : ReorderedDefinitions definitions definitions') :
      ReorderedDefinitions (definition :: definitions) (definition' :: definitions')

end

mutual

/-- A level with its nodes and constants in another order, at any depth. On each level that is
reordered, the targets and the constants are all distinct. -/
inductive ReorderedLevel : Level → Level → Prop where
  | mk {constants constants' : Fields} {nodes middle nodes' : List Node}
      (targets : (nodes.map Node.target).Nodup) (distinct : constants.keys.Nodup)
      (fresh : ∀ node ∈ nodes, node.target ∉ constants.keys)
      (each : ReorderedNodes nodes middle) (order : middle.Perm nodes')
      (constantOrder : constants.Perm constants') :
      ReorderedLevel (.mk constants nodes) (.mk constants' nodes')

inductive ReorderedNodes : List Node → List Node → Prop where
  | nil : ReorderedNodes [] []
  | cons {target : String} {fragment : Fragment} {strategy strategy' : Strategy}
      {nodes nodes' : List Node} (head : ReorderedStrategy strategy strategy')
      (tail : ReorderedNodes nodes nodes') :
      ReorderedNodes (.mk target fragment strategy :: nodes) (.mk target fragment strategy' :: nodes')

inductive ReorderedStrategy : Strategy → Strategy → Prop where
  | kept {strategy : Strategy} : ReorderedStrategy strategy strategy
  | object {level level' : Level} (inner : ReorderedLevel level level') :
      ReorderedStrategy (.nestedObject level) (.nestedObject level')
  | array {levels levels' : List Level} (each : ReorderedLevels levels levels') :
      ReorderedStrategy (.nestedArray levels) (.nestedArray levels')

inductive ReorderedLevels : List Level → List Level → Prop where
  | nil : ReorderedLevels [] []
  | cons {level level' : Level} {levels levels' : List Level} (head : ReorderedLevel level level')
      (tail : ReorderedLevels levels levels') :
      ReorderedLevels (level :: levels) (level' :: levels')

end

section Definitions

theorem reorderedFields_iff_forall₂ {fields fields' : List (String × Spec)} :
    ReorderedFields fields fields' ↔
      List.Forall₂ (fun field field' => field.1 = field'.1 ∧ ReorderedSpec field.2 field'.2)
        fields fields' := by
  constructor
  · intro h
    induction fields generalizing fields' with
    | nil => cases h; exact .nil
    | cons field fields ih =>
      cases h with
      | cons head tail => exact .cons ⟨rfl, head⟩ (ih tail)
  · intro h
    induction h with
    | nil => exact .nil
    | @cons field field' fields fields' head _ ih =>
      obtain ⟨key, spec⟩ := field
      obtain ⟨key', spec'⟩ := field'
      obtain ⟨rfl, hs⟩ := head
      exact .cons hs ih

theorem ReorderedFields.keys_eq {fields fields' : List (String × Spec)}
    (h : ReorderedFields fields fields') : fields.map Prod.fst = fields'.map Prod.fst := by
  induction fields generalizing fields' with
  | nil => cases h; rfl
  | cons field fields ih =>
    cases h with
    | cons _ tail => rw [List.map_cons, List.map_cons, ih tail]

mutual

/-- The original order is another order of the new one. -/
theorem Reordered.symm {definition definition' : Definition} :
    Reordered definition definition' → Reordered definition' definition
  | .level keys distinct each order constantOrder => by
    -- backwards the permutation comes first; it has to go behind the changes inside the fields
    have hm := reorderedFields_iff_forall₂.mp each.symm
    obtain ⟨middle', hf, hp⟩ := List.perm_comp_forall₂ order.symm hm
    have hk := (order.map Prod.fst).nodup (each.keys_eq ▸ keys)
    have hc := (constantOrder.map Prod.fst).nodup distinct
    exact .level hk hc (reorderedFields_iff_forall₂.mpr hf) hp constantOrder.symm

theorem ReorderedFields.symm {fields fields' : List (String × Spec)} :
    ReorderedFields fields fields' → ReorderedFields fields' fields
  | .nil => .nil
  | .cons head tail => .cons head.symm tail.symm

theorem ReorderedSpec.symm {spec spec' : Spec} : ReorderedSpec spec spec' → ReorderedSpec spec' spec
  | .kept => .kept
  | .single inner => .single inner.symm
  | .many each => .many each.symm

theorem ReorderedDefinitions.symm {definitions definitions' : List Definition} :
    ReorderedDefinitions definitions definitions' → ReorderedDefinitions definitions' definitions
  | .nil => .nil
  | .cons head tail => .cons head.symm tail.symm

end

end Definitions

section Build

variable {scope : Scope} {constants : Fields} {output : Fragment}

/-- One field is mirrored by one node; what is asked of it concerns no other field. -/
def MirrorsField (scope : Scope) (constants : Fields) (output : Fragment) (field : String × Spec)
    (node : Node) : Prop :=
  node.target = field.1 ∧ field.1 ∉ constants.keys ∧ output.Declares field.1 node.fragment ∧
    MirrorsSpec scope field.1 field.2 node.fragment node.strategy

theorem mirrorsFields_iff_forall₂ {fields : List (String × Spec)} {nodes : List Node} :
    MirrorsFields scope constants output fields nodes ↔
      List.Forall₂ (MirrorsField scope constants output) fields nodes := by
  constructor
  · intro h
    induction fields generalizing nodes with
    | nil => cases h; exact .nil
    | cons field fields ih =>
      cases h with
      | cons fresh declared head tail => exact .cons ⟨rfl, fresh, declared, head⟩ (ih tail)
  · intro h
    induction h with
    | nil => exact .nil
    | @cons field node fields nodes head _ ih =>
      obtain ⟨key, spec⟩ := field
      obtain ⟨target, fragment, strategy⟩ := node
      obtain ⟨rfl, fresh, declared, hs⟩ := head
      exact .cons fresh declared hs ih

/-- Fields in another order are mirrored by the nodes in another order, and constants in another
order make no difference. -/
theorem MirrorsFields.perm {constants' : Fields} {fields fields' : List (String × Spec)}
    {nodes : List Node} (h : MirrorsFields scope constants output fields nodes)
    (hc : constants.Perm constants') (hp : fields.Perm fields') :
    ∃ nodes', MirrorsFields scope constants' output fields' nodes' ∧ nodes.Perm nodes' := by
  have hf := mirrorsFields_iff_forall₂.mp h
  obtain ⟨nodes', hf', hn⟩ := List.perm_comp_forall₂ hp.symm hf
  refine ⟨nodes', mirrorsFields_iff_forall₂.mpr (hf'.imp fun field node hm => ?_), hn.symm⟩
  obtain ⟨ht, fresh, rest⟩ := hm
  have hk := (hc.map Prod.fst).mem_iff (a := field.1)
  exact ⟨ht, fun hm => fresh (hk.mpr hm), rest⟩

mutual

/-- What mirrors a definition has a counterpart that mirrors the reordered one. -/
theorem Reordered.mirrors : ∀ {definition definition' : Definition} {output : Fragment}
    {level : Level}, Reordered definition definition' → Mirrors scope definition output level →
      ∃ level', Mirrors scope definition' output level' ∧ ReorderedLevel level level'
  | _, _, _, _, .level keys distinct each order constantOrder, .level mirrored => by
    obtain ⟨middle, hm, hr⟩ := each.mirrors mirrored
    -- the nodes change places with the fields that they mirror
    obtain ⟨nodes', hn, hp⟩ := hm.perm constantOrder order
    have ht := mirrored.targets_eq ▸ keys
    exact ⟨_, .level hn, .mk ht distinct mirrored.fresh hr hp constantOrder⟩

theorem ReorderedFields.mirrors {constants : Fields} :
    ∀ {fields fields' : List (String × Spec)} {output : Fragment} {nodes : List Node},
      ReorderedFields fields fields' → MirrorsFields scope constants output fields nodes →
        ∃ nodes', MirrorsFields scope constants output fields' nodes' ∧ ReorderedNodes nodes nodes'
  | _, _, _, _, .nil, .nil => ⟨[], .nil, .nil⟩
  | _, _, _, _, .cons head tail, .cons fresh declared mirrored rest => by
    obtain ⟨strategy', hs, hrs⟩ := head.mirrors mirrored
    obtain ⟨nodes', hn, hrn⟩ := tail.mirrors rest
    exact ⟨_, .cons fresh declared hs hn, .cons hrs hrn⟩

theorem ReorderedSpec.mirrors {key : String} : ∀ {spec spec' : Spec} {target : Fragment}
    {strategy : Strategy}, ReorderedSpec spec spec' → MirrorsSpec scope key spec target strategy →
      ∃ strategy', MirrorsSpec scope key spec' target strategy' ∧
        ReorderedStrategy strategy strategy'
  | _, _, _, _, .kept, mirrored => ⟨_, mirrored, .kept⟩
  | _, _, _, _, .single inner, .object kind mirrored => by
    obtain ⟨level', hl, hr⟩ := inner.mirrors mirrored
    exact ⟨_, .object kind hl, .object hr⟩
  | _, _, _, _, .single inner, .array kind itemsOf (.cons mirrored .nil) => by
    obtain ⟨level', hl, hr⟩ := inner.mirrors mirrored
    exact ⟨_, .array kind itemsOf (.cons hl .nil), .array (.cons hr .nil)⟩
  | _, _, _, _, .many each, .array kind itemsOf mirrored => by
    obtain ⟨levels', hl, hr⟩ := each.mirrors mirrored
    exact ⟨_, .array kind itemsOf hl, .array hr⟩

theorem ReorderedDefinitions.mirrors : ∀ {definitions definitions' : List Definition}
    {items : Fragment} {levels : List Level}, ReorderedDefinitions definitions definitions' →
      MirrorsLevels scope items definitions levels →
        ∃ levels', MirrorsLevels scope items definitions' levels' ∧ ReorderedLevels levels levels'
  | _, _, _, _, .nil, .nil => ⟨[], .nil, .nil⟩
  | _, _, _, _, .cons head tail, .cons mirrored rest => by
    obtain ⟨level', hl, hr⟩ := head.mirrors mirrored
    obtain ⟨levels', hls, hrs⟩ := tail.mirrors rest
    exact ⟨_, .cons hl hls, .cons hr hrs⟩

end

/-- If a definition is built then the reordered one is, and the plan is reordered likewise. -/
theorem Reordered.build {definition definition' : Definition} {plan : Level}
    (h : Reordered definition definition')
    (hp : (scope.build definition output).outcome = .ok plan) :
    ∃ plan', (scope.build definition' output).outcome = .ok plan' ∧ ReorderedLevel plan plan' := by
  obtain ⟨plan', hm, hr⟩ := h.mirrors (build_eq_ok.mp hp)
  exact ⟨plan', build_eq_ok.mpr hm, hr⟩

end Build

end Reshape
