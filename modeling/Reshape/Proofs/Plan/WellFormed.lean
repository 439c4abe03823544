import Reshape.Proofs.Plan.Mirror
import Reshape.Proofs.Plan.Tree

/-!
# Well-formed definitions

When a definition is well formed in a scope against an output fragment, field by field and without
reference to any plan. Building succeeds exactly on the well-formed definitions, and the plan has a
node for each field of each level. The order in which faults are found is not described here.
-/
namespace Reshape

/-- A resolver knows a name when it finds a transform for it. -/
def Resolver.Knows (resolver : Resolver) (name : String) : Prop :=
  ∃ transform, resolver.find? name = some transform

/-- The input schema declares a source by a readable fragment. -/
def Scope.HasSource (scope : Scope) (name : String) : Prop :=
  ∃ fragment, scope.input.Declares name fragment

mutual

/-- A definition is well formed when each of its fields is. -/
inductive WellFormed (scope : Scope) : Definition → Fragment → Prop where
  | level {constants : Fields} {fields : List (String × Spec)} {output : Fragment}
      (each : ∀ key spec, (key, spec) ∈ fields →
        WellFormedField scope constants output key spec) :
      WellFormed scope (.level constants fields) output

/-- A field is no constant of its level, the output fragment declares its target, and its rule is
well formed for that. -/
inductive WellFormedField (scope : Scope) : Fields → Fragment → String → Spec → Prop where
  | mk {constants : Fields} {output target : Fragment} {key : String} {spec : Spec}
      (fresh : key ∉ constants.keys) (declared : output.Declares key target)
      (rule : WellFormedSpec scope spec target) :
      WellFormedField scope constants output key spec

/-- Sources are declared and names are known; a nested body is one well-formed definition for an
object, or any number of them for an array. -/
inductive WellFormedSpec (scope : Scope) : Spec → Fragment → Prop where
  | copy {name : String} {target : Fragment} (source : scope.HasSource name) :
      WellFormedSpec scope (.copy name) target
  | inlineLookup {name : String} {table : Fields} {target : Fragment}
      (source : scope.HasSource name) : WellFormedSpec scope (.lookup name (.inline table)) target
  | namedLookup {name table : String} {target : Fragment} (source : scope.HasSource name)
      (known : scope.lookups.Knows table) : WellFormedSpec scope (.lookup name (.named table)) target
  | functionOfField {name function : String} {target : Fragment} (source : scope.HasSource name)
      (known : scope.functions.Knows function) :
      WellFormedSpec scope (.function (some name) function) target
  | functionOfInput {function : String} {target : Fragment}
      (known : scope.functions.Knows function) :
      WellFormedSpec scope (.function none function) target
  | object {definition : Definition} {target : Fragment}
      (kind : target.kind = some (.text "object")) (inner : WellFormed scope definition target) :
      WellFormedSpec scope (.nested (.single definition)) target
  | array {body : Nested} {target items : Fragment}
      (kind : target.kind = some (.text "array")) (itemsOf : target.HasItems items)
      (each : ∀ definition ∈ body.toList, WellFormed scope definition items) :
      WellFormedSpec scope (.nested body) target

end

mutual

/-- How many fields a definition has, those of nested definitions included. -/
def Definition.fieldCount : Definition → Nat
  | .level _ fields => fieldsCount fields

def fieldsCount : List (String × Spec) → Nat
  | [] => 0
  | (_, spec) :: rest => 1 + spec.fieldCount + fieldsCount rest

/-- The fields below a field of this rule. -/
def Spec.fieldCount : Spec → Nat
  | .nested body => body.fieldCount
  | _ => 0

def Nested.fieldCount : Nested → Nat
  | .single definition => definition.fieldCount
  | .many definitions => definitionsFieldCount definitions

def definitionsFieldCount : List Definition → Nat
  | [] => 0
  | definition :: rest => definition.fieldCount + definitionsFieldCount rest

end

theorem Nested.fieldCount_eq (body : Nested) :
    body.fieldCount = definitionsFieldCount body.toList := by
  cases body with
  | single definition => rfl
  | many definitions => rfl

variable {scope : Scope}

mutual

theorem Mirrors.wellFormed {definition : Definition} {output : Fragment} {level : Level} :
    Mirrors scope definition output level → WellFormed scope definition output
  | .level each => .level fun _ _ hm => each.wellFormed hm

theorem MirrorsFields.wellFormed {constants : Fields} {output : Fragment}
    {fields : List (String × Spec)} {nodes : List Node} {key : String} {spec : Spec} :
    MirrorsFields scope constants output fields nodes → (key, spec) ∈ fields →
      WellFormedField scope constants output key spec
  | .nil, hm => by cases hm
  | .cons fresh declared head tail, hm => by
    rcases List.mem_cons.mp hm with he | hr
    · cases he
      exact .mk fresh declared head.wellFormed
    · exact tail.wellFormed hr

theorem MirrorsSpec.wellFormed {key : String} {spec : Spec} {target : Fragment}
    {strategy : Strategy} :
    MirrorsSpec scope key spec target strategy → WellFormedSpec scope spec target
  | .copy bound => .copy ⟨_, bound⟩
  | .lookup bound found => by
    cases found with
    | inline => exact .inlineLookup ⟨_, bound⟩
    | named known => exact .namedLookup ⟨_, bound⟩ ⟨_, known⟩
  | .functionOfField bound known => .functionOfField ⟨_, bound⟩ ⟨_, known⟩
  | .functionOfInput known => .functionOfInput ⟨_, known⟩
  | .object kind inner => .object kind inner.wellFormed
  | .array kind itemsOf each => .array kind itemsOf fun _ hm => each.wellFormed hm

theorem MirrorsLevels.wellFormed {items : Fragment} {definitions : List Definition}
    {levels : List Level} {definition : Definition} :
    MirrorsLevels scope items definitions levels → definition ∈ definitions →
      WellFormed scope definition items
  | .nil, hm => by cases hm
  | .cons head tail, hm => by
    rcases List.mem_cons.mp hm with rfl | hr
    · exact head.wellFormed
    · exact tail.wellFormed hr

end

mutual

/-- A well-formed definition has a plan that mirrors it. -/
theorem WellFormed.exists_mirrors : ∀ {definition : Definition} {output : Fragment},
    WellFormed scope definition output → ∃ level, Mirrors scope definition output level
  | .level constants fields, output, h => by
    cases h with
    | level each =>
      obtain ⟨nodes, hn⟩ := exists_mirrorsFields each
      exact ⟨_, .level hn⟩

theorem exists_mirrorsFields {constants : Fields} {output : Fragment} :
    ∀ {fields : List (String × Spec)},
      (∀ key spec, (key, spec) ∈ fields → WellFormedField scope constants output key spec) →
        ∃ nodes, MirrorsFields scope constants output fields nodes
  | [], _ => ⟨[], .nil⟩
  | (key, spec) :: rest, h => by
    cases h key spec List.mem_cons_self with
    | mk fresh declared rule =>
      obtain ⟨strategy, hs⟩ := exists_mirrorsSpec key rule
      obtain ⟨nodes, hn⟩ :=
        exists_mirrorsFields fun key spec hm => h key spec (List.mem_cons_of_mem _ hm)
      exact ⟨_, .cons fresh declared hs hn⟩

theorem exists_mirrorsSpec (key : String) : ∀ {spec : Spec} {target : Fragment},
    WellFormedSpec scope spec target → ∃ strategy, MirrorsSpec scope key spec target strategy
  | .nested body, target, h => exists_mirrorsNested key h
  | .copy name, target, h => by
    cases h with
    | copy source =>
      obtain ⟨_, hd⟩ := source
      exact ⟨_, .copy hd⟩
  | .lookup name table, target, h => by
    cases h with
    | inlineLookup source =>
      obtain ⟨_, hd⟩ := source
      exact ⟨_, .lookup hd .inline⟩
    | namedLookup source known =>
      obtain ⟨_, hd⟩ := source
      obtain ⟨_, hk⟩ := known
      exact ⟨_, .lookup hd (.named hk)⟩
  | .function source function, target, h => by
    cases h with
    | functionOfField source known =>
      obtain ⟨_, hd⟩ := source
      obtain ⟨_, hk⟩ := known
      exact ⟨_, .functionOfField hd hk⟩
    | functionOfInput known =>
      obtain ⟨_, hk⟩ := known
      exact ⟨_, .functionOfInput hk⟩

theorem exists_mirrorsNested (key : String) : ∀ {body : Nested} {target : Fragment},
    WellFormedSpec scope (.nested body) target →
      ∃ strategy, MirrorsSpec scope key (.nested body) target strategy
  | .single definition, target, h => by
    cases h with
    | object kind inner =>
      obtain ⟨_, hl⟩ := inner.exists_mirrors
      exact ⟨_, .object kind hl⟩
    | array kind itemsOf each =>
      have hw := each definition List.mem_cons_self
      obtain ⟨_, hl⟩ := hw.exists_mirrors
      exact ⟨_, .array kind itemsOf (.cons hl .nil)⟩
  | .many definitions, target, h => by
    cases h with
    | array kind itemsOf each =>
      obtain ⟨_, hl⟩ := exists_mirrorsLevels each
      exact ⟨_, .array kind itemsOf hl⟩

theorem exists_mirrorsLevels {items : Fragment} : ∀ {definitions : List Definition},
    (∀ definition ∈ definitions, WellFormed scope definition items) →
      ∃ levels, MirrorsLevels scope items definitions levels
  | [], _ => ⟨[], .nil⟩
  | definition :: rest, h => by
    obtain ⟨_, hl⟩ := (h definition List.mem_cons_self).exists_mirrors
    obtain ⟨_, hr⟩ := exists_mirrorsLevels fun d hm => h d (List.mem_cons_of_mem _ hm)
    exact ⟨_, .cons hl hr⟩

end

mutual

/-- A plan has as many nodes, at all depths, as the definition that it mirrors has fields. -/
theorem Mirrors.nodeCount {definition : Definition} {output : Fragment} {level : Level} :
    Mirrors scope definition output level → level.nodeCount = definition.fieldCount
  | .level each => each.nodesCount

theorem MirrorsFields.nodesCount {constants : Fields} {output : Fragment}
    {fields : List (String × Spec)} {nodes : List Node} :
    MirrorsFields scope constants output fields nodes → nodesCount nodes = fieldsCount fields
  | .nil => rfl
  | .cons _ _ head tail => by
    rw [Reshape.nodesCount, fieldsCount, Node.count, head.count, tail.nodesCount]

theorem MirrorsSpec.count {key : String} {spec : Spec} {target : Fragment}
    {strategy : Strategy} :
    MirrorsSpec scope key spec target strategy → strategy.count = spec.fieldCount
  | .copy _ => rfl
  | .lookup _ _ => rfl
  | .functionOfField _ _ => rfl
  | .functionOfInput _ => rfl
  | .object _ inner => inner.nodeCount
  | .array _ _ each => by
    rw [Strategy.count, Spec.fieldCount, Nested.fieldCount_eq, each.levelsCount]

theorem MirrorsLevels.levelsCount {items : Fragment} {definitions : List Definition}
    {levels : List Level} :
    MirrorsLevels scope items definitions levels →
      levelsCount levels = definitionsFieldCount definitions
  | .nil => rfl
  | .cons head tail => by
    rw [Reshape.levelsCount, definitionsFieldCount, head.nodeCount, tail.levelsCount]

end

/-- Building succeeds exactly on the well-formed definitions, and then with the one plan that mirrors
the definition, which has a node for each field at any depth. -/
theorem build_ok_iff_wellFormed (scope : Scope) (definition : Definition) (output : Fragment) :
    ((∃ plan, (scope.build definition output).outcome = .ok plan) ↔
      WellFormed scope definition output) ∧
    ∀ plan, (scope.build definition output).outcome = .ok plan ↔
      Mirrors scope definition output plan ∧ plan.nodeCount = definition.fieldCount := by
  refine ⟨⟨?_, ?_⟩, fun plan => ?_⟩
  · rintro ⟨plan, hp⟩
    exact (build_eq_ok.mp hp).wellFormed
  · intro hw
    obtain ⟨plan, hm⟩ := hw.exists_mirrors
    exact ⟨plan, build_eq_ok.mpr hm⟩
  · rw [build_eq_ok]
    exact ⟨fun hm => ⟨hm, hm.nodeCount⟩, And.left⟩

end Reshape
