import Reshape.Plan.Build
import Reshape.Proofs.Fields
import Reshape.Proofs.Plan.Tree
import Reshape.Proofs.Schema

/-!
# Plans that mirror a definition

What it is for a plan to mirror a definition in a scope, constructor by constructor: the same tree in
the same order, with every name replaced by what it stands for. Building succeeds with a plan exactly
when that plan mirrors the definition. The relation says nothing about which fault ends a building
that does not succeed, nor about what is noted on the way.
-/
namespace Reshape

/-- The transform of a lookup: the table that is written out, or the one known under a name, which
then reports unknown values against the target. -/
inductive Scope.Finds (scope : Scope) (key : String) : TableRef → Transform → Prop where
  | inline {table : Fields} : scope.Finds key (.inline table) (Transform.lookup key table)
  | named {name : String} {table : Transform} (known : scope.lookups.find? name = some table) :
      scope.Finds key (.named name) (table.forTarget key)

mutual

/-- A level mirrors a definition against an output fragment. -/
inductive Mirrors (scope : Scope) : Definition → Fragment → Level → Prop where
  | level {constants : Fields} {fields : List (String × Spec)} {output : Fragment}
      {nodes : List Node} (each : MirrorsFields scope constants output fields nodes) :
      Mirrors scope (.level constants fields) output (.mk constants nodes)

/-- Nodes mirror fields one by one; a field is no constant, and its target is declared. -/
inductive MirrorsFields (scope : Scope) :
    Fields → Fragment → List (String × Spec) → List Node → Prop where
  | nil {constants : Fields} {output : Fragment} : MirrorsFields scope constants output [] []
  | cons {constants : Fields} {output target : Fragment} {key : String} {spec : Spec}
      {strategy : Strategy} {fields : List (String × Spec)} {nodes : List Node}
      (fresh : key ∉ constants.keys) (declared : output.Declares key target)
      (head : MirrorsSpec scope key spec target strategy)
      (tail : MirrorsFields scope constants output fields nodes) :
      MirrorsFields scope constants output ((key, spec) :: fields)
        (.mk key target strategy :: nodes)

/-- A strategy mirrors the rule of a field whose target has this fragment. -/
inductive MirrorsSpec (scope : Scope) : String → Spec → Fragment → Strategy → Prop where
  | copy {key name : String} {target fragment : Fragment}
      (bound : scope.input.Declares name fragment) :
      MirrorsSpec scope key (.copy name) target (.copy ⟨name, fragment⟩)
  | lookup {key name : String} {target fragment : Fragment} {table : TableRef}
      {transform : Transform} (bound : scope.input.Declares name fragment)
      (found : scope.Finds key table transform) :
      MirrorsSpec scope key (.lookup name table) target (.lookup ⟨name, fragment⟩ transform)
  | functionOfField {key name function : String} {target fragment : Fragment}
      {transform : Transform} (bound : scope.input.Declares name fragment)
      (known : scope.functions.find? function = some transform) :
      MirrorsSpec scope key (.function (some name) function) target
        (.functionOfField ⟨name, fragment⟩ transform)
  | functionOfInput {key function : String} {target : Fragment} {transform : Transform}
      (known : scope.functions.find? function = some transform) :
      MirrorsSpec scope key (.function none function) target (.functionOfInput transform)
  | object {key : String} {target : Fragment} {definition : Definition} {level : Level}
      (kind : target.kind = some (.text "object")) (inner : Mirrors scope definition target level) :
      MirrorsSpec scope key (.nested (.single definition)) target (.nestedObject level)
  | array {key : String} {target items : Fragment} {body : Nested} {levels : List Level}
      (kind : target.kind = some (.text "array")) (itemsOf : target.HasItems items)
      (each : MirrorsLevels scope items body.toList levels) :
      MirrorsSpec scope key (.nested body) target (.nestedArray levels)

/-- Levels mirror the definitions of an array one by one, all against the fragment of its items. -/
inductive MirrorsLevels (scope : Scope) : Fragment → List Definition → List Level → Prop where
  | nil {items : Fragment} : MirrorsLevels scope items [] []
  | cons {items : Fragment} {definition : Definition} {level : Level}
      {definitions : List Definition} {levels : List Level}
      (head : Mirrors scope definition items level)
      (tail : MirrorsLevels scope items definitions levels) :
      MirrorsLevels scope items (definition :: definitions) (level :: levels)

end

/-- A source is bound exactly when the input schema declares it. -/
theorem bind_source_eq_ok {scope : Scope} {key name : String} {source : Binding} :
    scope.bind key name = .ok source ↔
      ∃ fragment, scope.input.Declares name fragment ∧ source = ⟨name, fragment⟩ := by
  simp only [Scope.bind, Outcome.bind_eq_ok]
  constructor
  · rintro ⟨_ | fragment, hp, h⟩
    · cases h
    · cases h
      exact ⟨fragment, Fragment.property_eq_ok_some.mp hp, rfl⟩
  · rintro ⟨fragment, hd, rfl⟩
    exact ⟨some fragment, Fragment.property_eq_ok_some.mpr hd, rfl⟩

theorem outcome_resolve_eq_ok {resolver : Resolver} {kind : ResolverKind} {name : String}
    {transform : Transform} :
    (resolver.resolve kind name).outcome = .ok transform ↔
      resolver.find? name = some transform := by
  cases resolver with
  | unconfigured =>
    constructor
    · intro h; cases h
    · intro h; cases h
  | known find? =>
    simp only [Resolver.resolve, Resolver.find?]
    cases find? name with
    | none =>
      constructor
      · intro h; cases h
      · intro h; cases h
    | some found =>
      change Except.ok found = .ok transform ↔ _
      rw [Except.ok.injEq, Option.some.injEq]

theorem outcome_table_eq_ok {scope : Scope} {key : String} {table : TableRef}
    {transform : Transform} :
    (scope.table key table).outcome = .ok transform ↔ scope.Finds key table transform := by
  cases table with
  | inline table =>
    constructor
    · intro h; cases h; exact .inline
    · intro h; cases h; rfl
  | named name =>
    simp only [Scope.table, Journal.outcome_bind, Outcome.bind_eq_ok, outcome_resolve_eq_ok]
    constructor
    · rintro ⟨found, hf, h⟩
      cases h
      exact .named hf
    · intro h
      cases h with
      | named known => exact ⟨_, known, rfl⟩

/-- A node is built exactly when its target is declared and its strategy is built for that. -/
theorem outcome_node_eq_ok {key : String} {output : Fragment}
    {build : Fragment → Journal Event Error Strategy} {node : Node} :
    (Scope.node key output build).outcome = .ok node ↔
      ∃ target strategy, output.Declares key target ∧ (build target).outcome = .ok strategy ∧
        node = .mk key target strategy := by
  simp only [Scope.node, Journal.outcome_bind, Journal.outcome_lift, Outcome.bind_eq_ok]
  constructor
  · rintro ⟨_ | target, hp, h⟩
    · cases h
    · simp only [Journal.outcome_bind, Outcome.bind_eq_ok] at h
      obtain ⟨strategy, hs, _, _, h⟩ := h
      cases h
      exact ⟨target, strategy, Fragment.property_eq_ok_some.mp hp, hs, rfl⟩
  · rintro ⟨target, strategy, hd, hs, rfl⟩
    refine ⟨some target, Fragment.property_eq_ok_some.mpr hd, ?_⟩
    simp only [Journal.outcome_bind, Outcome.bind_eq_ok]
    exact ⟨strategy, hs, (), rfl, rfl⟩

/-- Only objects and arrays have nested bodies. -/
theorem MirrorsSpec.container_ne_other {scope : Scope} {key : String} {body : Nested}
    {target : Fragment} {strategy : Strategy}
    (h : MirrorsSpec scope key (.nested body) target strategy) : target.container ≠ .other := by
  cases h with
  | object kind _ =>
    rw [Fragment.container_eq_object.mpr kind]
    decide
  | array kind _ _ =>
    rw [Fragment.container_eq_array.mpr kind]
    decide

mutual

/-- Building a level succeeds with exactly the level that mirrors the definition. -/
theorem build_eq_ok {scope : Scope} : ∀ {definition : Definition} {output : Fragment}
    {level : Level}, (scope.build definition output).outcome = .ok level ↔
      Mirrors scope definition output level
  | .level constants fields, output, level => by
    simp only [Scope.build, Journal.outcome_bind, Outcome.bind_eq_ok, buildFields_eq_ok]
    constructor
    · rintro ⟨nodes, hn, h⟩
      cases h
      exact .level hn
    · intro h
      cases h with
      | level each => exact ⟨_, each, rfl⟩

theorem buildFields_eq_ok {scope : Scope} {constants : Fields} :
    ∀ {fields : List (String × Spec)} {output : Fragment} {nodes : List Node},
      (scope.buildFields constants fields output).outcome = .ok nodes ↔
        MirrorsFields scope constants output fields nodes
  | [], output, nodes => by
    constructor
    · intro h; cases h; exact .nil
    · intro h; cases h; rfl
  | (key, spec) :: rest, output, nodes => by
    rw [Scope.buildFields]
    cases hc : constants.contains key with
    | true =>
      constructor
      · intro h; cases h
      · intro h
        cases h with
        | cons fresh _ _ _ =>
          rw [Fields.contains_eq_false_iff.mpr fresh] at hc
          cases hc
    | false =>
      simp only [Bool.false_eq_true, ↓reduceIte, Journal.outcome_bind, Outcome.bind_eq_ok,
        outcome_node_eq_ok, buildStrategy_eq_ok, buildFields_eq_ok]
      constructor
      · rintro ⟨_, ⟨target, strategy, hd, hs, rfl⟩, nodes, hn, h⟩
        cases h
        exact .cons (Fields.contains_eq_false_iff.mp hc) hd hs hn
      · intro h
        cases h with
        | cons _ declared head tail => exact ⟨_, ⟨_, _, declared, head, rfl⟩, _, tail, rfl⟩

theorem buildStrategy_eq_ok {scope : Scope} {key : String} : ∀ {spec : Spec} {target : Fragment}
    {strategy : Strategy}, (scope.buildStrategy key spec target).outcome = .ok strategy ↔
      MirrorsSpec scope key spec target strategy
  | .nested body, target, strategy => by
    rw [Scope.buildStrategy, buildNested_eq_ok]
  | .copy name, target, strategy => by
    simp only [Scope.buildStrategy, Journal.outcome_bind, Journal.outcome_lift,
      Outcome.bind_eq_ok, bind_source_eq_ok]
    constructor
    · rintro ⟨_, ⟨fragment, hd, rfl⟩, h⟩
      cases h
      exact .copy hd
    · intro h
      cases h with
      | copy bound => exact ⟨_, ⟨_, bound, rfl⟩, rfl⟩
  | .lookup name table, target, strategy => by
    simp only [Scope.buildStrategy, Journal.outcome_bind, Journal.outcome_lift,
      Outcome.bind_eq_ok, bind_source_eq_ok, outcome_table_eq_ok]
    constructor
    · rintro ⟨_, ⟨fragment, hd, rfl⟩, transform, hf, h⟩
      cases h
      exact .lookup hd hf
    · intro h
      cases h with
      | lookup bound found => exact ⟨_, ⟨_, bound, rfl⟩, _, found, rfl⟩
  | .function (some name) function, target, strategy => by
    simp only [Scope.buildStrategy, Journal.outcome_bind, Journal.outcome_lift,
      Outcome.bind_eq_ok, bind_source_eq_ok, outcome_resolve_eq_ok]
    constructor
    · rintro ⟨_, ⟨fragment, hd, rfl⟩, transform, hf, h⟩
      cases h
      exact .functionOfField hd hf
    · intro h
      cases h with
      | functionOfField bound known => exact ⟨_, ⟨_, bound, rfl⟩, _, known, rfl⟩
  | .function none function, target, strategy => by
    simp only [Scope.buildStrategy, Journal.outcome_bind, Outcome.bind_eq_ok,
      outcome_resolve_eq_ok]
    constructor
    · rintro ⟨transform, hf, h⟩
      cases h
      exact .functionOfInput hf
    · intro h
      cases h with
      | functionOfInput known => exact ⟨_, known, rfl⟩

theorem buildNested_eq_ok {scope : Scope} {key : String} : ∀ {body : Nested} {target : Fragment}
    {strategy : Strategy}, (scope.buildNested key body target).outcome = .ok strategy ↔
      MirrorsSpec scope key (.nested body) target strategy
  | .single definition, target, strategy => by
    rw [Scope.buildNested]
    cases hc : target.container with
    | array =>
      simp only [Journal.outcome_bind, Journal.outcome_lift, Outcome.bind_eq_ok, build_eq_ok,
        Fragment.itemsOrEmpty_eq_ok]
      constructor
      · rintro ⟨items, hi, _, _, level, hl, h⟩
        cases h
        exact .array (Fragment.container_eq_array.mp hc) hi (.cons hl .nil)
      · intro h
        cases h with
        | object kind _ =>
          rw [Fragment.container_eq_object.mpr kind] at hc
          cases hc
        | array _ itemsOf each =>
          cases each with
          | cons head tail =>
            cases tail
            exact ⟨_, itemsOf, (), rfl, _, head, rfl⟩
    | object =>
      simp only [Journal.outcome_bind, Outcome.bind_eq_ok, build_eq_ok]
      constructor
      · rintro ⟨level, hl, h⟩
        cases h
        exact .object (Fragment.container_eq_object.mp hc) hl
      · intro h
        cases h with
        | object _ inner => exact ⟨_, inner, rfl⟩
        | array kind _ _ =>
          rw [Fragment.container_eq_array.mpr kind] at hc
          cases hc
    | other => exact ⟨fun h => (by cases h), fun h => absurd hc h.container_ne_other⟩
  | .many definitions, target, strategy => by
    rw [Scope.buildNested]
    cases hc : target.container with
    | array =>
      simp only [Journal.outcome_bind, Journal.outcome_lift, Outcome.bind_eq_ok,
        buildLevels_eq_ok, Fragment.itemsOrEmpty_eq_ok]
      constructor
      · rintro ⟨items, hi, _, _, levels, hl, h⟩
        cases h
        exact .array (Fragment.container_eq_array.mp hc) hi hl
      · intro h
        cases h with
        | array _ itemsOf each => exact ⟨_, itemsOf, (), rfl, _, each, rfl⟩
    | object =>
      constructor
      · intro h; cases h
      · intro h
        cases h with
        | array kind _ _ =>
          rw [Fragment.container_eq_array.mpr kind] at hc
          cases hc
    | other => exact ⟨fun h => (by cases h), fun h => absurd hc h.container_ne_other⟩

theorem buildLevels_eq_ok {scope : Scope} : ∀ {definitions : List Definition} {items : Fragment}
    {levels : List Level}, (scope.buildLevels definitions items).outcome = .ok levels ↔
      MirrorsLevels scope items definitions levels
  | [], items, levels => by
    constructor
    · intro h; cases h; exact .nil
    · intro h; cases h; rfl
  | definition :: rest, items, levels => by
    simp only [Scope.buildLevels, Journal.outcome_bind, Outcome.bind_eq_ok, build_eq_ok,
      buildLevels_eq_ok]
    constructor
    · rintro ⟨level, hl, levels, hr, h⟩
      cases h
      exact .cons hl hr
    · intro h
      cases h with
      | cons head tail => exact ⟨_, head, _, tail, rfl⟩

end

variable {scope : Scope} {node : Node}

/-- The targets of a level are the keys of its definition, in order. -/
theorem MirrorsFields.targets_eq {constants : Fields} {output : Fragment}
    {fields : List (String × Spec)} {nodes : List Node}
    (h : MirrorsFields scope constants output fields nodes) :
    nodes.map Node.target = fields.map Prod.fst := by
  induction fields generalizing nodes with
  | nil => cases h; rfl
  | cons field fields ih =>
    cases h with
    | cons _ _ _ tail => rw [List.map_cons, List.map_cons, ih tail, Node.target]

theorem MirrorsFields.fresh {constants : Fields} {output : Fragment}
    {fields : List (String × Spec)} {nodes : List Node}
    (h : MirrorsFields scope constants output fields nodes) :
    ∀ node ∈ nodes, node.target ∉ constants.keys := by
  induction fields generalizing nodes with
  | nil => cases h; exact List.forall_mem_nil _
  | cons field fields ih =>
    cases h with
    | cons fresh _ _ tail => exact List.forall_mem_cons.mpr ⟨fresh, ih tail⟩

mutual

/-- Every node of a mirroring plan, at any depth, mirrors some rule for its own target. -/
theorem Mirrors.rule_of_mem {definition : Definition} {output : Fragment} {level : Level} :
    Mirrors scope definition output level → node ∈ level.preorder →
      ∃ spec, MirrorsSpec scope node.target spec node.fragment node.strategy
  | .level each, hm => each.rule_of_mem hm

theorem MirrorsFields.rule_of_mem {constants : Fields} {output : Fragment}
    {fields : List (String × Spec)} {nodes : List Node} :
    MirrorsFields scope constants output fields nodes → node ∈ preorderOfNodes nodes →
      ∃ spec, MirrorsSpec scope node.target spec node.fragment node.strategy
  | .nil, hm => by cases hm
  | .cons _ _ head tail, hm => by
    rw [preorderOfNodes, Node.preorder, List.cons_append, List.mem_cons, List.mem_append] at hm
    rcases hm with rfl | hb | ht
    · exact ⟨_, head⟩
    · exact head.rule_of_mem hb
    · exact tail.rule_of_mem ht

theorem MirrorsSpec.rule_of_mem {key : String} {spec : Spec} {target : Fragment}
    {strategy : Strategy} :
    MirrorsSpec scope key spec target strategy → node ∈ strategy.preorder →
      ∃ spec, MirrorsSpec scope node.target spec node.fragment node.strategy
  | .copy _, hm => by cases hm
  | .lookup _ _, hm => by cases hm
  | .functionOfField _ _, hm => by cases hm
  | .functionOfInput _, hm => by cases hm
  | .object _ inner, hm => inner.rule_of_mem hm
  | .array _ _ each, hm => each.rule_of_mem hm

theorem MirrorsLevels.rule_of_mem {items : Fragment} {definitions : List Definition}
    {levels : List Level} :
    MirrorsLevels scope items definitions levels → node ∈ preorderOfLevels levels →
      ∃ spec, MirrorsSpec scope node.target spec node.fragment node.strategy
  | .nil, hm => by cases hm
  | .cons head tail, hm => by
    rw [preorderOfLevels, List.mem_append] at hm
    rcases hm with hh | ht
    · exact head.rule_of_mem hh
    · exact tail.rule_of_mem ht

end

end Reshape
