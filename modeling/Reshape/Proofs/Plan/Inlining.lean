import Reshape.Plan.Build
import Reshape.Proofs.Plan.Mirror
import Reshape.Proofs.Plan.Recast

/-!
# Named tables written out

A definition in which some names of lookup tables are replaced by the tables they stand for, at any
depth. Such a definition is built as the original is, to a plan that has other transforms at the
replaced places and nothing else that is other, or fails like it; and the plans make the same of every
input. The names must be known: one that is not is left as it is.
-/
namespace Reshape

mutual

/-- A definition with the tables written out for some of the names that the tables have. -/
inductive Inlined (tables : LookupTables) : Definition → Definition → Prop where
  | level {constants : Fields} {fields fields' : List (String × Spec)}
      (each : InlinedFields tables fields fields') :
      Inlined tables (.level constants fields) (.level constants fields')

inductive InlinedFields (tables : LookupTables) :
    List (String × Spec) → List (String × Spec) → Prop where
  | nil : InlinedFields tables [] []
  | cons (key : String) {spec spec' : Spec} {fields fields' : List (String × Spec)}
      (head : InlinedSpec tables spec spec') (tail : InlinedFields tables fields fields') :
      InlinedFields tables ((key, spec) :: fields) ((key, spec') :: fields')

/-- A rule is kept, or its table is written out, or this happens in its nested definitions. -/
inductive InlinedSpec (tables : LookupTables) : Spec → Spec → Prop where
  | kept {spec : Spec} : InlinedSpec tables spec spec
  | table {source name : String} {table : Fields} (known : tables.table? name = some table) :
      InlinedSpec tables (.lookup source (.named name)) (.lookup source (.inline table))
  | single {definition definition' : Definition} (inner : Inlined tables definition definition') :
      InlinedSpec tables (.nested (.single definition)) (.nested (.single definition'))
  | many {definitions definitions' : List Definition}
      (each : InlinedList tables definitions definitions') :
      InlinedSpec tables (.nested (.many definitions)) (.nested (.many definitions'))

inductive InlinedList (tables : LookupTables) : List Definition → List Definition → Prop where
  | nil : InlinedList tables [] []
  | cons {definition definition' : Definition} {definitions definitions' : List Definition}
      (head : Inlined tables definition definition')
      (tail : InlinedList tables definitions definitions') :
      InlinedList tables (definition :: definitions) (definition' :: definitions')

end

mutual

/-- The plans of two definitions are equal but for the transforms of the fields whose table is a name
in the one definition and written out in the other. -/
inductive PlanInlined (tables : LookupTables) : Definition → Definition → Level → Level → Prop where
  | level {constants : Fields} {fields fields' : List (String × Spec)} {nodes nodes' : List Node}
      (each : NodesInlined tables fields fields' nodes nodes') :
      PlanInlined tables (.level constants fields) (.level constants fields')
        (.mk constants nodes) (.mk constants nodes')

inductive NodesInlined (tables : LookupTables) : List (String × Spec) → List (String × Spec) →
    List Node → List Node → Prop where
  | nil : NodesInlined tables [] [] [] []
  | cons {key : String} {target : Fragment} {spec spec' : Spec} {strategy strategy' : Strategy}
      {fields fields' : List (String × Spec)} {nodes nodes' : List Node}
      (head : StrategyInlined tables key spec spec' strategy strategy')
      (tail : NodesInlined tables fields fields' nodes nodes') :
      NodesInlined tables ((key, spec) :: fields) ((key, spec') :: fields')
        (.mk key target strategy :: nodes) (.mk key target strategy' :: nodes')

/-- For equal rules there are equal strategies. A replaced table is found under its name and then
reports against the target, or is made for the target at once. -/
inductive StrategyInlined (tables : LookupTables) : String → Spec → Spec → Strategy → Strategy →
    Prop where
  | kept {key : String} {spec : Spec} {strategy : Strategy} :
      StrategyInlined tables key spec spec strategy strategy
  | table {key source name : String} {binding : Binding} {table : Fields}
      (known : tables.table? name = some table) :
      StrategyInlined tables key (.lookup source (.named name)) (.lookup source (.inline table))
        (.lookup binding ((Transform.lookup name table).forTarget key))
        (.lookup binding (Transform.lookup key table))
  | object {key : String} {definition definition' : Definition} {level level' : Level}
      (inner : PlanInlined tables definition definition' level level') :
      StrategyInlined tables key (.nested (.single definition)) (.nested (.single definition'))
        (.nestedObject level) (.nestedObject level')
  | array {key : String} {body body' : Nested} {levels levels' : List Level}
      (each : LevelsInlined tables body.toList body'.toList levels levels') :
      StrategyInlined tables key (.nested body) (.nested body')
        (.nestedArray levels) (.nestedArray levels')

inductive LevelsInlined (tables : LookupTables) : List Definition → List Definition →
    List Level → List Level → Prop where
  | nil : LevelsInlined tables [] [] [] []
  | cons {definition definition' : Definition} {level level' : Level}
      {definitions definitions' : List Definition} {levels levels' : List Level}
      (head : PlanInlined tables definition definition' level level')
      (tail : LevelsInlined tables definitions definitions' levels levels') :
      LevelsInlined tables (definition :: definitions) (definition' :: definitions')
        (level :: levels) (level' :: levels')

end

/-- A table that reports against a target in place of its own name is the table made for the
target. -/
theorem Transform.call_forTarget_lookup (name target : String) (table : Fields) :
    ((Transform.lookup name table).forTarget target).call =
      (Transform.lookup target table).call := by
  funext value
  change (lookUp table name value).mapError _ = lookUp table target value
  unfold lookUp
  split <;> rfl

theorem LookupTables.find?_eq_some {tables : LookupTables} {name : String} {table : Fields}
    (known : tables.table? name = some table) :
    tables.resolver.find? name = some (Transform.lookup name table) := by
  change (tables.table? name).map _ = _
  rw [known, Option.map_some]

section Build

open Outcome (Related)

variable {tables : LookupTables} {input : Fragment} {functions : Resolver}

/-- Nodes of one target are built alike when their strategies are, whatever its fragment is. -/
theorem Scope.node_related {R : Strategy → Strategy → Prop} (key : String)
    {build build' : Fragment → Journal Event Error Strategy} (output : Fragment)
    (h : ∀ target, Related R (build target).outcome (build' target).outcome) :
    Related (fun node node' => ∃ target strategy strategy', node = .mk key target strategy ∧
        node' = .mk key target strategy' ∧ R strategy strategy')
      (Scope.node key output build).outcome (Scope.node key output build').outcome := by
  simp only [Scope.node, Journal.outcome_bind, Journal.outcome_lift]
  refine .bind_same _ fun declared => ?_
  cases declared with
  | none => exact .error _
  | some target =>
    simp only [Journal.outcome_bind, Journal.outcome_note, Journal.outcome_pure, Outcome.ok_bind]
    refine (h target).bind fun strategy strategy' hr => ?_
    exact .ok ⟨target, strategy, strategy', rfl, rfl, hr⟩

theorem Scope.outcome_table_named {scope : Scope} (hl : scope.lookups = tables.resolver)
    {name : String} {table : Fields} (known : tables.table? name = some table) (key : String) :
    (scope.table key (.named name)).outcome =
      .ok ((Transform.lookup name table).forTarget key) := by
  have hf := LookupTables.find?_eq_some known
  have hr : (tables.resolver.resolve .lookup name).outcome = .ok (Transform.lookup name table) :=
    outcome_resolve_eq_ok.mpr hf
  rw [Scope.table, hl, Journal.outcome_bind, hr]
  rfl

variable {scope : Scope}

mutual

/-- With the tables as the resolver, both definitions are built alike. -/
theorem Inlined.build (hl : scope.lookups = tables.resolver) :
    ∀ {definition definition' : Definition}, Inlined tables definition definition' →
      ∀ output : Fragment, Related (PlanInlined tables definition definition')
        (scope.build definition output).outcome (scope.build definition' output).outcome
  | _, _, .level each, output => by
    simp only [Scope.build, Journal.outcome_bind, Journal.outcome_pure]
    refine (each.build hl output).bind fun nodes nodes' hn => ?_
    exact .ok (.level hn)

theorem InlinedFields.build (hl : scope.lookups = tables.resolver) {constants : Fields} :
    ∀ {fields fields' : List (String × Spec)}, InlinedFields tables fields fields' →
      ∀ output : Fragment, Related (NodesInlined tables fields fields')
        (scope.buildFields constants fields output).outcome
        (scope.buildFields constants fields' output).outcome
  | _, _, .nil, _ => .ok .nil
  | _, _, .cons key head tail, output => by
    rw [Scope.buildFields, Scope.buildFields]
    cases constants.contains key with
    | true => exact .error _
    | false =>
      simp only [Bool.false_eq_true, ↓reduceIte, Journal.outcome_bind, Journal.outcome_pure]
      have hs := Scope.node_related key output (head.build hl key)
      refine hs.bind ?_
      rintro _ _ ⟨target, strategy, strategy', rfl, rfl, hr⟩
      refine (tail.build hl output).bind fun nodes nodes' hn => ?_
      exact .ok (.cons hr hn)

theorem InlinedSpec.build (hl : scope.lookups = tables.resolver) :
    ∀ {spec spec' : Spec}, InlinedSpec tables spec spec' → ∀ (key : String) (target : Fragment),
      Related (StrategyInlined tables key spec spec')
        (scope.buildStrategy key spec target).outcome
        (scope.buildStrategy key spec' target).outcome
  | _, _, .kept, _, _ => .refl (fun _ => .kept) _
  | _, _, .table known, key, _ => by
    have hn := Scope.outcome_table_named hl known key
    simp only [Scope.buildStrategy, Journal.outcome_bind, Journal.outcome_lift, hn]
    refine .bind_same _ fun binding => ?_
    exact .ok (.table known)
  -- a single definition stands for a list of one where the target is an array
  | _, _, .single inner, key, target => by
    rw [Scope.buildStrategy, Scope.buildStrategy, Scope.buildNested, Scope.buildNested]
    cases target.container with
    | array =>
      simp only [Journal.outcome_bind, Journal.outcome_lift, Journal.outcome_note,
        Journal.outcome_pure, Outcome.ok_bind]
      refine .bind_same _ fun items => ?_
      refine (inner.build hl items).bind fun level level' hr => ?_
      exact .ok (.array (.cons hr .nil))
    | object =>
      simp only [Journal.outcome_bind, Journal.outcome_pure]
      refine (inner.build hl target).bind fun level level' hr => ?_
      exact .ok (.object hr)
    | other => exact .error _
  | _, _, .many each, key, target => by
    rw [Scope.buildStrategy, Scope.buildStrategy, Scope.buildNested, Scope.buildNested]
    cases target.container with
    | array =>
      simp only [Journal.outcome_bind, Journal.outcome_lift, Journal.outcome_note,
        Journal.outcome_pure, Outcome.ok_bind]
      refine .bind_same _ fun items => ?_
      refine (each.build hl items).bind fun levels levels' hr => ?_
      exact .ok (.array hr)
    | object => exact .error _
    | other => exact .error _

theorem InlinedList.build (hl : scope.lookups = tables.resolver) :
    ∀ {definitions definitions' : List Definition}, InlinedList tables definitions definitions' →
      ∀ items : Fragment, Related (LevelsInlined tables definitions definitions')
        (scope.buildLevels definitions items).outcome
        (scope.buildLevels definitions' items).outcome
  | _, _, .nil, _ => .ok .nil
  | _, _, .cons head tail, items => by
    simp only [Scope.buildLevels, Journal.outcome_bind, Journal.outcome_pure]
    refine (head.build hl items).bind fun level level' hr => ?_
    refine (tail.build hl items).bind fun levels levels' hrs => ?_
    exact .ok (.cons hr hrs)

end

end Build

mutual

/-- Such plans are equal once their transforms have no names. -/
theorem PlanInlined.recast_eq {tables : LookupTables} {definition definition' : Definition}
    {level level' : Level} : PlanInlined tables definition definition' level level' →
      level.recast id Transform.nameless = level'.recast id Transform.nameless
  | .level each => by
    rw [Level.recast, Level.recast, each.recast_eq]

theorem NodesInlined.recast_eq {tables : LookupTables} {fields fields' : List (String × Spec)}
    {nodes nodes' : List Node} : NodesInlined tables fields fields' nodes nodes' →
      recastNodes id Transform.nameless nodes = recastNodes id Transform.nameless nodes'
  | .nil => rfl
  | .cons head tail => by
    rw [recastNodes, recastNodes, Node.recast, Node.recast, head.recast_eq, tail.recast_eq]

theorem StrategyInlined.recast_eq {tables : LookupTables} {key : String} {spec spec' : Spec}
    {strategy strategy' : Strategy} : StrategyInlined tables key spec spec' strategy strategy' →
      strategy.recast id Transform.nameless = strategy'.recast id Transform.nameless
  | .kept => rfl
  | .table _ => by
    rw [Strategy.recast, Strategy.recast, Transform.nameless, Transform.nameless,
      Transform.call_forTarget_lookup]
  | .object inner => by
    rw [Strategy.recast, Strategy.recast, inner.recast_eq]
  | .array each => by
    rw [Strategy.recast, Strategy.recast, each.recast_eq]

theorem LevelsInlined.recast_eq {tables : LookupTables} {definitions definitions' : List Definition}
    {levels levels' : List Level} : LevelsInlined tables definitions definitions' levels levels' →
      recastLevels id Transform.nameless levels = recastLevels id Transform.nameless levels'
  | .nil => rfl
  | .cons head tail => by
    rw [recastLevels, recastLevels, head.recast_eq, tail.recast_eq]

end

/-- A definition and the same with tables written out either fail to be built with the same failure,
or have plans that are equal but for the transforms at the replaced places and that make the same of
every input: equal outputs or equal failures, with equal journals. -/
theorem build_of_inlined {tables : LookupTables} {definition definition' : Definition}
    (h : Inlined tables definition definition') (input : Fragment) (functions : Resolver)
    (output : Fragment) :
    (∃ e,
      (Scope.build ⟨input, functions, tables.resolver⟩ definition output).outcome = .error e ∧
      (Scope.build ⟨input, functions, tables.resolver⟩ definition' output).outcome = .error e) ∨
    ∃ plan plan',
      (Scope.build ⟨input, functions, tables.resolver⟩ definition output).outcome = .ok plan ∧
      (Scope.build ⟨input, functions, tables.resolver⟩ definition' output).outcome = .ok plan' ∧
      PlanInlined tables definition definition' plan plan' ∧
      ∀ data origin, plan.apply data origin = plan'.apply data origin := by
  have hl : Scope.lookups ⟨input, functions, tables.resolver⟩ = tables.resolver := rfl
  have hr := h.build hl output
  rcases hr.elim with ⟨e, he, he'⟩ | ⟨plan, plan', hp, hp', hi⟩
  · exact Or.inl ⟨e, he, he'⟩
  · have ha := apply_eq_of_withoutNames_eq hi.recast_eq
    exact Or.inr ⟨plan, plan', hp, hp', hi, ha⟩

section Route

def routeTables : LookupTables := ⟨[("towns", [("B", "Berlin"), ("N", .null)])]⟩

def routeDefinition : Definition := .level []
  [("start", .lookup "from" (.named "towns")),
    ("stops", .nested (.many [.level [] [("city", .lookup "to" (.named "towns"))]]))]

/-- The table is written out in the elements of the array only. -/
def routeWritten : Definition := .level []
  [("start", .lookup "from" (.named "towns")),
    ("stops", .nested (.many
      [.level [] [("city", .lookup "to" (.inline [("B", "Berlin"), ("N", .null)]))]]))]

def routeInput : Fragment := ⟨none, [("from", .object []), ("to", .object [])], none⟩

def routeOutput : Fragment where
  kind := none
  properties :=
    [("start", .object []),
      ("stops", .object
        [("type", "array"),
          ("items", .object [("properties", .object [("city", .object [])])])])]
  items := none

/-- A value whose entry is null is unknown to both plans, which report it against the same target. -/
theorem build_of_inlined_route :
    Inlined routeTables routeDefinition routeWritten ∧
    ∃ plan plan',
      (Scope.build ⟨routeInput, .unconfigured, routeTables.resolver⟩ routeDefinition
        routeOutput).outcome = .ok plan ∧
      (Scope.build ⟨routeInput, .unconfigured, routeTables.resolver⟩ routeWritten
        routeOutput).outcome = .ok plan' ∧
      PlanInlined routeTables routeDefinition routeWritten plan plan' ∧
      (plan.apply (.object [("from", "B"), ("to", " N")]) "erp").outcome =
        .error (.unknownLookupValue "N" "city") ∧
      (plan'.apply (.object [("from", "B"), ("to", " N")]) "erp").outcome =
        .error (.unknownLookupValue "N" "city") := by
  have h : Inlined routeTables routeDefinition routeWritten :=
    .level (.cons "start" .kept (.cons "stops"
      (.many (.cons (.level (.cons "city" (.table rfl) .nil)) .nil)) .nil))
  obtain ⟨built, hb, ha⟩ : ∃ built,
      (Scope.build ⟨routeInput, .unconfigured, routeTables.resolver⟩ routeDefinition
        routeOutput).outcome = .ok built ∧
      (built.apply (.object [("from", "B"), ("to", " N")]) "erp").outcome =
        .error (.unknownLookupValue "N" "city") := ⟨_, rfl, rfl⟩
  rcases build_of_inlined h routeInput .unconfigured routeOutput with
    ⟨e, he, -⟩ | ⟨plan, plan', hp, hp', hi, hs⟩
  · rw [hb] at he
    cases he
  · rw [hb] at hp
    cases hp
    exact ⟨h, built, plan', hb, hp', hi, ha, hs _ _ ▸ ha⟩

end Route

end Reshape
