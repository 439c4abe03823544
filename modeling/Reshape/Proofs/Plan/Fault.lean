import Reshape.Proofs.Plan.WellFormed

/-!
# The fault that ends a building

Which error a definition has in a scope against an output fragment: that of the first field, in
order, that is not well formed, and of such a field the first thing that is wrong. Building fails
with an error exactly if it is the one that the definition has. Sources and names that come after
the fault play no part, and neither do properties that no field asks for.
-/
namespace Reshape

/-- The input field that a rule reads. -/
def Spec.source? : Spec → Option String
  | .copy source | .lookup source _ => some source
  | .function source _ => source
  | .nested _ => none

/-- A source is declared by what is no fragment, or not at all. -/
inductive Scope.FaultsSource (scope : Scope) (key name : String) : Error → Prop where
  | malformed {e : Error} (raw : scope.input.RejectsProperty name e) : scope.FaultsSource key name e
  | undeclared (none : name ∉ scope.input.properties.keys) :
      scope.FaultsSource key name (.sourceUnresolved key name)

mutual

inductive Faults (scope : Scope) : Definition → Fragment → Error → Prop where
  | level {constants : Fields} {fields : List (String × Spec)} {output : Fragment} {e : Error}
      (first : FaultsFields scope constants output fields e) :
      Faults scope (.level constants fields) output e

/-- The first field that has a fault comes after well-formed ones only. -/
inductive FaultsFields (scope : Scope) :
    Fields → Fragment → List (String × Spec) → Error → Prop where
  | here {constants : Fields} {output : Fragment} {key : String} {spec : Spec}
      {rest : List (String × Spec)} {e : Error}
      (head : FaultsField scope constants output key spec e) :
      FaultsFields scope constants output ((key, spec) :: rest) e
  | later {constants : Fields} {output : Fragment} {key : String} {spec : Spec}
      {rest : List (String × Spec)} {e : Error}
      (before : WellFormedField scope constants output key spec)
      (tail : FaultsFields scope constants output rest e) :
      FaultsFields scope constants output ((key, spec) :: rest) e

/-- Of a field, the key comes first, then its target, then its rule. -/
inductive FaultsField (scope : Scope) : Fields → Fragment → String → Spec → Error → Prop where
  | constant {constants : Fields} {output : Fragment} {key : String} {spec : Spec}
      (given : key ∈ constants.keys) :
      FaultsField scope constants output key spec (.duplicateField key)
  | malformed {constants : Fields} {output : Fragment} {key : String} {spec : Spec} {e : Error}
      (fresh : key ∉ constants.keys) (raw : output.RejectsProperty key e) :
      FaultsField scope constants output key spec e
  | undeclared {constants : Fields} {output : Fragment} {key : String} {spec : Spec}
      (fresh : key ∉ constants.keys) (none : key ∉ output.properties.keys) :
      FaultsField scope constants output key spec (.targetUnresolved key)
  | rule {constants : Fields} {output target : Fragment} {key : String} {spec : Spec} {e : Error}
      (fresh : key ∉ constants.keys) (declared : output.Declares key target)
      (rule : FaultsSpec scope key spec target e) : FaultsField scope constants output key spec e

/-- Of a rule, the source comes before the name; of a nested body, the type of the target comes
before the items, and these before the definitions. -/
inductive FaultsSpec (scope : Scope) : String → Spec → Fragment → Error → Prop where
  | source {key name : String} {spec : Spec} {target : Fragment} {e : Error}
      (reads : spec.source? = some name) (fault : scope.FaultsSource key name e) :
      FaultsSpec scope key spec target e
  | namedLookup {key name table : String} {target : Fragment} (source : scope.HasSource name)
      (unknown : scope.lookups.find? table = none) :
      FaultsSpec scope key (.lookup name (.named table)) target (.unresolved .lookup table)
  | functionOfField {key name function : String} {target : Fragment}
      (source : scope.HasSource name) (unknown : scope.functions.find? function = none) :
      FaultsSpec scope key (.function (some name) function) target (.unresolved .function function)
  | functionOfInput {key function : String} {target : Fragment}
      (unknown : scope.functions.find? function = none) :
      FaultsSpec scope key (.function none function) target (.unresolved .function function)
  | targetType {key : String} {body : Nested} {target : Fragment} (kind : target.container = .other) :
      FaultsSpec scope key (.nested body) target (.nestedTargetType key target.typeText)
  | manyForObject {key : String} {definitions : List Definition} {target : Fragment}
      (kind : target.container = .object) :
      FaultsSpec scope key (.nested (.many definitions)) target (.nestedArrayForObject key)
  | object {key : String} {definition : Definition} {target : Fragment} {e : Error}
      (kind : target.container = .object) (inner : Faults scope definition target e) :
      FaultsSpec scope key (.nested (.single definition)) target e
  | items {key : String} {body : Nested} {target : Fragment} {e : Error}
      (kind : target.container = .array) (raw : target.RejectsItems e) :
      FaultsSpec scope key (.nested body) target e
  | array {key : String} {body : Nested} {target items : Fragment} {e : Error}
      (kind : target.container = .array) (itemsOf : target.HasItems items)
      (first : FaultsLevels scope items body.toList e) :
      FaultsSpec scope key (.nested body) target e

/-- The first definition of an array that has a fault comes after well-formed ones only. -/
inductive FaultsLevels (scope : Scope) : Fragment → List Definition → Error → Prop where
  | here {items : Fragment} {definition : Definition} {rest : List Definition} {e : Error}
      (head : Faults scope definition items e) :
      FaultsLevels scope items (definition :: rest) e
  | later {items : Fragment} {definition : Definition} {rest : List Definition} {e : Error}
      (before : WellFormed scope definition items) (tail : FaultsLevels scope items rest e) :
      FaultsLevels scope items (definition :: rest) e

end

variable {scope : Scope} {key name : String} {e : Error}

section Nested

variable {target : Fragment} {body : Nested}

/-- A target that is neither object nor array takes no nested body. -/
theorem faultsNested_other (hc : target.container = .other) :
    FaultsSpec scope key (.nested body) target e ↔ e = .nestedTargetType key target.typeText := by
  constructor
  · intro h
    cases h with
    | source reads _ => cases reads
    | targetType _ => rfl
    | manyForObject kind => cases hc.symm.trans kind
    | object kind _ => cases hc.symm.trans kind
    | items kind _ => cases hc.symm.trans kind
    | array kind _ _ => cases hc.symm.trans kind
  · rintro rfl
    exact .targetType hc

theorem faultsNested_array (hc : target.container = .array) :
    FaultsSpec scope key (.nested body) target e ↔ target.RejectsItems e ∨
      ∃ items, target.HasItems items ∧ FaultsLevels scope items body.toList e := by
  constructor
  · intro h
    cases h with
    | source reads _ => cases reads
    | targetType kind => cases hc.symm.trans kind
    | manyForObject kind => cases hc.symm.trans kind
    | object kind _ => cases hc.symm.trans kind
    | items _ raw => exact .inl raw
    | array _ itemsOf first => exact .inr ⟨_, itemsOf, first⟩
  · rintro (raw | ⟨items, itemsOf, first⟩)
    · exact .items hc raw
    · exact .array hc itemsOf first

theorem faultsSingle_object {definition : Definition} (hc : target.container = .object) :
    FaultsSpec scope key (.nested (.single definition)) target e ↔
      Faults scope definition target e := by
  constructor
  · intro h
    cases h with
    | source reads _ => cases reads
    | targetType kind => cases hc.symm.trans kind
    | object _ inner => exact inner
    | items kind _ => cases hc.symm.trans kind
    | array kind _ _ => cases hc.symm.trans kind
  · exact .object hc

/-- An object takes no list of definitions, however short. -/
theorem faultsMany_object {definitions : List Definition} (hc : target.container = .object) :
    FaultsSpec scope key (.nested (.many definitions)) target e ↔ e = .nestedArrayForObject key := by
  constructor
  · intro h
    cases h with
    | source reads _ => cases reads
    | targetType kind => cases hc.symm.trans kind
    | manyForObject _ => rfl
    | items kind _ => cases hc.symm.trans kind
    | array kind _ _ => cases hc.symm.trans kind
  · rintro rfl
    exact .manyForObject hc

end Nested

section Parts

theorem bind_source_eq_error :
    scope.bind key name = .error e ↔ scope.FaultsSource key name e := by
  simp only [Scope.bind, Outcome.bind_eq_error, Fragment.property_eq_error]
  constructor
  · rintro (h | ⟨_ | fragment, hp, h⟩)
    · exact .malformed h
    · cases h
      exact .undeclared (Fragment.property_eq_ok_none.mp hp)
    · cases h
  · intro h
    cases h with
    | malformed raw => exact .inl raw
    | undeclared none => exact .inr ⟨_, Fragment.property_eq_ok_none.mpr none, rfl⟩

theorem outcome_resolve_eq_error {resolver : Resolver} {kind : ResolverKind} :
    (resolver.resolve kind name).outcome = .error e ↔
      resolver.find? name = none ∧ e = .unresolved kind name := by
  cases resolver with
  | unconfigured =>
    change Except.error (Error.unresolved kind name) = .error e ↔ none = none ∧ _
    simp [eq_comm]
  | known find? =>
    simp only [Resolver.resolve, Resolver.find?]
    cases find? name with
    | none =>
      change Except.error (Error.unresolved kind name) = .error e ↔ none = none ∧ _
      simp [eq_comm]
    | some found =>
      constructor
      · intro h; cases h
      · rintro ⟨h, -⟩; cases h

theorem outcome_table_eq_error {table : TableRef} :
    (scope.table key table).outcome = .error e ↔
      ∃ name, table = .named name ∧ scope.lookups.find? name = none ∧
        e = .unresolved .lookup name := by
  cases table with
  | inline table => exact ⟨nofun, nofun⟩
  | named name =>
    simp only [Scope.table, Journal.outcome_bind, Outcome.bind_eq_error, outcome_resolve_eq_error]
    constructor
    · rintro (⟨hn, rfl⟩ | ⟨_, _, h⟩)
      · exact ⟨name, rfl, hn, rfl⟩
      · cases h
    · rintro ⟨_, hn, hu, rfl⟩
      cases hn
      exact .inl ⟨hu, rfl⟩

theorem outcome_node_eq_error {output : Fragment}
    {build : Fragment → Journal Event Error Strategy} :
    (Scope.node key output build).outcome = .error e ↔ output.RejectsProperty key e ∨
      (key ∉ output.properties.keys ∧ e = .targetUnresolved key) ∨
        ∃ target, output.Declares key target ∧ (build target).outcome = .error e := by
  simp only [Scope.node, Journal.outcome_bind, Journal.outcome_lift, Outcome.bind_eq_error,
    Fragment.property_eq_error]
  constructor
  · rintro (h | ⟨_ | target, hp, h⟩)
    · exact .inl h
    · cases h
      exact .inr (.inl ⟨Fragment.property_eq_ok_none.mp hp, rfl⟩)
    · simp only [Journal.outcome_bind, Outcome.bind_eq_error] at h
      rcases h with h | ⟨_, _, h | ⟨_, _, h⟩⟩
      · exact .inr (.inr ⟨target, Fragment.property_eq_ok_some.mp hp, h⟩)
      · cases h
      · cases h
  · rintro (h | ⟨hn, rfl⟩ | ⟨target, hd, h⟩)
    · exact .inl h
    · exact .inr ⟨none, Fragment.property_eq_ok_none.mpr hn, rfl⟩
    · refine .inr ⟨some target, Fragment.property_eq_ok_some.mpr hd, ?_⟩
      simp only [Journal.outcome_bind, Outcome.bind_eq_error]
      exact .inl h

/-- A level is built exactly of a well-formed definition. -/
theorem exists_build_iff {definition : Definition} {output : Fragment} :
    (∃ level, (scope.build definition output).outcome = .ok level) ↔
      WellFormed scope definition output := by
  simp only [build_eq_ok]
  exact ⟨fun ⟨_, hm⟩ => hm.wellFormed, WellFormed.exists_mirrors⟩

/-- What lets the building go on past a field is that the field is well formed. -/
theorem exists_node_iff {constants : Fields} {output : Fragment} {spec : Spec}
    (fresh : key ∉ constants.keys) :
    (∃ node, (Scope.node key output (scope.buildStrategy key spec)).outcome = .ok node) ↔
      WellFormedField scope constants output key spec := by
  simp only [outcome_node_eq_ok, buildStrategy_eq_ok]
  constructor
  · rintro ⟨_, target, strategy, hd, hs, -⟩
    exact .mk fresh hd hs.wellFormed
  · intro h
    cases h with
    | mk _ declared rule =>
      obtain ⟨strategy, hs⟩ := exists_mirrorsSpec key rule
      exact ⟨_, _, _, declared, hs, rfl⟩

end Parts

mutual

/-- Building fails with exactly the error that the definition has. -/
theorem build_eq_error : ∀ {definition : Definition} {output : Fragment} {e : Error},
    (scope.build definition output).outcome = .error e ↔ Faults scope definition output e
  | .level constants fields, output, e => by
    simp only [Scope.build, Journal.outcome_bind, Outcome.bind_eq_error, buildFields_eq_error]
    constructor
    · rintro (h | ⟨_, _, h⟩)
      · exact .level h
      · cases h
    · intro h
      cases h with
      | level first => exact .inl first

theorem buildFields_eq_error {constants : Fields} :
    ∀ {fields : List (String × Spec)} {output : Fragment} {e : Error},
      (scope.buildFields constants fields output).outcome = .error e ↔
        FaultsFields scope constants output fields e
  | [], output, e => ⟨nofun, nofun⟩
  | (key, spec) :: rest, output, e => by
    rw [Scope.buildFields]
    cases hc : constants.contains key with
    | true =>
      have hk := Fields.contains_eq_true_iff.mp hc
      constructor
      · intro h
        cases h
        exact .here (.constant hk)
      · intro h
        cases h with
        | here head =>
          cases head with
          | constant _ => rfl
          | malformed fresh _ => exact absurd hk fresh
          | undeclared fresh _ => exact absurd hk fresh
          | rule fresh _ _ => exact absurd hk fresh
        | later before _ =>
          cases before with
          | mk fresh _ _ => exact absurd hk fresh
    | false =>
      have fresh := Fields.contains_eq_false_iff.mp hc
      simp only [Bool.false_eq_true, ↓reduceIte, Journal.outcome_bind, Outcome.bind_eq_error,
        outcome_node_eq_error, buildStrategy_eq_error, buildFields_eq_error]
      constructor
      · rintro ((h | ⟨hn, rfl⟩ | ⟨target, hd, h⟩) | ⟨node, hn, h | ⟨_, _, h⟩⟩)
        · exact .here (.malformed fresh h)
        · exact .here (.undeclared fresh hn)
        · exact .here (.rule fresh hd h)
        · exact .later ((exists_node_iff fresh).mp ⟨node, hn⟩) h
        · cases h
      · intro h
        cases h with
        | here head =>
          cases head with
          | constant given => exact absurd given fresh
          | malformed _ raw => exact .inl (.inl raw)
          | undeclared _ none => exact .inl (.inr (.inl ⟨none, rfl⟩))
          | rule _ declared rule => exact .inl (.inr (.inr ⟨_, declared, rule⟩))
        | later before tail =>
          obtain ⟨node, hn⟩ := (exists_node_iff fresh).mpr before
          exact .inr ⟨node, hn, .inl tail⟩

theorem buildStrategy_eq_error {key : String} : ∀ {spec : Spec} {target : Fragment} {e : Error},
    (scope.buildStrategy key spec target).outcome = .error e ↔ FaultsSpec scope key spec target e
  | .nested body, target, e => by
    rw [Scope.buildStrategy, buildNested_eq_error]
  | .copy name, target, e => by
    simp only [Scope.buildStrategy, Journal.outcome_bind, Journal.outcome_lift,
      Outcome.bind_eq_error, bind_source_eq_error]
    constructor
    · rintro (h | ⟨_, _, h⟩)
      · exact .source rfl h
      · cases h
    · intro h
      cases h with
      | source reads fault => cases reads; exact .inl fault
  | .lookup name table, target, e => by
    simp only [Scope.buildStrategy, Journal.outcome_bind, Journal.outcome_lift,
      Outcome.bind_eq_error, bind_source_eq_error, bind_source_eq_ok, outcome_table_eq_error]
    constructor
    · rintro (h | ⟨_, ⟨fragment, hd, rfl⟩, ⟨_, rfl, hu, rfl⟩ | ⟨_, _, h⟩⟩)
      · exact .source rfl h
      · exact .namedLookup ⟨_, hd⟩ hu
      · cases h
    · intro h
      cases h with
      | source reads fault => cases reads; exact .inl fault
      | namedLookup source unknown =>
        obtain ⟨_, hd⟩ := source
        exact .inr ⟨_, ⟨_, hd, rfl⟩, .inl ⟨_, rfl, unknown, rfl⟩⟩
  | .function (some name) function, target, e => by
    simp only [Scope.buildStrategy, Journal.outcome_bind, Journal.outcome_lift,
      Outcome.bind_eq_error, bind_source_eq_error, bind_source_eq_ok, outcome_resolve_eq_error]
    constructor
    · rintro (h | ⟨_, ⟨fragment, hd, rfl⟩, ⟨hu, rfl⟩ | ⟨_, _, h⟩⟩)
      · exact .source rfl h
      · exact .functionOfField ⟨_, hd⟩ hu
      · cases h
    · intro h
      cases h with
      | source reads fault => cases reads; exact .inl fault
      | functionOfField source unknown =>
        obtain ⟨_, hd⟩ := source
        exact .inr ⟨_, ⟨_, hd, rfl⟩, .inl ⟨unknown, rfl⟩⟩
  | .function none function, target, e => by
    simp only [Scope.buildStrategy, Journal.outcome_bind, Outcome.bind_eq_error,
      outcome_resolve_eq_error]
    constructor
    · rintro (⟨hu, rfl⟩ | ⟨_, _, h⟩)
      · exact .functionOfInput hu
      · cases h
    · intro h
      cases h with
      | source reads fault => cases reads
      | functionOfInput unknown => exact .inl ⟨unknown, rfl⟩

theorem buildNested_eq_error {key : String} : ∀ {body : Nested} {target : Fragment} {e : Error},
    (scope.buildNested key body target).outcome = .error e ↔
      FaultsSpec scope key (.nested body) target e
  | .single definition, target, e => by
    rw [Scope.buildNested]
    cases hc : target.container with
    | array =>
      rw [faultsNested_array hc]
      simp only [Journal.outcome_bind, Journal.outcome_lift, Outcome.bind_eq_error, build_eq_error,
        Fragment.itemsOrEmpty_eq_error, Fragment.itemsOrEmpty_eq_ok]
      constructor
      · rintro (h | ⟨items, hi, h | ⟨_, _, h | ⟨_, _, h⟩⟩⟩)
        · exact .inl h
        · cases h
        · exact .inr ⟨items, hi, .here h⟩
        · cases h
      · rintro (h | ⟨items, hi, h⟩)
        · exact .inl h
        · cases h with
          | here head => exact .inr ⟨items, hi, .inr ⟨(), rfl, .inl head⟩⟩
          | later _ tail => cases tail
    | object =>
      rw [faultsSingle_object hc]
      simp only [Journal.outcome_bind, Outcome.bind_eq_error, build_eq_error]
      constructor
      · rintro (h | ⟨_, _, h⟩)
        · exact h
        · cases h
      · exact .inl
    | other =>
      rw [faultsNested_other hc]
      exact ⟨fun h => (Except.error.inj h).symm, fun h => congrArg Except.error h.symm⟩
  | .many definitions, target, e => by
    rw [Scope.buildNested]
    cases hc : target.container with
    | array =>
      rw [faultsNested_array hc]
      simp only [Journal.outcome_bind, Journal.outcome_lift, Outcome.bind_eq_error,
        buildLevels_eq_error, Fragment.itemsOrEmpty_eq_error, Fragment.itemsOrEmpty_eq_ok]
      constructor
      · rintro (h | ⟨items, hi, h | ⟨_, _, h | ⟨_, _, h⟩⟩⟩)
        · exact .inl h
        · cases h
        · exact .inr ⟨items, hi, h⟩
        · cases h
      · rintro (h | ⟨items, hi, h⟩)
        · exact .inl h
        · exact .inr ⟨items, hi, .inr ⟨(), rfl, .inl h⟩⟩
    | object =>
      rw [faultsMany_object hc]
      exact ⟨fun h => (Except.error.inj h).symm, fun h => congrArg Except.error h.symm⟩
    | other =>
      rw [faultsNested_other hc]
      exact ⟨fun h => (Except.error.inj h).symm, fun h => congrArg Except.error h.symm⟩

theorem buildLevels_eq_error : ∀ {definitions : List Definition} {items : Fragment} {e : Error},
    (scope.buildLevels definitions items).outcome = .error e ↔
      FaultsLevels scope items definitions e
  | [], items, e => ⟨nofun, nofun⟩
  | definition :: rest, items, e => by
    simp only [Scope.buildLevels, Journal.outcome_bind, Outcome.bind_eq_error, build_eq_error,
      buildLevels_eq_error]
    constructor
    · rintro (h | ⟨level, hl, h | ⟨_, _, h⟩⟩)
      · exact .here h
      · exact .later (exists_build_iff.mp ⟨level, hl⟩) h
      · cases h
    · intro h
      cases h with
      | here head => exact .inl head
      | later before tail =>
        obtain ⟨level, hl⟩ := exists_build_iff.mpr before
        exact .inr ⟨level, hl, .inl tail⟩

end

section Cause

/-- The errors of a building that schemas or resolvers cause. -/
inductive Error.OfSchema : Error → Prop where
  | targetUnresolved {field : String} : OfSchema (.targetUnresolved field)
  | sourceUnresolved {field source : String} : OfSchema (.sourceUnresolved field source)
  | nestedTargetType {field found : String} : OfSchema (.nestedTargetType field found)
  | nestedArrayForObject {field : String} : OfSchema (.nestedArrayForObject field)
  | invalidArgument {argument message : String} : OfSchema (.invalidArgument argument message)
  | unresolved {kind : ResolverKind} {name : String} : OfSchema (.unresolved kind name)

/-- A field of some level of a definition is a constant of that level, and the error says so. -/
inductive Definition.Clashes : Definition → Error → Prop where
  | here {constants : Fields} {fields : List (String × Spec)} {key : String} {spec : Spec}
      (given : (key, spec) ∈ fields) (constant : key ∈ constants.keys) :
      Clashes (.level constants fields) (.duplicateField key)
  | inside {constants : Fields} {fields : List (String × Spec)} {key : String} {body : Nested}
      {definition : Definition} {e : Error} (given : (key, .nested body) ∈ fields)
      (part : definition ∈ body.toList) (inner : Clashes definition e) :
      Clashes (.level constants fields) e

theorem Definition.Clashes.mono {constants : Fields} {fields fields' : List (String × Spec)}
    (h : Clashes (.level constants fields) e) (hs : fields ⊆ fields') :
    Clashes (.level constants fields') e := by
  cases h with
  | here given constant => exact .here (hs given) constant
  | inside given part inner => exact .inside (hs given) part inner

theorem Fragment.Rejects.ofSchema {argument : String} {raw : Value}
    (h : Fragment.Rejects argument raw e) : e.OfSchema := by
  obtain ⟨message, rfl⟩ := h.eq_invalidArgument
  exact .invalidArgument

theorem Scope.FaultsSource.ofSchema (h : scope.FaultsSource key name e) : e.OfSchema := by
  cases h with
  | malformed raw =>
    obtain ⟨_, -, hr⟩ := raw
    exact hr.ofSchema
  | undeclared _ => exact .sourceUnresolved

-- Each part reports a clash in a definition of its own, which is then found in the whole.
mutual

/-- What ends a building is caused by a schema or a resolver, or else by a clash with a constant. -/
theorem Faults.cause {definition : Definition} {output : Fragment} {e : Error} :
    Faults scope definition output e → e.OfSchema ∨ definition.Clashes e
  | .level first => first.cause

theorem FaultsFields.cause {constants : Fields} {output : Fragment}
    {fields : List (String × Spec)} {e : Error} :
    FaultsFields scope constants output fields e →
      e.OfSchema ∨ Definition.Clashes (.level constants fields) e
  | .here head => head.cause.imp_right fun hc =>
    hc.mono (List.cons_subset_cons _ (List.nil_subset _))
  | .later _ tail => tail.cause.imp_right fun hc => hc.mono (List.subset_cons_self _ _)

theorem FaultsField.cause {constants : Fields} {output : Fragment} {key : String} {spec : Spec}
    {e : Error} :
    FaultsField scope constants output key spec e →
      e.OfSchema ∨ Definition.Clashes (.level constants [(key, spec)]) e
  | .constant given => .inr (.here List.mem_cons_self given)
  | .malformed _ raw => by
    obtain ⟨_, -, hr⟩ := raw
    exact .inl hr.ofSchema
  | .undeclared _ _ => .inl .targetUnresolved
  | .rule _ _ rule => rule.cause.imp_right fun ⟨_, _, hs, part, hc⟩ => by
    subst hs
    exact .inside List.mem_cons_self part hc

theorem FaultsSpec.cause {key : String} {spec : Spec} {target : Fragment} {e : Error} :
    FaultsSpec scope key spec target e → e.OfSchema ∨
      ∃ body definition, spec = .nested body ∧ definition ∈ body.toList ∧ definition.Clashes e
  | .source _ fault => .inl fault.ofSchema
  | .namedLookup _ _ => .inl .unresolved
  | .functionOfField _ _ => .inl .unresolved
  | .functionOfInput _ => .inl .unresolved
  | .targetType _ => .inl .nestedTargetType
  | .manyForObject _ => .inl .nestedArrayForObject
  | .object _ inner => inner.cause.imp_right fun hc => ⟨_, _, rfl, List.mem_cons_self, hc⟩
  | .items _ raw => by
    obtain ⟨_, -, hr⟩ := raw
    exact .inl hr.ofSchema
  | .array _ _ first => first.cause.imp_right fun ⟨_, part, hc⟩ => ⟨_, _, rfl, part, hc⟩

theorem FaultsLevels.cause {items : Fragment} {definitions : List Definition} {e : Error} :
    FaultsLevels scope items definitions e →
      e.OfSchema ∨ ∃ definition ∈ definitions, definition.Clashes e
  | .here head => head.cause.imp_right fun hc => ⟨_, List.mem_cons_self, hc⟩
  | .later _ tail => tail.cause.imp_right fun ⟨_, part, hc⟩ => ⟨_, List.mem_cons_of_mem _ part, hc⟩

end

theorem Error.OfSchema.phase_eq (h : e.OfSchema) : e.phase = .compile := by
  cases h <;> rfl

theorem Definition.Clashes.phase_eq {definition : Definition} (h : definition.Clashes e) :
    e.phase = .compile := by
  induction h with
  | here _ _ => rfl
  | inside _ _ _ ih => exact ih

theorem Faults.phase_eq {definition : Definition} {output : Fragment}
    (h : Faults scope definition output e) : e.phase = .compile := by
  rcases h.cause with hs | hc
  · exact hs.phase_eq
  · exact hc.phase_eq

end Cause

end Reshape
