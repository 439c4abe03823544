import Reshape.Proofs.Mapper
import Reshape.Proofs.Schema

/-!
# A single definition for a list of one

For a target that is an array a nested field may hold one definition where it could hold a list of one.
Which of the two forms is written makes no difference, at however many places and however deep: the
definitions are built with the same journal, so to the same plan or to the same failure. For a target
that is an object the forms differ. There a list is no way to write a definition, not even a list of
one, and the field that has it is what the building fails at.
-/
namespace Reshape

/-- What the nested definitions of a target are built against: the items of an array, and otherwise
the target itself. -/
inductive Fragment.Holds : Fragment → Fragment → Prop where
  | items {target items : Fragment} (array : target.kind = some (.text "array"))
      (itemsOf : target.HasItems items) : Holds target items
  | itself {target : Fragment} (other : target.kind ≠ some (.text "array")) : Holds target target

mutual

/-- A definition in which some nested bodies of arrays are written as lists, at any depth; the output
fragment says which targets are arrays. -/
inductive Wrapped : Fragment → Definition → Definition → Prop where
  | level {output : Fragment} {constants : Fields} {fields fields' : List (String × Spec)}
      (each : WrappedFields output fields fields') :
      Wrapped output (.level constants fields) (.level constants fields')

inductive WrappedFields : Fragment → List (String × Spec) → List (String × Spec) → Prop where
  | nil {output : Fragment} : WrappedFields output [] []
  | cons {output : Fragment} {key : String} {spec spec' : Spec}
      {fields fields' : List (String × Spec)} (head : WrappedSpec output key spec spec')
      (tail : WrappedFields output fields fields') :
      WrappedFields output ((key, spec) :: fields) ((key, spec') :: fields')

/-- A rule is kept, or its nested body changes and the target is declared. -/
inductive WrappedSpec : Fragment → String → Spec → Spec → Prop where
  | kept {output : Fragment} {key : String} {spec : Spec} : WrappedSpec output key spec spec
  | nested {output target : Fragment} {key : String} {body body' : Nested}
      (declared : output.Declares key target) (inside : WrappedNested target body body') :
      WrappedSpec output key (.nested body) (.nested body')

/-- The definitions of a body change, and after that the body of an array may become a list. -/
inductive WrappedNested : Fragment → Nested → Nested → Prop where
  | kept {target : Fragment} {body : Nested} : WrappedNested target body body
  | single {target fragment : Fragment} {definition definition' : Definition}
      (holds : target.Holds fragment) (inner : Wrapped fragment definition definition') :
      WrappedNested target (.single definition) (.single definition')
  | many {target fragment : Fragment} {definitions definitions' : List Definition}
      (holds : target.Holds fragment) (each : WrappedList fragment definitions definitions') :
      WrappedNested target (.many definitions) (.many definitions')
  | list {target : Fragment} {body body' : Nested} (array : target.kind = some (.text "array"))
      (inside : WrappedNested target body body') : WrappedNested target body (.many body'.toList)

inductive WrappedList : Fragment → List Definition → List Definition → Prop where
  | nil {fragment : Fragment} : WrappedList fragment [] []
  | cons {fragment : Fragment} {definition definition' : Definition}
      {definitions definitions' : List Definition} (head : Wrapped fragment definition definition')
      (tail : WrappedList fragment definitions definitions') :
      WrappedList fragment (definition :: definitions) (definition' :: definitions')

end

section Build

variable {scope : Scope} {key : String} {target : Fragment}

/-- The body of an array is built as the list of its definitions, whichever form it has. -/
theorem Scope.buildNested_array (array : target.kind = some (.text "array")) (body : Nested) :
    scope.buildNested key body target = (do
      let items ← Journal.lift target.itemsOrEmpty
      Journal.note (.arrayEntered key body.toList.length)
      return .nestedArray (← scope.buildLevels body.toList items)) := by
  have hc := Fragment.container_eq_array.mpr array
  cases body with
  | single definition =>
    simp only [Scope.buildNested, hc, Nested.toList, Scope.buildLevels, List.length_singleton,
      bind_assoc, pure_bind]
  | many definitions => simp only [Scope.buildNested, hc, Nested.toList]

theorem Scope.buildNested_items {items : Fragment} (array : target.kind = some (.text "array"))
    (itemsOf : target.HasItems items) (body : Nested) :
    scope.buildNested key body target = (do
      Journal.note (.arrayEntered key body.toList.length)
      return .nestedArray (← scope.buildLevels body.toList items)) := by
  rw [Scope.buildNested_array array, Fragment.itemsOrEmpty_eq_ok.mpr itemsOf]
  rfl

/-- Except for an array, a single definition is built for an object only. -/
theorem Scope.buildNested_single (other : target.kind ≠ some (.text "array"))
    (definition : Definition) :
    scope.buildNested key (.single definition) target =
      if target.container = .object then Strategy.nestedObject <$> scope.build definition target
      else Journal.fail (.nestedTargetType key target.typeText) := by
  rw [Scope.buildNested, map_eq_pure_bind]
  cases hc : target.container with
  | object => rfl
  | array => exact absurd (Fragment.container_eq_array.mp hc) other
  | other => rfl

/-- Except for an array, no list of definitions is built. -/
theorem Scope.buildNested_many (other : target.kind ≠ some (.text "array"))
    (definitions : List Definition) :
    scope.buildNested key (.many definitions) target =
      if target.container = .object then Journal.fail (.nestedArrayForObject key)
      else Journal.fail (.nestedTargetType key target.typeText) := by
  rw [Scope.buildNested]
  cases hc : target.container with
  | object => rfl
  | array => exact absurd (Fragment.container_eq_array.mp hc) other
  | other => rfl

theorem Scope.node_of_declares {output : Fragment} (declared : output.Declares key target)
    (strategy : Fragment → Journal Event Error Strategy) :
    Scope.node key output strategy = (do
      let strategy ← strategy target
      Journal.note (.fieldCompiled key strategy.kind)
      return .mk key target strategy) := by
  rw [Scope.node, Fragment.property_eq_ok_some.mpr declared]
  rfl

end Build

section Same

theorem WrappedList.length_eq : ∀ {fragment : Fragment} {definitions definitions' : List Definition},
    WrappedList fragment definitions definitions' → definitions.length = definitions'.length
  | _, _, _, .nil => rfl
  | _, _, _, .cons _ tail => congrArg (· + 1) tail.length_eq

variable {scope : Scope}

mutual

/-- Both definitions are built with the same journal. -/
theorem Wrapped.build_eq : ∀ {output : Fragment} {definition definition' : Definition},
    Wrapped output definition definition' →
      scope.build definition output = scope.build definition' output
  | _, _, _, .level each => by
    rw [Scope.build, Scope.build, each.build_eq]

theorem WrappedFields.build_eq {constants : Fields} :
    ∀ {output : Fragment} {fields fields' : List (String × Spec)},
      WrappedFields output fields fields' →
        scope.buildFields constants fields output = scope.buildFields constants fields' output
  | _, _, _, .nil => rfl
  | _, _, _, .cons head tail => by
    rw [Scope.buildFields, Scope.buildFields, head.build_eq, tail.build_eq]

theorem WrappedSpec.build_eq : ∀ {output : Fragment} {key : String} {spec spec' : Spec},
    WrappedSpec output key spec spec' →
      Scope.node key output (scope.buildStrategy key spec) =
        Scope.node key output (scope.buildStrategy key spec')
  | _, _, _, _, .kept => rfl
  | _, _, _, _, .nested declared inside => by
    rw [Scope.node_of_declares declared, Scope.node_of_declares declared, Scope.buildStrategy,
      Scope.buildStrategy, inside.build_eq]

theorem WrappedNested.build_eq {key : String} : ∀ {target : Fragment} {body body' : Nested},
    WrappedNested target body body' →
      scope.buildNested key body target = scope.buildNested key body' target
  | _, _, _, .kept => rfl
  | _, _, _, .single (.items array itemsOf) inner => by
    rw [Scope.buildNested_items array itemsOf, Scope.buildNested_items array itemsOf]
    simp only [Nested.toList, Scope.buildLevels, inner.build_eq, List.length_singleton]
  | _, _, _, .single (.itself other) inner => by
    rw [Scope.buildNested_single other, Scope.buildNested_single other, inner.build_eq]
  | _, _, _, .many (.items array itemsOf) each => by
    rw [Scope.buildNested_items array itemsOf, Scope.buildNested_items array itemsOf]
    simp only [Nested.toList, each.length_eq, each.build_eq]
  | _, _, _, .many (.itself other) _ => by
    rw [Scope.buildNested_many other, Scope.buildNested_many other]
  -- a list that is made of the body has the definitions of the body
  | _, _, _, .list array inside => by
    rw [inside.build_eq, Scope.buildNested_array array, Scope.buildNested_array array]
    rfl

theorem WrappedList.build_eq : ∀ {fragment : Fragment} {definitions definitions' : List Definition},
    WrappedList fragment definitions definitions' →
      scope.buildLevels definitions fragment = scope.buildLevels definitions' fragment
  | _, _, _, .nil => rfl
  | _, _, _, .cons head tail => by
    rw [Scope.buildLevels, Scope.buildLevels, head.build_eq, tail.build_eq]

end

end Same

section Listed

open Outcome (Breaks)

mutual

/-- One nested field of a definition, at any depth, has a target that is an object, and its single
definition is replaced by a list; the field's key comes first. -/
inductive Listed (key : String) : Fragment → Definition → Definition → Prop where
  | level {output : Fragment} {constants : Fields} {fields fields' : List (String × Spec)}
      (one : ListedFields key output fields fields') :
      Listed key output (.level constants fields) (.level constants fields')

inductive ListedFields (key : String) :
    Fragment → List (String × Spec) → List (String × Spec) → Prop where
  | here {output target : Fragment} (name : String) {body body' : Nested}
      {rest : List (String × Spec)} (declared : output.Declares name target)
      (head : ListedNested key name target body body') :
      ListedFields key output ((name, .nested body) :: rest) ((name, .nested body') :: rest)
  | there {output : Fragment} (name : String) (spec : Spec) {fields fields' : List (String × Spec)}
      (tail : ListedFields key output fields fields') :
      ListedFields key output ((name, spec) :: fields) ((name, spec) :: fields')

inductive ListedNested (key : String) : String → Fragment → Nested → Nested → Prop where
  | object {target : Fragment} {definition : Definition} {definitions : List Definition}
      (object : target.kind = some (.text "object")) :
      ListedNested key key target (.single definition) (.many definitions)
  | single {name : String} {target fragment : Fragment} {definition definition' : Definition}
      (holds : target.Holds fragment) (inner : Listed key fragment definition definition') :
      ListedNested key name target (.single definition) (.single definition')
  | many {name : String} {target fragment : Fragment} {definitions definitions' : List Definition}
      (holds : target.Holds fragment) (one : ListedList key fragment definitions definitions') :
      ListedNested key name target (.many definitions) (.many definitions')

inductive ListedList (key : String) : Fragment → List Definition → List Definition → Prop where
  | here {fragment : Fragment} {definition definition' : Definition} {rest : List Definition}
      (head : Listed key fragment definition definition') :
      ListedList key fragment (definition :: rest) (definition' :: rest)
  | there {fragment : Fragment} {definition : Definition} {definitions definitions' : List Definition}
      (tail : ListedList key fragment definitions definitions') :
      ListedList key fragment (definition :: definitions) (definition :: definitions')

end

variable {scope : Scope} {key : String}

mutual

/-- A definition that can be built cannot be built with the list, and fails at that field. -/
theorem Listed.breaks : ∀ {output : Fragment} {definition definition' : Definition},
    Listed key output definition definition' → Breaks (.nestedArrayForObject key)
      (scope.build definition output).outcome (scope.build definition' output).outcome
  | _, _, _, .level one => by
    simp only [Scope.build, Journal.outcome_bind]
    exact one.breaks.bind _ _

theorem ListedFields.breaks {constants : Fields} :
    ∀ {output : Fragment} {fields fields' : List (String × Spec)},
      ListedFields key output fields fields' → Breaks (.nestedArrayForObject key)
        (scope.buildFields constants fields output).outcome
        (scope.buildFields constants fields' output).outcome
  | _, _, _, .here name declared head => by
    rw [Scope.buildFields, Scope.buildFields]
    cases constants.contains name with
    | true => exact nofun
    | false =>
      simp only [Bool.false_eq_true, ↓reduceIte, Scope.node_of_declares declared,
        Scope.buildStrategy, Journal.outcome_bind]
      exact (head.breaks.bind _ _).bind _ _
  | _, _, _, .there name _ tail => by
    rw [Scope.buildFields, Scope.buildFields]
    cases constants.contains name with
    | true => exact nofun
    | false =>
      simp only [Bool.false_eq_true, ↓reduceIte, Journal.outcome_bind]
      exact .bind_same _ fun _ => tail.breaks.bind _ _

theorem ListedNested.breaks : ∀ {name : String} {target : Fragment} {body body' : Nested},
    ListedNested key name target body body' → Breaks (.nestedArrayForObject key)
      (scope.buildNested name body target).outcome (scope.buildNested name body' target).outcome
  | _, _, _, _, .object object => by
    intro strategy _
    rw [Scope.buildNested, Fragment.container_eq_object.mpr object, Journal.outcome_fail]
  | _, _, _, _, .single (.items array itemsOf) inner => by
    rw [Scope.buildNested_items array itemsOf, Scope.buildNested_items array itemsOf]
    simp only [Nested.toList, Scope.buildLevels, Journal.outcome_bind, List.length_singleton]
    exact .bind_same _ fun _ => (inner.breaks.bind _ _).bind _ _
  | _, _, _, _, .single (.itself other) inner => by
    rw [Scope.buildNested_single other, Scope.buildNested_single other]
    split
    · simp only [map_eq_pure_bind, Journal.outcome_bind]
      exact inner.breaks.bind _ _
    · exact nofun
  | _, _, _, _, .many (.items array itemsOf) one => by
    rw [Scope.buildNested_items array itemsOf, Scope.buildNested_items array itemsOf]
    simp only [Nested.toList, Journal.outcome_bind]
    exact .bind_same _ fun _ => one.breaks.bind _ _
  -- no list is built for what is no array
  | _, _, _, _, .many (.itself other) _ => by
    rw [Scope.buildNested_many other]
    split <;> exact nofun

theorem ListedList.breaks : ∀ {fragment : Fragment} {definitions definitions' : List Definition},
    ListedList key fragment definitions definitions' → Breaks (.nestedArrayForObject key)
      (scope.buildLevels definitions fragment).outcome
      (scope.buildLevels definitions' fragment).outcome
  | _, _, _, .here head => by
    simp only [Scope.buildLevels, Journal.outcome_bind]
    exact head.breaks.bind _ _
  | _, _, _, .there tail => by
    simp only [Scope.buildLevels, Journal.outcome_bind]
    exact .bind_same _ fun _ => tail.breaks.bind _ _

end

end Listed

/-- Compiling a definition in which bodies of arrays are written as lists ends in the same failure as
compiling the original, or in the same plan, which makes the same of all data. An object is another
matter: a definition that compiles stops doing so when one of its fields for an object is given a list,
of whatever length, and the field of any level that is built from a list for an object fails; for a
target that is neither object nor array both forms fail alike. -/
theorem compile_of_wrapped (mapper : Mapper) (input output : Fragment) :
    (∀ definition definition', Wrapped output definition definition' →
      (∃ e, (mapper.compileParsed definition input output).outcome = .error e ∧
        (mapper.compileParsed definition' input output).outcome = .error e) ∨
      ∃ compiled compiled' plan,
        (mapper.compileParsed definition input output).outcome = .ok compiled ∧
        (mapper.compileParsed definition' input output).outcome = .ok compiled' ∧
        compiled.plan? = some plan ∧ compiled'.plan? = some plan ∧
        ∀ data, compiled.apply data = compiled'.apply data) ∧
    (∀ key definition definition', Listed key output definition definition' →
      ∀ compiled, (mapper.compileParsed definition input output).outcome = .ok compiled →
        (mapper.compileParsed definition' input output).outcome =
          .error (.nestedArrayForObject key)) ∧
    ∀ (scope : Scope) (level target : Fragment) (key : String), level.Declares key target →
      (target.kind = some (.text "object") → ∀ definitions,
        (scope.buildNode key (.nested (.many definitions)) level).outcome =
          .error (.nestedArrayForObject key)) ∧
      (target.kind ≠ some (.text "object") → target.kind ≠ some (.text "array") → ∀ body,
        (scope.buildNode key (.nested body) level).outcome =
          .error (.nestedTargetType key target.typeText)) := by
  refine ⟨fun definition definition' h => ?_, fun key definition definition' h compiled hc => ?_,
    fun scope level target key declared => ⟨fun object definitions => ?_,
      fun hobject harray body => ?_⟩⟩
  · have hb : ∀ scope : Scope, scope.build definition output = scope.build definition' output :=
      fun _ => h.build_eq
    rw [Mapper.outcome_compileParsed, Mapper.outcome_compileParsed, ← hb]
    cases (Scope.build ⟨input, mapper.functions, mapper.lookups⟩ definition output).outcome with
    | error e => exact .inl ⟨e, rfl, rfl⟩
    | ok plan => exact .inr ⟨_, _, plan, rfl, rfl, rfl, rfl, fun _ => rfl⟩
  · obtain ⟨plan, hp, -⟩ := Mapper.compileParsed_eq_ok.mp hc
    rw [Mapper.outcome_compileParsed, h.breaks plan hp]
    rfl
  · have harray : target.kind ≠ some (.text "array") := by simp [object]
    rw [Scope.buildNode, Scope.node_of_declares declared, Scope.buildStrategy,
      Scope.buildNested_many harray, if_pos (Fragment.container_eq_object.mpr object)]
    rfl
  · have hc : target.container ≠ .object := fun h => hobject (Fragment.container_eq_object.mp h)
    rw [Scope.buildNode, Scope.node_of_declares declared, Scope.buildStrategy]
    cases body with
    | single definition =>
      rw [Scope.buildNested_single harray, if_neg hc]
      rfl
    | many definitions =>
      rw [Scope.buildNested_many harray, if_neg hc]
      rfl

section Basket

def basketItem : Definition := .level [] [("code", .copy "sku")]

/-- A basket whose buyer has the contents. -/
def basketOf (buyer : Definition → Nested) (contents : Nested) : Definition :=
  .level [] [("buyer", .nested (buyer (.level [] [("contents", .nested contents)])))]

def basketInput : Fragment := ⟨none, [("sku", .object [])], none⟩

def basketContents : Fragment where
  kind := some "array"
  properties := []
  items := some (.object [("properties", .object [("code", .object [])])])

def basketBuyer : Fragment := ⟨some "object", [("contents", basketContents.toValue)], none⟩

def basketOutput : Fragment :=
  ⟨none, [("buyer", basketBuyer.toValue), ("note", .object [])], none⟩

/-- The contents may be given as a list of one, the buyer may not, and the note has no parts. -/
theorem compile_of_wrapped_basket :
    Wrapped basketOutput (basketOf .single (.single basketItem))
      (basketOf .single (.many [basketItem])) ∧
    Listed "buyer" basketOutput (basketOf .single (.single basketItem))
      (basketOf (fun buyer => .many [buyer]) (.single basketItem)) ∧
    (∃ compiled compiled' plan,
      ((Mapper.ofConfig .default).compileParsed (basketOf .single (.single basketItem)) basketInput
        basketOutput).outcome = .ok compiled ∧
      ((Mapper.ofConfig .default).compileParsed (basketOf .single (.many [basketItem])) basketInput
        basketOutput).outcome = .ok compiled' ∧
      compiled.plan? = some plan ∧ compiled'.plan? = some plan ∧
      (compiled'.apply (.object [("sku", "A7")])).outcome =
        .ok (.object [("buyer", .object [("contents", .list [.object
          [("code", "A7"), ("dataOrigin", "mapper")]])])])) ∧
    ((Mapper.ofConfig .default).compileParsed (basketOf (fun buyer => .many [buyer])
      (.single basketItem)) basketInput basketOutput).outcome =
        .error (.nestedArrayForObject "buyer") ∧
    (Scope.buildNode ⟨basketInput, .unconfigured, .unconfigured⟩ "note"
      (.nested (.single basketItem)) basketOutput).outcome =
        .error (.nestedTargetType "note" "<none>") := by
  obtain ⟨wrapped, listed, field⟩ :=
    compile_of_wrapped (Mapper.ofConfig .default) basketInput basketOutput
  have hbuyer : basketOutput.Declares "buyer" basketBuyer := ⟨_, rfl, .full rfl⟩
  have hcontents : basketBuyer.Declares "contents" basketContents := ⟨_, rfl, .bare rfl⟩
  have hnote : basketOutput.Declares "note" .empty := ⟨_, rfl, .bare rfl⟩
  have hself : basketBuyer.Holds basketBuyer := .itself (by simp [basketBuyer])
  have hw : Wrapped basketOutput (basketOf .single (.single basketItem))
      (basketOf .single (.many [basketItem])) :=
    .level (.cons (.nested hbuyer (.single hself
      (.level (.cons (.nested hcontents (.list rfl .kept)) .nil)))) .nil)
  have hl : Listed "buyer" basketOutput (basketOf .single (.single basketItem))
      (basketOf (fun buyer => .many [buyer]) (.single basketItem)) :=
    .level (.here "buyer" hbuyer (.object rfl))
  obtain ⟨built, hb, ha⟩ : ∃ built,
      ((Mapper.ofConfig .default).compileParsed (basketOf .single (.single basketItem)) basketInput
        basketOutput).outcome = .ok built ∧
      (built.apply (.object [("sku", "A7")])).outcome =
        .ok (.object [("buyer", .object [("contents", .list [.object
          [("code", "A7"), ("dataOrigin", "mapper")]])])]) := ⟨_, rfl, rfl⟩
  refine ⟨hw, hl, ?_, listed _ _ _ hl built hb, ?_⟩
  · rcases wrapped _ _ hw with ⟨e, he, -⟩ | ⟨compiled, compiled', plan, hc, hc', hp, hp', hs⟩
    · rw [hb] at he
      cases he
    · rw [hb] at hc
      cases hc
      exact ⟨built, compiled', plan, hb, hc', hp, hp', hs _ ▸ ha⟩
  · exact (field _ _ _ _ hnote).2 (by simp [Fragment.empty]) (by simp [Fragment.empty]) _

end Basket

end Reshape
