import Reshape.Proofs.Mapper
import Reshape.Proofs.Plan.Tree

/-!
# The events of a compilation

What is noted while a definition is compiled, set against the tree of the definition and that of the
plan. Each field is noted when it is built, which is after all that is below it. So a compilation that
succeeds has noted the nodes of its plan in post-order, and one that fails the first few keys of the
definition in post-order, the field that fails not among them. Which fault it was is not said here.
-/
namespace Reshape

/-- The target and kind of the field that an event says was compiled. -/
def Event.compiled? : Event → Option (String × StrategyKind)
  | .fieldCompiled field kind => some (field, kind)
  | _ => none

mutual

/-- The keys of the fields of a definition and of the definitions below it, each after those below
it. -/
def Definition.postorder : Definition → List String
  | .level _ fields => postorderOfFields fields

def postorderOfFields : List (String × Spec) → List String
  | [] => []
  | (key, spec) :: rest => spec.postorder ++ [key] ++ postorderOfFields rest

def Spec.postorder : Spec → List String
  | .nested body => body.postorder
  | _ => []

def Nested.postorder : Nested → List String
  | .single definition => definition.postorder
  | .many definitions => postorderOfDefinitions definitions

def postorderOfDefinitions : List Definition → List String
  | [] => []
  | definition :: rest => definition.postorder ++ postorderOfDefinitions rest

end

variable {α β γ : Type}

/-- A journal that does not note that the whole was compiled. -/
def Unfinished (j : Journal Event Error α) : Prop :=
  ∀ fields nodes, .planCompiled fields nodes ∉ j.entries

/-- What a part of a compilation notes. If it succeeds, these are the nodes listed for its result,
whose targets are some keys. If it fails, they are the first few of these keys and of those that are
open behind them, but never all. -/
structure Tells (opened : List String) (listing : α → List Node) (keys : List String)
    (j : Journal Event Error α) : Prop where
  ok : ∀ a, j.outcome = .ok a →
    j.entries.filterMap Event.compiled? = (listing a).map Node.caption ∧
      (listing a).map Node.target = keys
  error : ∀ e, j.outcome = .error e → ∃ key rest,
    (j.entries.filterMap Event.compiled?).map Prod.fst ++ key :: rest = keys ++ opened
  unfinished : Unfinished j

/-- A journal that notes neither a field nor a plan. -/
structure Silent (j : Journal Event Error α) : Prop where
  fields : j.entries.filterMap Event.compiled? = []
  unfinished : Unfinished j

section Parts

variable {opened keys more : List String} {listing : α → List Node} {j : Journal Event Error α}

theorem Unfinished.note {event : Event} (h : ∀ fields nodes, event ≠ .planCompiled fields nodes) :
    Unfinished (Journal.note event : Journal Event Error Unit) :=
  fun fields nodes hm => h fields nodes (List.mem_singleton.mp hm).symm

theorem Unfinished.bind {f : α → Journal Event Error β} (hj : Unfinished j)
    (hf : ∀ a, Unfinished (f a)) : Unfinished (j >>= f) := by
  intro fields nodes hm
  rcases Journal.mem_entries_bind hm with h | ⟨a, -, h⟩
  · exact hj fields nodes h
  · exact hf a fields nodes h

theorem Unfinished.map (g : α → β) (hj : Unfinished j) : Unfinished (g <$> j) := by
  rw [Unfinished, Journal.entries_map]
  exact hj

theorem Silent.lift (r : Except Error α) : Silent (Journal.lift r) := ⟨rfl, nofun⟩

theorem Silent.pure (a : α) : Silent (pure a) := ⟨rfl, nofun⟩

theorem Silent.fail (e : Error) : Silent (Journal.fail e : Journal Event Error α) := ⟨rfl, nofun⟩

theorem Silent.note {event : Event} (hc : event.compiled? = none)
    (h : ∀ fields nodes, event ≠ .planCompiled fields nodes) :
    Silent (Journal.note event : Journal Event Error Unit) :=
  ⟨by simp [hc], .note h⟩

theorem Silent.bind {f : α → Journal Event Error β} (hj : Silent j) (hf : ∀ a, Silent (f a)) :
    Silent (j >>= f) := by
  refine ⟨?_, hj.unfinished.bind fun a => (hf a).unfinished⟩
  cases ho : j.outcome with
  | ok a =>
    rw [Journal.entries_bind_ok ho, List.filterMap_append, hj.fields, (hf a).fields]
    rfl
  | error e => rw [Journal.entries_bind_error ho, hj.fields]

theorem Tells.map {listing' : β → List Node} {g : α → β} (hj : Tells opened listing keys j)
    (hg : ∀ a, listing' (g a) = listing a) : Tells opened listing' keys (g <$> j) := by
  refine ⟨fun b hb => ?_, fun e he => ?_, hj.unfinished.map g⟩
  · rw [Journal.outcome_map, Outcome.map_eq_ok] at hb
    obtain ⟨a, ha, rfl⟩ := hb
    rw [Journal.entries_map, hg]
    exact hj.ok a ha
  · rw [Journal.outcome_map, Outcome.map_eq_error] at he
    rw [Journal.entries_map]
    exact hj.error e he

/-- Two parts, one after the other, neither of which looks at the other. -/
theorem Tells.map₂ {listing' : β → List Node} {listing'' : γ → List Node} {k : Journal Event Error β}
    {g : α → β → γ} (hj : Tells [] listing keys j) (hk : Tells [] listing' more k)
    (hg : ∀ a b, listing'' (g a b) = listing a ++ listing' b) :
    Tells [] listing'' (keys ++ more) (j >>= fun a => g a <$> k) := by
  refine ⟨fun c hc => ?_, fun e he => ?_, hj.unfinished.bind fun a => hk.unfinished.map (g a)⟩
  · rw [Journal.outcome_bind, Outcome.bind_eq_ok] at hc
    obtain ⟨a, ha, hc⟩ := hc
    rw [Journal.outcome_map, Outcome.map_eq_ok] at hc
    obtain ⟨b, hb, rfl⟩ := hc
    obtain ⟨hja, hka⟩ := hj.ok a ha
    obtain ⟨hjb, hkb⟩ := hk.ok b hb
    rw [Journal.entries_bind_ok ha, Journal.entries_map, List.filterMap_append, hja, hjb, hg,
      List.map_append, List.map_append, hka, hkb]
    exact ⟨rfl, rfl⟩
  · rw [Journal.outcome_bind, Outcome.bind_eq_error] at he
    rcases he with he | ⟨a, ha, he⟩
    · obtain ⟨key, rest, hr⟩ := hj.error e he
      rw [List.append_nil] at hr
      rw [Journal.entries_bind_error he, ← hr]
      exact ⟨key, rest ++ more, by simp⟩
    · rw [Journal.outcome_map, Outcome.map_eq_error] at he
      obtain ⟨hja, hka⟩ := hj.ok a ha
      obtain ⟨key, rest, hr⟩ := hk.error e he
      rw [Journal.entries_bind_ok ha, Journal.entries_map, List.filterMap_append, hja,
        List.map_append, map_fst_caption, hka]
      exact ⟨key, rest, by simp [hr]⟩

/-- While a key is open, a failure in something else that comes first leaves at least that key. -/
theorem Tells.after_silent {key : String} {listing' : β → List Node} {f : α → Journal Event Error β}
    (hj : Silent j) (hf : ∀ a, Tells [key] listing' keys (f a)) :
    Tells [key] listing' keys (j >>= f) := by
  refine ⟨fun b hb => ?_, fun e he => ?_, hj.unfinished.bind fun a => (hf a).unfinished⟩
  · rw [Journal.outcome_bind, Outcome.bind_eq_ok] at hb
    obtain ⟨a, ha, hb⟩ := hb
    rw [Journal.entries_bind_ok ha, List.filterMap_append, hj.fields]
    exact (hf a).ok b hb
  · rw [Journal.outcome_bind, Outcome.bind_eq_error] at he
    rcases he with he | ⟨a, ha, he⟩
    · rw [Journal.entries_bind_error he, hj.fields]
      have hk : keys ++ [key] ≠ [] := by simp
      obtain ⟨first, rest, hr⟩ := List.exists_cons_of_ne_nil hk
      exact ⟨first, rest, hr.symm⟩
    · rw [Journal.entries_bind_ok ha, List.filterMap_append, hj.fields]
      exact (hf a).error e he

/-- What is finished within a field leaves the key of the field open. -/
theorem Tells.opening (hj : Tells [] listing keys j) (key : String) : Tells [key] listing keys j := by
  refine ⟨hj.ok, fun e he => ?_, hj.unfinished⟩
  obtain ⟨first, rest, hr⟩ := hj.error e he
  rw [List.append_nil] at hr
  exact ⟨first, rest ++ [key], by rw [← hr]; simp⟩

theorem Tells.leaf {key : String} {a : α} (h : listing a = []) :
    Tells [key] listing [] (pure a : Journal Event Error α) := by
  refine ⟨fun b hb => ?_, nofun, nofun⟩
  cases hb
  rw [h]
  exact ⟨rfl, rfl⟩

theorem Tells.fail (e : Error) (hk : keys ++ opened ≠ []) :
    Tells opened listing keys (Journal.fail e) := by
  obtain ⟨first, rest, hr⟩ := List.exists_cons_of_ne_nil hk
  exact ⟨nofun, fun _ _ => ⟨first, rest, hr.symm⟩, nofun⟩

/-- A field is noted behind what is below it, when its strategy is there. -/
theorem Tells.node {key : String} {output : Fragment}
    {strategy : Fragment → Journal Event Error Strategy}
    (each : ∀ target, Tells [key] Strategy.postorder keys (strategy target)) :
    Tells [] Node.postorder (keys ++ [key]) (Scope.node key output strategy) := by
  rw [Scope.node]
  cases hp : output.property key with
  | error e => exact Tells.fail e (by simp)
  | ok found =>
    cases found with
    | none => exact Tells.fail (.targetUnresolved key) (by simp)
    | some target =>
      have hs := each target
      change Tells [] Node.postorder (keys ++ [key]) (strategy target >>= fun made =>
        Journal.note (.fieldCompiled key made.kind) >>= fun _ => pure (.mk key target made))
      have hnote (made : Strategy) : Unfinished (Journal.note (.fieldCompiled key made.kind)) :=
        .note fun _ _ h => by cases h
      refine ⟨fun node hn => ?_, fun e he => ?_,
        hs.unfinished.bind fun made => (hnote made).bind fun _ => (Silent.pure _).unfinished⟩
      · simp only [Journal.outcome_bind, Outcome.bind_eq_ok] at hn
        obtain ⟨made, ho, _, -, hn⟩ := hn
        cases hn
        obtain ⟨hc, hk⟩ := hs.ok made ho
        rw [Journal.entries_bind_ok ho, List.filterMap_append, hc, Node.postorder, List.map_append,
          List.map_append, hk]
        exact ⟨rfl, rfl⟩
      · simp only [Journal.outcome_bind, Outcome.bind_eq_error] at he
        rcases he with he | ⟨made, ho, he | ⟨_, -, he⟩⟩
        · rw [Journal.entries_bind_error he, List.append_nil]
          exact hs.error e he
        · cases he
        · cases he

end Parts

theorem silent_resolve (resolver : Resolver) (kind : ResolverKind) (name : String) :
    Silent (resolver.resolve kind name) := by
  cases resolver with
  | unconfigured =>
    have hn : Silent (Journal.note (.resolverMissing name) : Journal Event Error Unit) :=
      .note rfl nofun
    exact hn.bind fun _ => .fail _
  | known find? =>
    simp only [Resolver.resolve, Resolver.find?]
    cases find? name with
    | some transform => exact .pure transform
    | none => exact .fail _

theorem silent_table (scope : Scope) (key : String) (table : TableRef) :
    Silent (scope.table key table) := by
  cases table with
  | inline table => exact .pure _
  | named name => exact (silent_resolve _ _ _).bind fun _ => .pure _

mutual

/-- Building a definition tells of the keys of all its fields, in post-order. -/
theorem build_tells (scope : Scope) : ∀ (definition : Definition) (output : Fragment),
    Tells [] Level.postorder definition.postorder (scope.build definition output)
  | .level constants fields, output => by
    rw [Scope.build, bind_pure_comp]
    exact (buildFields_tells scope constants fields output).map fun _ => rfl

theorem buildFields_tells (scope : Scope) (constants : Fields) :
    ∀ (fields : List (String × Spec)) (output : Fragment),
      Tells [] postorderOfNodes (postorderOfFields fields) (scope.buildFields constants fields output)
  | [], output => by
    refine ⟨fun nodes hn => ?_, nofun, nofun⟩
    cases hn
    exact ⟨rfl, rfl⟩
  | (key, spec) :: rest, output => by
    have hr := buildFields_tells scope constants rest output
    rw [Scope.buildFields, postorderOfFields]
    cases constants.contains key with
    | true => exact Tells.fail _ (by simp)
    | false =>
      simp only [Bool.false_eq_true, ↓reduceIte, bind_pure_comp]
      exact (Tells.node fun target => buildStrategy_tells scope key spec target).map₂ hr
        fun _ _ => rfl

theorem buildStrategy_tells (scope : Scope) (key : String) : ∀ (spec : Spec) (target : Fragment),
    Tells [key] Strategy.postorder spec.postorder (scope.buildStrategy key spec target)
  | .nested body, target => by
    rw [Scope.buildStrategy]
    exact buildNested_tells scope key body target
  | .copy source, target => by
    rw [Scope.buildStrategy]
    exact .after_silent (.lift _) fun _ => .leaf rfl
  | .lookup source table, target => by
    rw [Scope.buildStrategy]
    exact .after_silent (.lift _) fun _ => .after_silent (silent_table _ _ _) fun _ => .leaf rfl
  | .function (some source) name, target => by
    rw [Scope.buildStrategy]
    exact .after_silent (.lift _) fun _ => .after_silent (silent_resolve _ _ _) fun _ => .leaf rfl
  | .function none name, target => by
    rw [Scope.buildStrategy]
    exact .after_silent (silent_resolve _ _ _) fun _ => .leaf rfl

theorem buildNested_tells (scope : Scope) (key : String) : ∀ (body : Nested) (target : Fragment),
    Tells [key] Strategy.postorder body.postorder (scope.buildNested key body target)
  | .single definition, target => by
    rw [Scope.buildNested, Nested.postorder]
    cases target.container with
    | array =>
      refine .after_silent (.lift _) fun items => .after_silent (.note rfl nofun) fun _ => ?_
      have hb := build_tells scope definition items
      rw [bind_pure_comp]
      refine Tells.opening (hb.map fun level => ?_) key
      rw [Strategy.postorder, postorderOfLevels, postorderOfLevels, List.append_nil]
    | object =>
      have hb := build_tells scope definition target
      rw [bind_pure_comp]
      exact Tells.opening (hb.map fun level => by rw [Strategy.postorder]) key
    | other => exact Tells.fail _ (by simp)
  | .many definitions, target => by
    rw [Scope.buildNested, Nested.postorder]
    cases target.container with
    | array =>
      refine .after_silent (.lift _) fun items => .after_silent (.note rfl nofun) fun _ => ?_
      have hl := buildLevels_tells scope definitions items
      rw [bind_pure_comp]
      exact Tells.opening (hl.map fun levels => by rw [Strategy.postorder]) key
    | object => exact Tells.fail _ (by simp)
    | other => exact Tells.fail _ (by simp)

theorem buildLevels_tells (scope : Scope) : ∀ (definitions : List Definition) (items : Fragment),
    Tells [] postorderOfLevels (postorderOfDefinitions definitions)
      (scope.buildLevels definitions items)
  | [], items => by
    refine ⟨fun levels hl => ?_, nofun, nofun⟩
    cases hl
    exact ⟨rfl, rfl⟩
  | definition :: rest, items => by
    have hl := build_tells scope definition items
    have hr := buildLevels_tells scope rest items
    rw [Scope.buildLevels]
    simp only [bind_pure_comp]
    exact hl.map₂ hr fun _ _ => rfl

end

/-- A compilation notes what the building of its plan notes, between a remark on validation, if that
was asked for, and the sizes of the plan, if there is one. -/
theorem Mapper.entries_compileParsed (mapper : Mapper) (definition : Definition)
    (input output : Fragment) :
    (mapper.compileParsed definition input output).entries =
      (if mapper.config.validate then [.validationSkipped] else []) ++
        (Scope.build ⟨input, mapper.functions, mapper.lookups⟩ definition output).entries ++
        match (Scope.build ⟨input, mapper.functions, mapper.lookups⟩ definition output).outcome with
        | .ok plan => [.planCompiled plan.nodes.length plan.nodeCount]
        | .error _ => [] := by
  unfold compileParsed
  cases mapper.config.validate <;>
    cases ho : (Scope.build ⟨input, mapper.functions, mapper.lookups⟩ definition output).outcome <;>
    simp [Journal.entries_bind, ho]

/-- The events of a compilation account for every field. If it succeeds, each node of its plan is
noted once, in post-order, and then once the plan with the number of its top-level nodes and of all
that were noted. If it fails, no plan is noted, and the fields noted are the first few of all fields
of the definition in post-order, and never all of them. -/
theorem compile_accounts_for_fields (mapper : Mapper) (definition : Definition)
    (input output : Fragment) :
    (∀ compiled, (mapper.compileParsed definition input output).outcome = .ok compiled →
      ∃ plan earlier, compiled.plan? = some plan ∧
        (mapper.compileParsed definition input output).entries = earlier ++
          [.planCompiled plan.nodes.length (earlier.filterMap Event.compiled?).length] ∧
        (∀ fields nodes, .planCompiled fields nodes ∉ earlier) ∧
        earlier.filterMap Event.compiled? = plan.postorder.map Node.caption ∧
        plan.postorder.map Node.target = definition.postorder) ∧
    ∀ e, (mapper.compileParsed definition input output).outcome = .error e →
      (∀ fields nodes,
        .planCompiled fields nodes ∉ (mapper.compileParsed definition input output).entries) ∧
      ∃ key rest, ((mapper.compileParsed definition input output).entries.filterMap
        Event.compiled?).map Prod.fst ++ key :: rest = definition.postorder := by
  have ht := build_tells ⟨input, mapper.functions, mapper.lookups⟩ definition output
  have he := mapper.entries_compileParsed definition input output
  have hnone : (if mapper.config.validate then [Event.validationSkipped] else []).filterMap
      Event.compiled? = [] := by
    cases mapper.config.validate <;> rfl
  have hno (fields nodes : Nat) : Event.planCompiled fields nodes ∉
      if mapper.config.validate then [Event.validationSkipped] else [] := by
    cases mapper.config.validate <;> simp
  -- What comes before the last event is the remark on validation and what the building notes.
  obtain ⟨earlier, hearlier⟩ : ∃ earlier, earlier =
      (if mapper.config.validate then [Event.validationSkipped] else []) ++
        (Scope.build ⟨input, mapper.functions, mapper.lookups⟩ definition output).entries := ⟨_, rfl⟩
  have hsame : earlier.filterMap Event.compiled? =
      (Scope.build ⟨input, mapper.functions, mapper.lookups⟩ definition output).entries.filterMap
        Event.compiled? := by
    rw [hearlier, List.filterMap_append, hnone, List.nil_append]
  have hsingle (fields nodes : Nat) : .planCompiled fields nodes ∉ earlier := by
    rw [hearlier, List.mem_append, not_or]
    exact ⟨hno fields nodes, ht.unfinished fields nodes⟩
  rw [← hearlier] at he
  constructor
  · intro compiled hc
    obtain ⟨plan, hp, rfl⟩ := Mapper.compileParsed_eq_ok.mp hc
    obtain ⟨hcaptions, hkeys⟩ := ht.ok plan hp
    rw [hcaptions] at hsame
    refine ⟨plan, earlier, rfl, ?_, hsingle, hsame, hkeys⟩
    rw [he, hp, hsame, List.length_map, plan.length_postorder]
  · intro e hfail
    rw [Mapper.outcome_compileParsed, Outcome.map_eq_error] at hfail
    rw [hfail, List.append_nil] at he
    rw [he, hsame]
    obtain ⟨key, rest, hr⟩ := ht.error e hfail
    rw [List.append_nil] at hr
    exact ⟨hsingle, key, rest, hr⟩

section Shelf

def shelfMapper : Mapper := .ofConfig ⟨"erp", true⟩

def shelfInput : Fragment := ⟨none, [("width", .object []), ("title", .object [])], none⟩

def shelfOutput : Fragment where
  kind := none
  properties :=
    [("boxes", .object
        [("type", "array"),
          ("items", .object
            [("properties", .object [("size", .object []), ("label", .object [])])])]),
      ("name", .object [])]
  items := none

/-- A shelf with two boxes, the label of the second taken from this source. -/
def shelfDefinition (source : String) : Definition := .level []
  [("boxes", .nested (.many
      [.level [] [("size", .copy "width")],
        .level [] [("size", .copy "width"), ("label", .copy source)]])),
    ("name", .copy "title")]

/-- A shelf is noted behind its boxes. Where the label of the second box has no source, it ends with
what is above it in the box. -/
theorem compile_accounts_for_fields_shelf :
    (∃ (compiled : Mapper) (plan : Level) (earlier : List Event),
      (shelfMapper.compileParsed (shelfDefinition "title") shelfInput shelfOutput).outcome =
        .ok compiled ∧
      (shelfMapper.compileParsed (shelfDefinition "title") shelfInput shelfOutput).entries =
        earlier ++ [.planCompiled 2 5] ∧
      earlier.filterMap Event.compiled? = plan.postorder.map Node.caption ∧
      plan.postorder.map Node.target = ["size", "size", "label", "boxes", "name"]) ∧
    (shelfMapper.compileParsed (shelfDefinition "brand") shelfInput shelfOutput).outcome =
      .error (.sourceUnresolved "label" "brand") ∧
    ∃ key rest, ((shelfMapper.compileParsed (shelfDefinition "brand") shelfInput
      shelfOutput).entries.filterMap Event.compiled?).map Prod.fst ++ key :: rest =
        ["size", "size", "label", "boxes", "name"] := by
  obtain ⟨compiled, hc, hp⟩ : ∃ compiled,
      (shelfMapper.compileParsed (shelfDefinition "title") shelfInput shelfOutput).outcome =
        .ok compiled ∧
      (shelfMapper.compileParsed (shelfDefinition "title") shelfInput shelfOutput).entries.getLast? =
        some (.planCompiled 2 5) := ⟨_, rfl, by decide⟩
  obtain ⟨plan, earlier, -, he, -, hcaptions, hkeys⟩ := (compile_accounts_for_fields shelfMapper
    (shelfDefinition "title") shelfInput shelfOutput).1 compiled hc
  have hfail : (shelfMapper.compileParsed (shelfDefinition "brand") shelfInput shelfOutput).outcome =
    .error (.sourceUnresolved "label" "brand") := rfl
  obtain ⟨-, key, rest, hr⟩ := (compile_accounts_for_fields shelfMapper
    (shelfDefinition "brand") shelfInput shelfOutput).2 _ hfail
  rw [he, List.getLast?_concat, Option.some.injEq] at hp
  rw [hp] at he
  exact ⟨⟨compiled, plan, earlier, hc, he, hcaptions, hkeys⟩, hfail, key, rest, hr⟩

end Shelf

end Reshape
