import Reshape.Proofs.Mapper
import Reshape.Proofs.Plan.Mirror
import Reshape.Proofs.Plan.Recast
import Reshape.Transform.Registry

/-!
# Growing schemas and resolvers

When a raw schema extends another and a resolver another. A definition that was compiled compiles
against every extension, with the same plan but for the fragments that it keeps: building looks only
at properties and names that are there already, and asks for each by its name. A definition that does
not compile may compile against an extension; nothing is said about that.
-/
namespace Reshape

/-- The raw properties of a schema with these keywords; none if they are no object. -/
def Fragment.rawProperties (keywords : Fields) : Fields :=
  match keywords.get? "properties" with
  | some (.object properties) => properties
  | _ => []

mutual

/-- A raw schema extends another of the same type when its properties are absent or an object, it
has each property of the other as it is or extended, and the items are as they are or extended.
Further properties and all other keywords may be anything. -/
inductive SchemaExtends : Value → Value → Prop where
  | object {keywords more : Fields}
      (kind : Fragment.keyword more "type" = Fragment.keyword keywords "type")
      (readable : more.get? "properties" = none ∨
        ∃ properties, more.get? "properties" = some (.object properties))
      (properties : ∀ name value, (Fragment.rawProperties keywords).get? name = some value →
        PartExtends (some value) ((Fragment.rawProperties more).get? name))
      (items : PartExtends (Fragment.keyword keywords "items") (Fragment.keyword more "items")) :
      SchemaExtends (.object keywords) (.object more)

/-- A part of a schema is the same, or there in both and extended. -/
inductive PartExtends : Option Value → Option Value → Prop where
  | same {part : Option Value} : PartExtends part part
  | extended {value more : Value} (h : SchemaExtends value more) :
      PartExtends (some value) (some more)

end

/-- A fragment extends another as the raw schemas do that they are read from. -/
structure Fragment.Extends (fragment more : Fragment) : Prop where
  kind : more.kind = fragment.kind
  properties : ∀ name value, fragment.properties.get? name = some value →
    PartExtends (some value) (more.properties.get? name)
  items : PartExtends fragment.items more.items

namespace Fragment

theorem Extends.refl (fragment : Fragment) : fragment.Extends fragment where
  kind := rfl
  properties := fun _ _ hv => hv ▸ .same
  items := .same

/-- The three parts of a fragment come from the keywords of what it was read from. -/
theorem Reads.eq_keywords {keywords : Fields} {fragment : Fragment}
    (h : Reads (.object keywords) fragment) :
    fragment = ⟨keyword keywords "type", rawProperties keywords, keyword keywords "items"⟩ := by
  cases h with
  | bare hn => rw [rawProperties, hn]
  | full hs => rw [rawProperties, hs]

theorem reads_of_readable {keywords : Fields}
    (h : keywords.get? "properties" = none ∨
      ∃ properties, keywords.get? "properties" = some (.object properties)) :
    Reads (.object keywords)
      ⟨keyword keywords "type", rawProperties keywords, keyword keywords "items"⟩ := by
  rcases h with hn | ⟨properties, hs⟩
  · rw [rawProperties, hn]
    exact .bare hn
  · rw [rawProperties, hs]
    exact .full hs

/-- What extends a readable schema is readable, and reads as an extension. -/
theorem Reads.extended {value value' : Value} {fragment : Fragment} (hr : Reads value fragment)
    (h : SchemaExtends value value') :
    ∃ more, Reads value' more ∧ fragment.Extends more := by
  cases h with
  | object kind readable properties items =>
    have hf := hr.eq_keywords
    subst hf
    exact ⟨_, reads_of_readable readable, kind, properties, items⟩

variable {fragment more : Fragment}

/-- A declared property stays declared, by an extension of its fragment. -/
theorem Declares.extended {name : String} {property : Fragment}
    (hd : fragment.Declares name property) (h : fragment.Extends more) :
    ∃ property', more.Declares name property' ∧ property.Extends property' := by
  obtain ⟨value, hv, hr⟩ := hd
  have hp := h.properties name value hv
  -- `cases` needs the part of the extension as a variable
  generalize hm : more.properties.get? name = part at hp
  cases hp with
  | same => exact ⟨property, ⟨value, hm, hr⟩, .refl property⟩
  | extended he =>
    obtain ⟨property', hr', hx⟩ := hr.extended he
    exact ⟨property', ⟨_, hm, hr'⟩, hx⟩

theorem HasItems.extended {items : Fragment} (hi : fragment.HasItems items)
    (h : fragment.Extends more) : ∃ items', more.HasItems items' ∧ items.Extends items' := by
  have hp := h.items
  generalize hf : fragment.items = part at hp
  generalize hm : more.items = part' at hp
  cases hp with
  | same =>
    cases hi with
    | object raw reads => exact ⟨items, .object (hm.trans (hf.symm.trans raw)) reads, .refl items⟩
    | none raw =>
      have raw' : ∀ fields, more.items ≠ some (.object fields) := by
        rw [hm, ← hf]
        exact raw
      exact ⟨empty, .none raw', .refl empty⟩
  | extended he =>
    cases hi with
    | object raw reads =>
      have hv := Option.some.inj (raw.symm.trans hf)
      subst hv
      obtain ⟨items', hr', hx⟩ := reads.extended he
      cases he
      exact ⟨items', .object hm hr', hx⟩
    | none raw =>
      -- Only objects are extended, and these items are none.
      cases he
      exact absurd hf (raw _)

end Fragment

/-- A resolver extends another when it finds the same transform for each name that the other
knows. -/
def Resolver.Extends (resolver more : Resolver) : Prop :=
  ∀ name transform, resolver.find? name = some transform → more.find? name = some transform

structure Scope.Extends (scope more : Scope) : Prop where
  input : scope.input.Extends more.input
  functions : scope.functions.Extends more.functions
  lookups : scope.lookups.Extends more.lookups

theorem Scope.Finds.extended {scope more : Scope} (h : scope.Extends more) {key : String}
    {table : TableRef} {transform : Transform} (hf : scope.Finds key table transform) :
    more.Finds key table transform := by
  cases hf with
  | inline => exact .inline
  | named known => exact .named (h.lookups _ _ known)

section Build

variable {scope more : Scope}

mutual

/-- What mirrors a definition has a counterpart in every extension of the scope and of the output
fragment, with the same plan but for the fragments. -/
theorem Mirrors.extended {definition : Definition} {output output' : Fragment} {level : Level} :
    Mirrors scope definition output level → scope.Extends more → output.Extends output' →
      ∃ level', Mirrors more definition output' level' ∧
        level'.withoutFragments = level.withoutFragments
  | .level each, hs, ho => by
    obtain ⟨nodes', hm, he⟩ := each.extended hs ho
    refine ⟨_, .level hm, ?_⟩
    simp only [Level.withoutFragments, Level.recast, he]

theorem MirrorsFields.extended {constants : Fields} {output output' : Fragment}
    {fields : List (String × Spec)} {nodes : List Node} :
    MirrorsFields scope constants output fields nodes → scope.Extends more →
      output.Extends output' → ∃ nodes', MirrorsFields more constants output' fields nodes' ∧
        recastNodes (fun _ => .empty) id nodes' = recastNodes (fun _ => .empty) id nodes
  | .nil, _, _ => ⟨[], .nil, rfl⟩
  | .cons fresh declared head tail, hs, ho => by
    obtain ⟨target', hd, ht⟩ := declared.extended ho
    obtain ⟨strategy', hh, hes⟩ := head.extended hs ht
    obtain ⟨nodes', hn, hen⟩ := tail.extended hs ho
    refine ⟨_, .cons fresh hd hh hn, ?_⟩
    rw [recastNodes, recastNodes, Node.recast, Node.recast, hes, hen]

theorem MirrorsSpec.extended {key : String} {spec : Spec} {target target' : Fragment}
    {strategy : Strategy} :
    MirrorsSpec scope key spec target strategy → scope.Extends more → target.Extends target' →
      ∃ strategy', MirrorsSpec more key spec target' strategy' ∧
        strategy'.recast (fun _ => .empty) id = strategy.recast (fun _ => .empty) id
  | .copy bound, hs, _ => by
    obtain ⟨_, hb, -⟩ := bound.extended hs.input
    exact ⟨_, .copy hb, rfl⟩
  | .lookup bound found, hs, _ => by
    obtain ⟨_, hb, -⟩ := bound.extended hs.input
    exact ⟨_, .lookup hb (found.extended hs), rfl⟩
  | .functionOfField bound known, hs, _ => by
    obtain ⟨_, hb, -⟩ := bound.extended hs.input
    exact ⟨_, .functionOfField hb (hs.functions _ _ known), rfl⟩
  | .functionOfInput known, hs, _ => ⟨_, .functionOfInput (hs.functions _ _ known), rfl⟩
  | .object kind inner, hs, ht => by
    obtain ⟨level', hl, he⟩ := inner.extended hs ht
    refine ⟨_, .object (ht.kind.trans kind) hl, ?_⟩
    exact congrArg Strategy.nestedObject he
  | .array kind itemsOf each, hs, ht => by
    obtain ⟨items', hi, hx⟩ := itemsOf.extended ht
    obtain ⟨levels', hl, he⟩ := each.extended hs hx
    refine ⟨_, .array (ht.kind.trans kind) hi hl, ?_⟩
    exact congrArg Strategy.nestedArray he

theorem MirrorsLevels.extended {items items' : Fragment} {definitions : List Definition}
    {levels : List Level} :
    MirrorsLevels scope items definitions levels → scope.Extends more → items.Extends items' →
      ∃ levels', MirrorsLevels more items' definitions levels' ∧
        recastLevels (fun _ => .empty) id levels' = recastLevels (fun _ => .empty) id levels
  | .nil, _, _ => ⟨[], .nil, rfl⟩
  | .cons head tail, hs, hi => by
    obtain ⟨level', hl, hel⟩ := head.extended hs hi
    obtain ⟨levels', ht, het⟩ := tail.extended hs hi
    refine ⟨_, .cons hl ht, ?_⟩
    rw [recastLevels, recastLevels, het]
    exact congrArg (· :: _) hel

end

theorem build_extended {definition : Definition} {output output' : Fragment} {plan : Level}
    (hp : (scope.build definition output).outcome = .ok plan) (hs : scope.Extends more)
    (ho : output.Extends output') :
    ∃ plan', (more.build definition output').outcome = .ok plan' ∧
      plan'.withoutFragments = plan.withoutFragments := by
  obtain ⟨plan', hm, he⟩ := (build_eq_ok.mp hp).extended hs ho
  exact ⟨plan', build_eq_ok.mpr hm, he⟩

end Build

/-- Two mappers keep plans that are equal but for their fragments, and that make the same of every
input: equal outputs or equal failures, with equal journals. -/
def Mapper.KeepSamePlan (mapper mapper' : Mapper) : Prop :=
  ∃ plan plan', mapper.plan? = some plan ∧ mapper'.plan? = some plan' ∧
    plan.withoutFragments = plan'.withoutFragments ∧
    ∀ input origin, plan.apply input origin = plan'.apply input origin

theorem Mapper.compileParsed_extended {mapper mapper' compiled : Mapper} {definition : Definition}
    {input output input' output' : Fragment}
    (hc : (mapper.compileParsed definition input output).outcome = .ok compiled)
    (hf : mapper.functions.Extends mapper'.functions)
    (hl : mapper.lookups.Extends mapper'.lookups)
    (hi : input.Extends input') (ho : output.Extends output') :
    ∃ compiled', (mapper'.compileParsed definition input' output').outcome = .ok compiled' ∧
      compiled.KeepSamePlan compiled' := by
  obtain ⟨plan, hp, rfl⟩ := compileParsed_eq_ok.mp hc
  have hs : Scope.Extends ⟨input, mapper.functions, mapper.lookups⟩
      ⟨input', mapper'.functions, mapper'.lookups⟩ := ⟨hi, hf, hl⟩
  obtain ⟨plan', hp', he⟩ := build_extended hp hs ho
  have hc' := compileParsed_eq_ok.mpr ⟨plan', hp', rfl⟩
  exact ⟨_, hc', plan, plan', rfl, rfl, he.symm, apply_eq_of_withoutFragments_eq he.symm⟩

/-- What compiled against two raw schemas compiles against all that extend them, with resolvers that
extend the mapper's own, whether the definition was put together by hand or is read from a value. The
plans are equal but for the fragments that they keep, and make the same of every input. -/
theorem compile_of_extends {mapper mapper' : Mapper}
    {inputSchema outputSchema inputSchema' outputSchema' : Value}
    (hf : mapper.functions.Extends mapper'.functions)
    (hl : mapper.lookups.Extends mapper'.lookups)
    (hi : SchemaExtends inputSchema inputSchema')
    (ho : SchemaExtends outputSchema outputSchema') :
    (∀ definition input output compiled,
      Fragment.Reads inputSchema input → Fragment.Reads outputSchema output →
        (mapper.compileParsed definition input output).outcome = .ok compiled →
          ∃ input' output' compiled',
            Fragment.Reads inputSchema' input' ∧ Fragment.Reads outputSchema' output' ∧
            (mapper'.compileParsed definition input' output').outcome = .ok compiled' ∧
            compiled.KeepSamePlan compiled') ∧
    ∀ definition compiled,
      (mapper.compile definition inputSchema outputSchema).outcome = .ok compiled →
        ∃ compiled',
          (mapper'.compile definition inputSchema' outputSchema').outcome = .ok compiled' ∧
          compiled.KeepSamePlan compiled' := by
  have parsed : ∀ definition input output compiled,
      Fragment.Reads inputSchema input → Fragment.Reads outputSchema output →
        (mapper.compileParsed definition input output).outcome = .ok compiled →
          ∃ input' output' compiled',
            Fragment.Reads inputSchema' input' ∧ Fragment.Reads outputSchema' output' ∧
            (mapper'.compileParsed definition input' output').outcome = .ok compiled' ∧
            compiled.KeepSamePlan compiled' := by
    intro definition input output compiled hri hro hc
    obtain ⟨input', hri', hxi⟩ := hri.extended hi
    obtain ⟨output', hro', hxo⟩ := hro.extended ho
    obtain ⟨compiled', hc', hk⟩ := Mapper.compileParsed_extended hc hf hl hxi hxo
    exact ⟨input', output', compiled', hri', hro', hc', hk⟩
  refine ⟨parsed, fun definition compiled hc => ?_⟩
  obtain ⟨read, input, output, hd, hri, hro, hc⟩ := Mapper.compile_ok_iff_compileParsed.mp hc
  obtain ⟨input', output', compiled', hri', hro', hc', hk⟩ :=
    parsed read input output compiled hri hro hc
  have hall := Mapper.compile_ok_iff_compileParsed.mpr ⟨read, input', output', hd, hri', hro', hc'⟩
  exact ⟨compiled', hall, hk⟩

section Visits

def visitsDefinition : Value := .object
  [("visits", .object [("$nested", .list
    [.object [("city", .object [("source", "town"), ("lookup", "towns")])]])])]

def visitsInput : Value := .object [("properties", .object [("town", .object [])])]

def visitsInputMore : Value := .object
  [("title", "visits"), ("properties", .object [("zip", .int 3), ("town", .object [])])]

def visitsOutput : Value := .object
  [("properties", .object
    [("visits", .object
      [("type", "array"), ("items", .object [("properties", .object [("city", .object [])])])])])]

/-- The items have one property more, which no fragment could be read from. -/
def visitsOutputMore : Value := .object
  [("properties", .object
    [("visits", .object
      [("type", "array"),
        ("items", .object [("properties", .object [("zip", .null), ("city", .object [])])])])])]

def visitsMapper : Mapper :=
  .new .default .unconfigured (LookupTables.resolver ⟨[("towns", [("B", "Berlin")])]⟩)

def visitsMapperMore : Mapper :=
  .new ⟨"erp", true⟩ Registry.builtins.resolver
    (LookupTables.resolver ⟨[("lands", []), ("towns", [("B", "Berlin")])]⟩)

private theorem get?_singleton_eq_some {key name : String} {value found : Value}
    (h : Fields.get? [(key, value)] name = some found) : key = name ∧ value = found := by
  rw [Fields.get?_cons] at h
  by_cases hk : key = name
  · rw [if_pos hk] at h
    exact ⟨hk, Option.some.inj h⟩
  · rw [if_neg hk] at h
    cases h

/-- One property more at the top of the input schema and one more in the items of the output
schema, functions where there were none and one lookup table more. -/
theorem compile_of_extends_visits :
    visitsMapper.functions.Extends visitsMapperMore.functions ∧
    visitsMapper.lookups.Extends visitsMapperMore.lookups ∧
    SchemaExtends visitsInput visitsInputMore ∧ SchemaExtends visitsOutput visitsOutputMore ∧
    ∃ compiled compiled',
      (visitsMapper.compile visitsDefinition visitsInput visitsOutput).outcome = .ok compiled ∧
      (visitsMapperMore.compile visitsDefinition visitsInputMore visitsOutputMore).outcome =
        .ok compiled' ∧
      compiled.KeepSamePlan compiled' := by
  have hi : SchemaExtends visitsInput visitsInputMore := by
    refine .object rfl (Or.inr ⟨_, rfl⟩) (fun name value hv => ?_) .same
    obtain ⟨rfl, rfl⟩ := get?_singleton_eq_some hv
    exact .same
  have ho : SchemaExtends visitsOutput visitsOutputMore := by
    refine .object rfl (Or.inr ⟨_, rfl⟩) (fun name value hv => ?_) .same
    obtain ⟨rfl, rfl⟩ := get?_singleton_eq_some hv
    refine .extended (.object rfl (Or.inl rfl) (fun name value hv => ?_) ?_)
    · cases hv
    · refine .extended (.object rfl (Or.inr ⟨_, rfl⟩) (fun name value hv => ?_) .same)
      obtain ⟨rfl, rfl⟩ := get?_singleton_eq_some hv
      exact .same
  have hf : visitsMapper.functions.Extends visitsMapperMore.functions := by
    intro name transform h
    cases h
  have hl : visitsMapper.lookups.Extends visitsMapperMore.lookups := by
    intro name transform h
    by_cases hn : name = "towns"
    · subst hn
      exact h
    · have hb : ("towns" == name) = false := beq_false_of_ne (Ne.symm hn)
      have hm : visitsMapper.lookups.find? name = none := by
        simp [visitsMapper, Mapper.new, LookupTables.resolver, Resolver.find?, LookupTables.find?,
          LookupTables.table?, hb]
      rw [hm] at h
      cases h
  obtain ⟨compiled, hc⟩ : ∃ compiled,
      (visitsMapper.compile visitsDefinition visitsInput visitsOutput).outcome = .ok compiled :=
    ⟨_, rfl⟩
  obtain ⟨-, raw⟩ := compile_of_extends hf hl hi ho
  obtain ⟨compiled', hc', hk⟩ := raw visitsDefinition compiled hc
  exact ⟨hf, hl, hi, ho, compiled, compiled', hc, hc', hk⟩

end Visits

end Reshape
