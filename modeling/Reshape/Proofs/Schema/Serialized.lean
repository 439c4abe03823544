import Reshape.Proofs.Mapper

/-!
# Serialized schemas

Writing a fragment out leaves out what counts as absent: null keywords, no properties, and every
keyword that no mapping consults. Reading it again gives the fragment, so nothing that can be reached
from a schema, and nothing that is compiled against it, changes when it is written out first. What is
written out are the raw values as they stand, so the parts below a fragment keep their other keywords.
-/
namespace Reshape

namespace Fragment

/-- No keyword of the fragment is null. -/
structure Clean (fragment : Fragment) : Prop where
  kind : fragment.kind ≠ some .null
  items : fragment.items ≠ some .null

/-- A step to a fragment that another one declares. -/
inductive Step where
  | property (name : String)
  | items
  deriving DecidableEq, Repr

/-- The fragment behind a step; none if it is not declared. -/
def step (fragment : Fragment) : Step → Except Error (Option Fragment)
  | .property name => fragment.property name
  | .items => some <$> fragment.itemsOrEmpty

/-- The fragment at the end of a walk; none if one on the way is not declared. -/
def walk : Fragment → List Step → Except Error (Option Fragment)
  | fragment, [] => .ok (some fragment)
  | fragment, step :: rest => do
    match ← fragment.step step with
    | none => return none
    | some next => walk next rest

/-- Read a schema and walk from there. -/
def reach (argument : String) (schema : Value) (path : List Step) :
    Except Error (Option Fragment) := do
  (← ofValue argument schema).walk path

section Keywords

theorem get?_optional (key : String) (part : Option Value) (name : String) :
    Fields.get? (part.toList.map fun value => (key, value)) name =
      if key = name then part else none := by
  cases part <;> simp [Fields.get?]

theorem keys_optional_sublist (key : String) (part : Option Value) :
    (Fields.keys (part.toList.map fun value => (key, value))).Sublist [key] := by
  cases part <;> simp [Fields.keys]

/-- The properties as a keyword: absent if there are none. -/
def propertiesPart (fragment : Fragment) : Option Value :=
  if fragment.properties.isEmpty then none else some (.object fragment.properties)

/-- The keywords of a fragment as they are written. -/
def keywords (fragment : Fragment) : Fields :=
  (fragment.kind.toList.map fun kind => ("type", kind)) ++
    (fragment.propertiesPart.toList.map fun properties => ("properties", properties)) ++
    (fragment.items.toList.map fun items => ("items", items))

theorem toValue_eq (fragment : Fragment) : fragment.toValue = .object fragment.keywords := by
  rw [toValue, keywords, propertiesPart]
  cases fragment.properties.isEmpty <;> rfl

theorem keys_keywords_sublist (fragment : Fragment) :
    fragment.keywords.keys.Sublist ["type", "properties", "items"] := by
  have h := ((keys_optional_sublist "type" fragment.kind).append
    (keys_optional_sublist "properties" fragment.propertiesPart)).append
    (keys_optional_sublist "items" fragment.items)
  rw [keywords, Fields.keys, List.map_append, List.map_append]
  exact h

theorem get?_keywords (fragment : Fragment) :
    fragment.keywords.get? "type" = fragment.kind ∧
    fragment.keywords.get? "properties" = fragment.propertiesPart ∧
    fragment.keywords.get? "items" = fragment.items := by
  simp [keywords, Fields.get?_append, get?_optional]

end Keywords

variable {fragment : Fragment} {argument : String} {value : Value}

theorem filter_isNull_eq_self {part : Option Value} (h : part ≠ some .null) :
    part.filter (fun value => !value.isNull) = part := by
  rcases part with _ | value
  · rfl
  · cases value with
    | null => exact absurd rfl h
    | _ => rfl

theorem keyword_ne_null (fields : Fields) (name : String) : keyword fields name ≠ some .null := by
  intro h
  have hn := (Option.filter_eq_some_iff.mp h).2
  cases hn

theorem Reads.clean (h : Reads value fragment) : fragment.Clean := by
  cases h <;> exact ⟨keyword_ne_null _ _, keyword_ne_null _ _⟩

theorem clean_empty : empty.Clean := ⟨nofun, nofun⟩

/-- A fragment without null keywords is what its written form reads as. -/
theorem Clean.reads_toValue (h : fragment.Clean) : Reads fragment.toValue fragment := by
  obtain ⟨hkind, hproperties, hitems⟩ := fragment.get?_keywords
  have hk : keyword fragment.keywords "type" = fragment.kind := by
    rw [keyword, hkind, filter_isNull_eq_self h.kind]
  have hi : keyword fragment.keywords "items" = fragment.items := by
    rw [keyword, hitems, filter_isNull_eq_self h.items]
  rw [propertiesPart] at hproperties
  rw [toValue_eq]
  cases hp : fragment.properties with
  | nil =>
    rw [hp] at hproperties
    have hr := Reads.bare hproperties
    rwa [hk, hi, ← hp] at hr
  | cons property rest =>
    rw [hp] at hproperties
    have hr := Reads.full hproperties
    rwa [hk, hi, ← hp] at hr

theorem Clean.ofValue_toValue (h : fragment.Clean) (argument : String) :
    ofValue argument fragment.toValue = .ok fragment := ofValue_eq_ok.mpr h.reads_toValue

section Walks

variable {step : Step} {path front back : List Step} {reached : Fragment}

/-- What is behind a step was read from a raw value or declares nothing. -/
theorem clean_of_step (h : fragment.step step = .ok (some reached)) : reached.Clean := by
  cases step with
  | property name =>
    obtain ⟨value, -, hr⟩ := property_eq_ok_some.mp h
    exact hr.clean
  | items =>
    obtain ⟨items, hi, he⟩ := Outcome.map_eq_ok.mp h
    cases he
    cases itemsOrEmpty_eq_ok.mp hi with
    | object raw reads => exact reads.clean
    | none raw => exact clean_empty

theorem walk_append (fragment : Fragment) (front back : List Step) :
    fragment.walk (front ++ back) = (do
      match ← fragment.walk front with
      | none => return none
      | some reached => reached.walk back) := by
  induction front generalizing fragment with
  | nil => rfl
  | cons step rest ih =>
    rw [List.cons_append, walk, walk, bind_assoc]
    congr 1
    funext next
    cases next with
    | none => rfl
    | some next => exact ih next

theorem clean_of_walk (hf : fragment.Clean) (h : fragment.walk path = .ok (some reached)) :
    reached.Clean := by
  induction path generalizing fragment with
  | nil => cases h; exact hf
  | cons step rest ih =>
    rw [walk] at h
    obtain ⟨next, hs, hw⟩ := Outcome.bind_eq_ok.mp h
    cases next with
    | none => cases hw
    | some next => exact ih (clean_of_step hs) hw

theorem reach_of_ofValue (h : ofValue argument value = .ok fragment) (path : List Step) :
    reach argument value path = fragment.walk path := by
  rw [reach, h, Outcome.ok_bind]

end Walks

/-- A fragment that was read from a schema survives being written out: as an object of its keywords
in their order, which reads as the same fragment on behalf of any argument, has the same text when it
is written once more, and leads to the same end of every walk. The fragments on the way may be
written out as well. -/
structure Survives (schema : Value) (fragment : Fragment) : Prop where
  keywords : ∃ fields : Fields, fragment.toValue = .object fields ∧
    fields.keys.Sublist ["type", "properties", "items"]
  read : ∀ argument, ofValue argument fragment.toValue = .ok fragment
  text : ∀ argument again, ofValue argument fragment.toValue = .ok again →
    Json.compact again.toValue = Json.compact fragment.toValue
  walk : ∀ argument path, reach argument fragment.toValue path = reach argument schema path
  onTheWay : ∀ argument front back reached, reach argument schema front = .ok (some reached) →
    reach argument reached.toValue back = reach argument schema (front ++ back)

theorem survives_of_ofValue (h : ofValue argument value = .ok fragment) :
    fragment.Survives value := by
  have hreads : Reads value fragment := ofValue_eq_ok.mp h
  have hread := hreads.clean.ofValue_toValue
  have hreach (argument : String) (path : List Step) :
      reach argument value path = fragment.walk path :=
    reach_of_ofValue (ofValue_eq_ok.mpr hreads) path
  refine ⟨⟨_, fragment.toValue_eq, fragment.keys_keywords_sublist⟩, hread, ?_, ?_, ?_⟩
  · intro argument again ha
    rw [hread] at ha
    rw [Except.ok.inj ha]
  · intro argument path
    rw [hreach, reach_of_ofValue (hread argument)]
  · intro argument front back reached hr
    rw [hreach] at hr
    rw [hreach, walk_append, hr,
      reach_of_ofValue ((clean_of_walk hreads.clean hr).ofValue_toValue argument)]
    rfl

end Fragment

open Fragment

/-- Two schemas that can be read survive being written out, and every definition compiles against
what was written, with the same journal, as against the schemas themselves. -/
theorem schemas_survive_serialization {argument argument' : String}
    {inputSchema outputSchema : Value} {input output : Fragment}
    (hi : ofValue argument inputSchema = .ok input)
    (ho : ofValue argument' outputSchema = .ok output) :
    input.Survives inputSchema ∧ output.Survives outputSchema ∧
    ∀ (mapper : Mapper) (definition : Value),
      mapper.compile definition input.toValue output.toValue =
        mapper.compile definition inputSchema outputSchema := by
  have hin := survives_of_ofValue hi
  have hout := survives_of_ofValue ho
  refine ⟨hin, hout, fun mapper definition => ?_⟩
  have hri : ofValue "input schema" inputSchema = .ok input :=
    ofValue_eq_ok.mpr (ofValue_eq_ok.mp hi)
  have hro : ofValue "output schema" outputSchema = .ok output :=
    ofValue_eq_ok.mpr (ofValue_eq_ok.mp ho)
  rw [Mapper.compile, Mapper.compile, hin.read, hout.read, hri, hro]

section Cabin

def cabinInput : Value := .object
  [("required", .list ["berth"]), ("items", .null), ("type", .null),
    ("properties", .object [("berth", .object [("title", "Berth")]), ("deck", .int 3)])]

def cabinOutput : Value := .object
  [("properties", .object
    [("beds", .object
      [("items", .object [("title", "Bed"), ("properties", .object [("berth", .object [])])]),
        ("type", "array")])]),
    ("type", .list ["object", "null"])]

def cabinInputFragment : Fragment :=
  ⟨none, [("berth", .object [("title", "Berth")]), ("deck", .int 3)], none⟩

def cabinOutputFragment : Fragment :=
  ⟨some (.list ["object", "null"]), [("beds", .object
    [("items", .object [("title", "Bed"), ("properties", .object [("berth", .object [])])]),
      ("type", "array")])], none⟩

def cabinDefinition : Value := .object
  [("beds", .object [("$nested", .object [("berth", .object [("source", "berth")])])])]

/-- Null keywords and one that is not consulted are left out, the title of the items stays, and a
malformed property is rejected in the same words. -/
theorem schemas_survive_serialization_cabin :
    ofValue "input schema" cabinInput = .ok cabinInputFragment ∧
    ofValue "output schema" cabinOutput = .ok cabinOutputFragment ∧
    cabinInputFragment.toValue = .object [("properties", .object
      [("berth", .object [("title", "Berth")]), ("deck", .int 3)])] ∧
    reach "schema" cabinInputFragment.toValue [.property "deck"] =
      .error (.invalidArgument "schema for property `deck`" "expected an object, found number") ∧
    reach "schema" cabinOutputFragment.toValue [.property "beds", .items, .property "bunk"] =
      .ok none ∧
    ∃ compiled, ((Mapper.ofConfig .default).compile cabinDefinition cabinInputFragment.toValue
      cabinOutputFragment.toValue).outcome = .ok compiled := by
  have hi : ofValue "input schema" cabinInput = .ok cabinInputFragment := rfl
  have ho : ofValue "output schema" cabinOutput = .ok cabinOutputFragment := rfl
  obtain ⟨hin, hout, compile⟩ := schemas_survive_serialization hi ho
  refine ⟨hi, ho, rfl, ?_, ?_, ?_⟩
  · rw [hin.walk]
    rfl
  · rw [hout.walk]
    rfl
  · rw [compile]
    exact ⟨_, rfl⟩

end Cabin

end Reshape
